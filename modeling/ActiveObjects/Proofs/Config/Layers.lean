import ActiveObjects.Config.Layers
import ActiveObjects.Proofs.Fields
import ActiveObjects.Proofs.Toml.Keys

/-!
# One layer from a document

A document whose keys are bare and have no capital letters becomes a layer, and that layer over
nothing is the document again: no key is read as a path, none changes its letter case, and no table
meets another one.
-/

namespace ActiveObjects

open Text

/-! ## Bare keys -/

/-- A key that needs no quotes and has no capital letters. -/
def IsBareKey (key : String) : Prop :=
  key ≠ "" ∧ ∀ c ∈ key.toList, Toml.isBare c ∧ ¬ c.isUpper

instance (key : String) : Decidable (IsBareKey key) :=
  decidable_of_iff (key ≠ "" ∧ key.toList.all fun c => Toml.isBare c && !c.isUpper)
    (by simp [IsBareKey])

namespace IsBareKey

variable {key : String}

theorem map_toLower (h : IsBareKey key) : key.toList.map Char.toLower = key.toList := by
  refine (List.map_congr_left fun c hc => ?_).trans (List.map_id _)
  have hu : ¬ (c.val ≥ 'A'.val ∧ c.val ≤ 'Z'.val) := fun hu => (h.2 c hc).2 (decide_eq_true hu)
  exact dif_neg hu

theorem lowerCase_eq (h : IsBareKey key) : lowerCase key = key := by
  rw [lowerCase, h.map_toLower, String.ofList_toList]

theorem isNameChar (h : IsBareKey key) : ∀ c ∈ key.toList, PathStep.isNameChar c := by
  intro c hc
  have hb := (h.2 c hc).1
  simp only [Toml.isBare, PathStep.isNameChar, Bool.or_eq_true] at hb ⊢
  tauto

theorem pathOfKey (h : IsBareKey key) : pathOfKey key = [.field key] := by
  have hn : key.toList ≠ [] := by
    simpa using h.1
  have name : PathStep.name.run key.toList = some (.field key, []) := by
    simp [PathStep.name, Scan.run_chars₁ h.isNameChar hn, h.map_toLower]
  have ended : Scan.ended.run [] = some ((), []) := rfl
  simp [ActiveObjects.pathOfKey, Scan.all?, name, Scan.many, Scan.upTo, ended]

theorem ne_momentKey (h : IsBareKey key) : key ≠ Setting.momentKey := by
  rintro rfl
  exact absurd h (by decide)

end IsBareKey

/-- Every table in the value has each key once, and all its keys are bare. -/
def Toml.Plain : Toml → Prop :=
  Toml.EachTable fun keys => keys.Nodup ∧ ∀ key ∈ keys, IsBareKey key

/-! ## Settings of a document -/

namespace Setting

variable {vs : List Toml} {ss : List Setting} {given : List (String × Toml)}
  {fields : List (String × Setting)} {key : String}

theorem ofToml?_table (h : ∀ key ∈ given.map (·.1), IsBareKey key) :
    ofToml? (.table given) = (ofTomlFields? given).map .table := by
  cases given with
  | nil => rfl
  | cons field rest =>
    rw [ofToml?, if_neg (h field.1 (by simp)).ne_momentKey]
    exact bind_pure_comp ..

theorem exists_ofTomls? (h : ∀ v ∈ vs, ∃ s, ofToml? v = some s) : ∃ ss, ofTomls? vs = some ss := by
  induction vs with
  | nil => exact ⟨[], rfl⟩
  | cons v rest ih =>
    obtain ⟨⟨s, hs⟩, h⟩ := List.forall_mem_cons.1 h
    obtain ⟨ss, hm⟩ := ih h
    exact ⟨s :: ss, by simp [ofTomls?, hs, hm]⟩

theorem exists_ofTomlFields? {P : Setting → Prop}
    (h : ∀ field ∈ given, ∃ s, ofToml? field.2 = some s ∧ P s) :
    ∃ fields, ofTomlFields? given = some fields ∧ ∀ field ∈ fields, P field.2 := by
  induction given with
  | nil => exact ⟨[], rfl, by simp⟩
  | cons field rest ih =>
    obtain ⟨⟨s, hs, first⟩, h⟩ := List.forall_mem_cons.1 h
    obtain ⟨fields, hm, others⟩ := ih h
    exact ⟨(field.1, s) :: fields, by simp [ofTomlFields?, hs, hm],
      List.forall_mem_cons.2 ⟨first, others⟩⟩

theorem keys_ofTomlFields? (h : ofTomlFields? given = some fields) :
    fields.map (·.1) = given.map (·.1) := by
  induction given generalizing fields with
  | nil =>
    cases h
    rfl
  | cons field rest ih =>
    obtain ⟨v, -, h⟩ := Option.bind_eq_some_iff.1 h
    obtain ⟨more, hm, h⟩ := Option.bind_eq_some_iff.1 h
    cases h
    rw [List.map_cons, List.map_cons, ih hm]

theorem lookup_ofTomlFields? (h : ofTomlFields? given = some fields) :
    fields.lookup key = (given.lookup key).bind ofToml? := by
  induction given generalizing fields with
  | nil =>
    cases h
    rfl
  | cons field rest ih =>
    obtain ⟨v, hv, h⟩ := Option.bind_eq_some_iff.1 h
    obtain ⟨more, hm, h⟩ := Option.bind_eq_some_iff.1 h
    cases h
    rw [List.lookup_cons, List.lookup_cons, ih hm]
    split
    · exact hv.symm
    · rfl

theorem zip_ofTomls? (h : ofTomls? vs = some ss) (known : List String) :
    ofTomlFields? (known.zip vs) = some (known.zip ss) := by
  induction known generalizing vs ss with
  | nil => rfl
  | cons key known ih =>
    cases vs with
    | nil =>
      cases h
      rfl
    | cons v rest =>
      obtain ⟨s, hs, h⟩ := Option.bind_eq_some_iff.1 h
      obtain ⟨more, hm, h⟩ := Option.bind_eq_some_iff.1 h
      cases h
      simp [ofTomlFields?, hs, ih hm]

/-! ## Laying them over nothing -/

/-- Laid over a field that is not there, the value becomes that field as it stands. -/
def Settles (v : Setting) : Prop :=
  ∀ ⦃target : Setting⦄ ⦃name : String⦄, IsBareKey name → name ∉ target.fields.map (·.1) →
    overlay target name v = .table (target.fields ++ [(name, v)])

theorem put_of_not_mem {v : Setting} (h : key ∉ fields.map (·.1)) :
    put fields key v = fields ++ [(key, v)] :=
  if_neg (mt any_key_iff.1 h)

theorem settles_of_eq {v : Setting}
    (h : ∀ target name, overlay target name v = .table (put target.fields (lowerCase name) v)) :
    v.Settles := by
  intro target name hb hn
  rw [h, hb.lowerCase_eq, put_of_not_mem hn]

theorem overlayAll_settled (done : List (String × Setting))
    (hs : ∀ field ∈ fields, field.2.Settles) (hb : ∀ key ∈ fields.map (·.1), IsBareKey key)
    (hd : ((done ++ fields).map (·.1)).Nodup) :
    overlayAll (.table done) fields = .table (done ++ fields) := by
  induction fields generalizing done with
  | nil => rw [overlayAll, List.append_nil]
  | cons field rest ih =>
    obtain ⟨key, v⟩ := field
    obtain ⟨first, hs⟩ := List.forall_mem_cons.1 hs
    obtain ⟨bare, hb⟩ := List.forall_mem_cons.1 hb
    have fresh : key ∉ done.map (·.1) := by
      rw [List.map_append, List.map_cons] at hd
      exact fun hk => (List.nodup_append.1 hd).2.2 key hk key (List.mem_cons_self ..) rfl
    have placed : overlay (.table done) key v = .table (done ++ [(key, v)]) := first bare fresh
    rw [overlayAll, placed, ih _ hs hb (by simpa using hd), List.append_assoc]
    rfl

theorem settles_table (hs : ∀ field ∈ fields, field.2.Settles)
    (hb : ∀ key ∈ fields.map (·.1), IsBareKey key) (hd : (fields.map (·.1)).Nodup) :
    (table fields).Settles := by
  intro target name bare hn
  have all := overlayAll_settled [] hs hb hd
  rw [overlay, bare.lowerCase_eq, lookup_eq_none_iff_key.2 hn, Option.getD_none, all,
    put_of_not_mem hn, List.nil_append]

/-- A value whose keys are bare has a setting, which lies over nothing as it stands. -/
theorem ofToml?_settles {v : Toml} (h : v.Plain) : ∃ s, ofToml? v = some s ∧ s.Settles := by
  induction h with
  | text s | moment s => exact ⟨.text s, rfl, settles_of_eq fun _ _ => by rw [overlay]; simp⟩
  | integer n => exact ⟨.integer n, rfl, settles_of_eq fun _ _ => by rw [overlay]; simp⟩
  | float x => exact ⟨.float x, rfl, settles_of_eq fun _ _ => by rw [overlay]; simp⟩
  | bool b => exact ⟨.bool b, rfl, settles_of_eq fun _ _ => by rw [overlay]; simp⟩
  | array _ ih =>
    obtain ⟨ss, hs⟩ := exists_ofTomls? fun v hv => (ih v hv).imp fun _ h => h.1
    exact ⟨.array ss, by simp [ofToml?, hs], settles_of_eq fun _ _ => by rw [overlay]; simp⟩
  | table keys _ ih =>
    obtain ⟨fields, hf, settled⟩ := exists_ofTomlFields? ih
    have same := keys_ofTomlFields? hf
    refine ⟨.table fields, by rw [ofToml?_table keys.2, hf]; rfl, settles_table settled ?_ ?_⟩
    · rw [same]
      exact keys.2
    · rw [same]
      exact keys.1

/-- On bare keys a layer is laid over a table field by field. -/
theorem withLayer_bare {target : Setting} {layer : Layer}
    (hb : ∀ key ∈ layer.map (·.1), IsBareKey key) :
    target.withLayer layer = overlayAll target layer := by
  induction layer generalizing target with
  | nil => rw [overlayAll]; rfl
  | cons field rest ih =>
    obtain ⟨key, v⟩ := field
    obtain ⟨bare, hb⟩ := List.forall_mem_cons.1 hb
    have one : assign v (pathOfKey key) target = overlay target key v := by
      rw [bare.pathOfKey, assign]
    rw [overlayAll, ← ih hb, ← one]
    rfl

/-- A document is a layer, which over nothing is the document with its keys and values. -/
theorem ofLayers_document {given : List (String × Toml)} (h : (Toml.table given).Plain) :
    ∃ fields, ofToml? (.table given) = some (.table fields) ∧
      ofLayers [fields, []] = .table fields := by
  cases h with
  | table keys each =>
    obtain ⟨fields, hf, settled⟩ :=
      exists_ofTomlFields? fun field hm => ofToml?_settles (each field hm)
    have same := keys_ofTomlFields? hf
    rw [← same] at keys
    refine ⟨fields, by rw [ofToml?_table (same ▸ keys.2), hf]; rfl, ?_⟩
    have all := overlayAll_settled [] settled keys.2 keys.1
    rw [ofLayers, List.foldl_cons, withLayer_bare keys.2, all]
    rfl

end Setting

end ActiveObjects

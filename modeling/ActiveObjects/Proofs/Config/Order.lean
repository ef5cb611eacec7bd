import ActiveObjects.Proofs.Config.Rulings

/-!
# Layers in other orders

A source may give its keys in any order, and a table its fields; only those of one name keep theirs.
A layer in another order rules the same on every setting, but what it rules on one setting may come
in another order, too.
-/

namespace ActiveObjects

namespace Setting

/-- A value with the fields of its tables in another order: two neighbours may change places if they
have different names. -/
inductive Reorders : Setting → Setting → Prop
  | refl (v : Setting) : Reorders v v
  | trans {v w u : Setting} : Reorders v w → Reorders w u → Reorders v u
  | swap (before : List (String × Setting)) {a b : String × Setting}
      (after : List (String × Setting)) (h : a.1 ≠ b.1) :
      Reorders (.table (before ++ a :: b :: after)) (.table (before ++ b :: a :: after))
  | field (before : List (String × Setting)) (name : String) {v w : Setting}
      (after : List (String × Setting)) : Reorders v w →
      Reorders (.table (before ++ (name, v) :: after)) (.table (before ++ (name, w) :: after))
  | item (before : List Setting) {v w : Setting} (after : List Setting) : Reorders v w →
      Reorders (.array (before ++ v :: after)) (.array (before ++ w :: after))

/-- A ruling with values in another order. -/
inductive Ruling.Reorders : Ruling → Ruling → Prop
  | refl (ruling : Ruling) : Reorders ruling ruling
  | gives {v w : Setting} : v.Reorders w → Reorders (.gives v) (.gives w)
  | edits {v w : Setting} (index : Int) (steps : List PathStep) : v.Reorders w →
      Reorders (.edits v index steps) (.edits w index steps)

variable {v w : Setting} {r : Ruling}

theorem Reorders.symm (h : v.Reorders w) : w.Reorders v := by
  induction h with
  | refl v => exact .refl v
  | trans _ _ ih ih' => exact ih'.trans ih
  | swap before after h => exact .swap before after h.symm
  | field before name after _ ih => exact .field before name after ih
  | item before after _ ih => exact .item before after ih

theorem Ruling.Reorders.symm {r r' : Ruling} (h : r.Reorders r') : r'.Reorders r := by
  cases h with
  | refl => exact .refl r
  | gives h => exact .gives h.symm
  | edits index steps h => exact .edits index steps h.symm

theorem Ruling.Reorders.trans {r r' r'' : Ruling} (h : r.Reorders r') (h' : r'.Reorders r'') :
    r.Reorders r'' := by
  cases h with
  | refl => exact h'
  | gives h =>
    cases h' with
    | refl => exact .gives h
    | gives h' => exact .gives (h.trans h')
  | edits index steps h =>
    cases h' with
    | refl => exact .edits index steps h
    | edits _ _ h' => exact .edits index steps (h.trans h')

/-- The fields of a table that is reordered have the names that they had. -/
theorem Reorders.exists_field (h : v.Reorders w) {name : String} {old : Setting}
    (hm : (name, old) ∈ v.fields) : ∃ new, (name, new) ∈ w.fields ∧ old.Reorders new := by
  induction h generalizing old with
  | refl v => exact ⟨old, hm, .refl old⟩
  | trans _ _ ih ih' =>
    obtain ⟨middle, hm, first⟩ := ih hm
    obtain ⟨new, hm, second⟩ := ih' hm
    exact ⟨new, hm, first.trans second⟩
  | swap before after h =>
    refine ⟨old, ?_, .refl old⟩
    simp only [fields, List.mem_append, List.mem_cons] at hm ⊢
    rwa [or_left_comm (a := (name, old) = _)]
  | field before key after h ih =>
    simp only [fields, List.mem_append, List.mem_cons] at hm ⊢
    rcases hm with hm | hm | hm
    · exact ⟨old, .inl hm, .refl old⟩
    · cases hm
      exact ⟨_, .inr (.inl rfl), h⟩
    · exact ⟨old, .inr (.inr hm), .refl old⟩
  | item => simp [fields] at hm

theorem mem_rulings_table_cons {fields : List (String × Setting)} {name : String}
    {path : List String} :
    r ∈ (table fields).rulings (name :: path) ↔
      ∃ field ∈ fields, lowerCase field.1 = name ∧ r ∈ field.2.rulings path := by
  simp [rulings]

theorem rulings_table_nil {fields : List (String × Setting)} (h : fields ≠ []) :
    (table fields).rulings [] = [.opens] := by
  cases fields with
  | nil => contradiction
  | cons field rest => rfl

theorem Reorders.exists_table (h : v.Reorders w) (hv : ∃ fields, v = .table fields) :
    ∃ fields, w = .table fields := by
  induction h with
  | refl => exact hv
  | trans _ _ ih ih' => exact ih' (ih hv)
  | swap => exact ⟨_, rfl⟩
  | field => exact ⟨_, rfl⟩
  | item =>
    obtain ⟨fields, hv⟩ := hv
    cases hv

theorem Reorders.exists_ruling_nil (h : v.Reorders w) (hr : r ∈ v.rulings []) :
    ∃ r' ∈ w.rulings [], r.Reorders r' := by
  induction h generalizing r with
  | refl v => exact ⟨r, hr, .refl r⟩
  | trans _ _ ih ih' =>
    obtain ⟨middle, hm, first⟩ := ih hr
    obtain ⟨r', hr', second⟩ := ih' hm
    exact ⟨r', hr', first.trans second⟩
  | swap => exact ⟨r, by rwa [rulings_table_nil (by simp)] at hr ⊢, .refl r⟩
  | field => exact ⟨r, by rwa [rulings_table_nil (by simp)] at hr ⊢, .refl r⟩
  | item before after h =>
    obtain rfl := List.mem_singleton.1 hr
    exact ⟨_, List.mem_singleton_self _, .gives (.item before after h)⟩

/-- A value rules the same in another order. -/
theorem Reorders.exists_ruling (h : v.Reorders w) {path : List String} (hr : r ∈ v.rulings path) :
    ∃ r' ∈ w.rulings path, r.Reorders r' := by
  induction path generalizing v w with
  | nil => exact h.exists_ruling_nil hr
  | cons name path ih =>
    by_cases hv : ∃ fields, v = .table fields
    · obtain ⟨fields', rfl⟩ := h.exists_table hv
      obtain ⟨fields, rfl⟩ := hv
      obtain ⟨field, hm, same, hr⟩ := mem_rulings_table_cons.1 hr
      obtain ⟨new, hm, reordered⟩ := h.exists_field hm
      obtain ⟨r', hr', ruled⟩ := ih reordered hr
      exact ⟨r', mem_rulings_table_cons.2 ⟨_, hm, same, hr'⟩, ruled⟩
    · have hw : ¬∃ fields, w = .table fields := fun hw => hv (h.symm.exists_table hw)
      rw [rulings_cons_of_not_table (not_exists.1 hv)] at hr
      rw [rulings_cons_of_not_table (not_exists.1 hw)]
      exact ⟨r, hr, .refl r⟩

/-- An assignment of a value rules the same in another order. -/
theorem Reorders.exists_assignRuling (h : v.Reorders w) {steps : List PathStep}
    {path : List String} (hr : r ∈ assignRulings v steps path) :
    ∃ r' ∈ assignRulings w steps path, r.Reorders r' := by
  induction steps generalizing path with
  | nil => simp [assignRulings] at hr
  | cons step steps ih =>
    cases step with
    | item index =>
      cases path with
      | nil =>
        obtain rfl := List.mem_singleton.1 hr
        exact ⟨_, List.mem_singleton_self _, .edits index steps h⟩
      | cons name path => exact ⟨r, hr, .refl r⟩
    | field key =>
      cases path with
      | nil => exact ⟨r, by simpa [assignRulings] using hr, .refl r⟩
      | cons name path =>
        cases steps with
        | nil =>
          rw [assignRulings] at hr ⊢
          split at hr
          · rename_i same
            simpa [same] using h.exists_ruling hr
          · simp at hr
        | cons next steps =>
          rw [assignRulings_field_cons] at hr ⊢
          split at hr
          · rename_i same
            simpa [same] using ih hr
          · simp at hr

/-! ## Values that have no order -/

/-- A value that is neither a table nor an array. -/
def Scalar (v : Setting) : Prop := (∀ fields, v ≠ .table fields) ∧ ∀ items, v ≠ .array items

theorem Reorders.eq_of_scalar (h : v.Reorders w) (hv : v.Scalar) : w = v := by
  induction h with
  | refl => rfl
  | trans _ _ ih ih' =>
    obtain rfl := ih hv
    exact ih' hv
  | swap => exact absurd rfl (hv.1 _)
  | field => exact absurd rfl (hv.1 _)
  | item => exact absurd rfl (hv.2 _)

/-- Fields of one name with scalar values are as they were. -/
theorem Reorders.filter_fields (h : v.Reorders w) (hv : ∀ field ∈ v.fields, field.2.Scalar)
    (name : String) : w.fields.filter (·.1 = name) = v.fields.filter (·.1 = name) := by
  induction h with
  | refl => rfl
  | @trans v w u first _ ih ih' =>
    have scalar : ∀ field ∈ w.fields, field.2.Scalar := fun field hm => by
      obtain ⟨old, hm, reordered⟩ := first.symm.exists_field hm
      obtain rfl := reordered.symm.eq_of_scalar (hv _ hm)
      exact hv _ hm
    exact (ih' scalar).trans (ih hv)
  | @swap before a b after h =>
    simp only [fields, List.filter_append, List.filter_cons, decide_eq_true_eq]
    by_cases ha : a.1 = name
    · have hb : b.1 ≠ name := fun hb => h (ha.trans hb.symm)
      simp [ha, hb]
    · simp [ha]
  | @field before key v w after h =>
    obtain rfl := h.eq_of_scalar (hv (key, v) (by simp [fields]))
    rfl
  | item => rfl

end Setting

open Setting

/-! ## Layers -/

/-- A layer with its keys in another order. -/
def Layer.Reorders (laid given : Layer) : Prop := (table laid).Reorders (.table given)

/-- What one layer rules, the other does too, if maybe in another order. -/
def Layer.RulesAs (laid given : Layer) : Prop := ∀ path : List String,
  (∀ r ∈ laid.rulings path, ∃ r' ∈ given.rulings path, r.Reorders r') ∧
    ∀ r ∈ given.rulings path, ∃ r' ∈ laid.rulings path, r'.Reorders r

namespace Layer

variable {laid given : Layer}

theorem Reorders.refl (layer : Layer) : layer.Reorders layer :=
  Setting.Reorders.refl (.table layer)

theorem Reorders.exists_ruling (h : laid.Reorders given) {path : List String} {r : Ruling}
    (hr : r ∈ laid.rulings path) : ∃ r' ∈ given.rulings path, r.Reorders r' := by
  obtain ⟨⟨key, v⟩, hm, hr⟩ := List.mem_flatMap.1 hr
  obtain ⟨w, hm, reordered⟩ := Setting.Reorders.exists_field h hm
  obtain ⟨r', hr', ruled⟩ := reordered.exists_assignRuling hr
  exact ⟨r', List.mem_flatMap.2 ⟨(key, w), hm, hr'⟩, ruled⟩

/-- In another order, a layer rules the same. -/
theorem Reorders.rulesAs (h : laid.Reorders given) : laid.RulesAs given := by
  refine fun path => ⟨fun r hr => h.exists_ruling hr, fun r hr => ?_⟩
  have back : given.Reorders laid := Setting.Reorders.symm h
  obtain ⟨r', hr', ruled⟩ := back.exists_ruling hr
  exact ⟨r', hr', ruled.symm⟩

end Layer

end ActiveObjects

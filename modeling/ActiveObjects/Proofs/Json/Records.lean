import ActiveObjects.Json.Record
import ActiveObjects.Proofs.Json.RoundTrip

/-!
# Records written and read

A record that is written with all of its fields is read field by field, and what kind of record it
is does not get in the way.
-/

namespace ActiveObjects.Json.Tree

/-- The fields of an object as they are found in its tree. -/
def fieldTrees (fields : List (String × Json)) : List (String × Tree) :=
  fields.map fun field => (field.1, ofValue field.2)

/-- The record with these fields. -/
def recordOf (fields : List (String × Json)) : Record Tree :=
  ⟨fun key => (fieldTrees fields).lookup key, false, isNull⟩

theorem plainFields?_ofFieldValues (fields : List (String × Json)) :
    plainFields? (ofFieldValues fields) = some (fieldTrees fields) := by
  induction fields with
  | nil => rfl
  | cons field fields ih =>
    rw [plainFields?] at ih
    rw [ofFieldValues, plainFields?, List.mapM_cons, ih]
    rfl

theorem knownFields?_fieldTrees {known : List String} {fields : List (String × Json)}
    (hk : fields.map (·.1) = known) (hn : known.Nodup) :
    knownFields? known (fieldTrees fields) = some (recordOf fields) := by
  have keys : (fieldTrees fields).map (·.1) = known := by
    rw [← hk, fieldTrees, List.map_map]
    rfl
  have all : known.filter known.contains = known := by
    rw [List.filter_eq_self]
    simp
  rw [knownFields?, keys]
  simp [all, hn, recordOf]

/-- A record is read from an object of all its fields. -/
theorem record?_ofValue {known : List String} {fields : List (String × Json)}
    (hk : fields.map (·.1) = known) (hn : known.Nodup) :
    (ofValue (.object fields)).record? known = some (recordOf fields) := by
  have others : (fieldTrees fields).filter (fun field => !known.contains field.1) = [] := by
    rw [List.filter_eq_nil_iff]
    rintro ⟨key, t⟩ hm
    obtain ⟨⟨name, value⟩, hv, heq⟩ := List.mem_map.1 hm
    cases heq
    have member : name ∈ known := hk ▸ List.mem_map_of_mem hv
    simp [member]
  have skippable : ((fieldTrees fields).filter (fun field => !known.contains field.1)).all
      (fun field => field.2.isSkippable) = true := by
    rw [others]
    rfl
  rw [ofValue, record?, plainFields?_ofFieldValues, Option.bind_eq_bind, Option.bind_some]
  refine (congrArg (· >>= _) (if_pos skippable)).trans ?_
  exact knownFields?_fieldTrees hk hn

/-! ## Tagged records -/

/-- A value that holds no others. -/
def isFlat : Json → Bool
  | .array _ | .object _ => false
  | _ => true

theorem isSome_value?_of_isFlat {j : Json} (h : isFlat j) (room : Nat) :
    (value? room (ofValue j)).isSome := by
  cases j <;> first | rfl | cases h

/-- An object of values without others nests one level deep. -/
theorem isSome_value?_object {fields : List (String × Json)}
    (h : ∀ field ∈ fields, isFlat field.2) (room : Nat) :
    (value? (room + 1) (ofValue (.object fields))).isSome := by
  have read : (fieldValues? room (ofFieldValues fields)).isSome := by
    induction fields with
    | nil => rfl
    | cons field fields ih =>
      have first := isSome_value?_of_isFlat (h field (List.mem_cons_self ..)) room
      have rest := ih fun other ho => h other (List.mem_cons_of_mem _ ho)
      obtain ⟨value, hv⟩ := Option.isSome_iff_exists.1 first
      obtain ⟨values, hvs⟩ := Option.isSome_iff_exists.1 rest
      simp [ofFieldValues, fieldValues?, hv, hvs]
  simp [ofValue, value?, read]

/-- The kind of a tagged record is read from its first field, and the others are left. -/
theorem tagged?_ofValue {tag kind : String} {fields : List (String × Json)}
    (ht : tag ∉ fields.map (·.1)) (hf : ∀ field ∈ fields, isFlat field.2) (room : Nat) :
    (ofValue (.object ((tag, .string kind) :: fields))).tagged? tag (room + 1) =
      some (kind, (knownFields? · (fieldTrees fields))) := by
  have flat : ∀ field ∈ (tag, Json.string kind) :: fields, isFlat field.2 := by
    intro field hm
    rcases List.mem_cons.1 hm with rfl | hm
    · rfl
    · exact hf field hm
  have proper := isSome_value?_object flat room
  have other : ∀ field ∈ fieldTrees fields, field.1 ≠ tag := by
    rintro field hm rfl
    obtain ⟨found, hv, rfl⟩ := List.mem_map.1 hm
    exact ht (List.mem_map_of_mem hv)
  have first : ((tag, ofValue (.string kind)) :: fieldTrees fields).filter (·.1 = tag) =
      [(tag, ofValue (.string kind))] := by
    rw [List.filter_cons_of_pos (by simp), List.filter_eq_nil_iff.2 (by simpa using other)]
  have rest : ((tag, ofValue (.string kind)) :: fieldTrees fields).filter (·.1 ≠ tag) =
      fieldTrees fields := by
    rw [List.filter_cons_of_neg (by simp), List.filter_eq_self.2 (by simpa using other)]
  have plain := plainFields?_ofFieldValues ((tag, .string kind) :: fields)
  have trees : fieldTrees ((tag, .string kind) :: fields) =
      (tag, ofValue (.string kind)) :: fieldTrees fields := rfl
  have tree : ofValue (.object ((tag, .string kind) :: fields)) =
      .object (ofFieldValues ((tag, .string kind) :: fields)) := rfl
  rw [tree] at proper ⊢
  rw [tagged?, guard, if_pos proper, plain, trees]
  dsimp only [Option.bind_eq_bind, Option.bind_some, pure]
  rw [first, rest]
  rfl

/-! ## Values of fields -/

theorem octets?_ofOctets (octets : List UInt8) :
    (ofValue (ofOctets octets)).octets? = some octets := by
  rw [ofOctets, ofValue, octets?, ofValues_eq_map, List.map_map]
  induction octets with
  | nil => rfl
  | cons b octets ih =>
    have bound : b.toNat ≤ 255 := by
      have small := b.toNat_lt
      omega
    rw [List.map_cons, List.mapM_cons, ih]
    simp [ofNat, ofValue, nat?, bound]

theorem exact_ofOctets (octets : List UInt8) : (ofOctets octets).Exact := by
  refine .array fun item hi => ?_
  obtain ⟨b, -, rfl⟩ := List.mem_map.1 hi
  refine .number ?_
  have small := b.toNat_lt
  rw [maxWord]
  omega

theorem list?_ofList {α : Type} {toJson : α → Json} {read? : Tree → Option α} {items : List α}
    (h : ∀ item ∈ items, read? (ofValue (toJson item)) = some item) :
    (ofValue (ofList toJson items)).list? read? = some items := by
  rw [ofList, ofValue, list?, ofValues_eq_map, List.map_map]
  induction items with
  | nil => rfl
  | cons item items ih =>
    rw [List.map_cons, List.mapM_cons, ih fun other ho => h other (List.mem_cons_of_mem _ ho)]
    have first := h item (List.mem_cons_self ..)
    simp [first]

theorem exact_ofList {α : Type} {toJson : α → Json} {items : List α}
    (h : ∀ item ∈ items, (toJson item).Exact) : (ofList toJson items).Exact := by
  refine .array fun value hv => ?_
  obtain ⟨item, hi, rfl⟩ := List.mem_map.1 hv
  exact h item hi

theorem exact_ofOption {α : Type} {toJson : α → Json} (h : ∀ a, (toJson a).Exact)
    (found : Option α) : (ofOption toJson found).Exact := by
  cases found with
  | none => exact .null
  | some a => exact h a

end ActiveObjects.Json.Tree

import Std.Data.ExtTreeMap

/-!
# The values of a table

The values of a sorted table stand in the order of their keys.
-/

namespace ActiveObjects

variable {α β : Type} [Ord α] [Std.TransOrd α] {table : Std.ExtTreeMap α β}

theorem values_eq_map_toList (table : Std.ExtTreeMap α β) :
    table.values = table.toList.map (·.2) := by
  have h : table.values = table.foldr (fun _ value values => value :: values) [] := by
    rcases table with ⟨⟨inner⟩⟩
    induction inner using Quotient.ind
    rfl
  rw [h, Std.ExtTreeMap.foldr_eq_foldr_toList, List.map_eq_foldr]

theorem mem_values_iff [Std.LawfulEqOrd α] {value : β} :
    value ∈ table.values ↔ ∃ key : α, table[key]? = some value := by
  rw [values_eq_map_toList, List.mem_map]
  constructor
  · rintro ⟨⟨key, _⟩, hm, rfl⟩
    exact ⟨key, Std.ExtTreeMap.mem_toList_iff_getElem?_eq_some.1 hm⟩
  · rintro ⟨key, h⟩
    exact ⟨⟨key, value⟩, Std.ExtTreeMap.mem_toList_iff_getElem?_eq_some.2 h, rfl⟩

theorem mem_iff_exists_getElem? {key : α} : key ∈ table ↔ ∃ value, table[key]? = some value := by
  rw [← Std.ExtTreeMap.isSome_getElem?_iff_mem, Option.isSome_iff_exists]

theorem exists_mem_toList_iff [Std.LawfulEqOrd α] {P : α → Prop} :
    (∃ entry ∈ table.toList, P entry.1) ↔ ∃ key ∈ table, P key := by
  constructor
  · rintro ⟨⟨key, value⟩, hm, hp⟩
    have hk := Std.ExtTreeMap.mem_toList_iff_getElem?_eq_some.1 hm
    exact ⟨key, mem_iff_exists_getElem?.2 ⟨value, hk⟩, hp⟩
  · rintro ⟨key, hm, hp⟩
    obtain ⟨value, hk⟩ := mem_iff_exists_getElem?.1 hm
    exact ⟨(key, value), Std.ExtTreeMap.mem_toList_iff_getElem?_eq_some.2 hk, hp⟩

/-- In front of a key stand those that are less. -/
theorem mem_toList_prefix_iff [Std.LawfulEqOrd α] {done rest : List (α × β)} {key : α} {value : β}
    (h : table.toList = done ++ (key, value) :: rest) {other : α × β} :
    other ∈ done ↔ table[other.1]? = some other.2 ∧ compare other.1 key = .lt := by
  have sorted := Std.ExtTreeMap.ordered_keys_toList (t := table)
  rw [h, List.pairwise_append] at sorted
  rw [← Std.ExtTreeMap.mem_toList_iff_getElem?_eq_some, h]
  constructor
  · intro hm
    exact ⟨List.mem_append_left _ hm, sorted.2.2 other hm _ (List.mem_cons_self ..)⟩
  · rintro ⟨hm, hlt⟩
    rcases List.mem_append.1 hm with hm | hm
    · exact hm
    · rcases List.mem_cons.1 hm with hk | hm
      · rw [(Prod.mk.inj hk).1, Std.compare_self] at hlt
        cases hlt
      · have hgt := (List.pairwise_cons.1 sorted.2.1).1 other hm
        rw [Std.OrientedOrd.eq_swap, hlt] at hgt
        cases hgt

end ActiveObjects

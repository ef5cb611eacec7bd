import Mathlib.Data.List.Nodup

/-!
# Fields by name

Lists of fields in which the first one of a name counts.
-/

namespace ActiveObjects

variable {α : Type} {fields : List (String × α)} {key : String}

theorem any_key_iff : fields.any (·.1 = key) ↔ key ∈ fields.map (·.1) := by
  simp

theorem lookup_eq_none_iff_key : fields.lookup key = none ↔ key ∉ fields.map (·.1) := by
  rw [List.lookup_eq_none_iff]
  simp only [bne_iff_ne, List.mem_map, not_exists, not_and]
  exact forall₂_congr fun field _ => ne_comm

theorem mem_of_lookup {v : α} (h : fields.lookup key = some v) : (key, v) ∈ fields := by
  obtain ⟨before, after, rfl, -⟩ := List.lookup_eq_some_iff.1 h
  simp

theorem nodup_keys_push {v : α} (h : (fields.map (·.1)).Nodup) (hk : key ∉ fields.map (·.1)) :
    ((fields ++ [(key, v)]).map (·.1)).Nodup := by
  rw [List.map_append, List.map_singleton, ← List.concat_eq_append]
  exact h.concat hk

end ActiveObjects

import ActiveObjects.Proofs.Body.Table
import ActiveObjects.Proofs.Table

/-!
# Listings of bodies

The bodies of a node stand in the order of their identifiers, each once. A listing has the active
bodies of the node; what goes when the node is killed are its bodies in any status.
-/

namespace ActiveObjects.BodyTable

variable {table : BodyTable} {id : BodyId} {node node' : Url}

/-! ## Bodies of a node -/

theorem Keyed.mem_hostedOn (h : table.Keyed) :
    id ∈ table.hostedOn node ↔
      ∃ hosted, table.hosted? id = some hosted ∧ hosted.nodeUrl = node := by
  simp only [hostedOn, List.mem_map, List.mem_filter, mem_values_iff, decide_eq_true_eq]
  constructor
  · rintro ⟨hosted, ⟨⟨found, hf⟩, hn⟩, rfl⟩
    have hk : hosted.body.id = found := h found hosted hf
    exact ⟨hosted, hk ▸ hf, hn⟩
  · rintro ⟨hosted, hf, hn⟩
    exact ⟨hosted, ⟨⟨id, hf⟩, hn⟩, h id hosted hf⟩

/-- The bodies elsewhere stay when those of a node go. -/
theorem Keyed.hosted?_evict_iff (h : table.Keyed) {hosted : HostedBody} :
    (table.evict node).hosted? id = some hosted ↔
      table.hosted? id = some hosted ∧ hosted.nodeUrl ≠ node := by
  rw [hosted?_evict]
  split
  · rename_i hm
    obtain ⟨found, hf, rfl⟩ := h.mem_hostedOn.1 hm
    constructor
    · intro hn
      cases hn
    · rintro ⟨hf', hn⟩
      cases hf.symm.trans hf'
      exact absurd rfl hn
  · rename_i hm
    refine (and_iff_left_of_imp fun hf hn => hm ?_).symm
    exact h.mem_hostedOn.2 ⟨hosted, hf, hn⟩

/-! ## Active bodies -/

theorem Keyed.mem_collect (h : table.Keyed) {p : HostedBody → Bool} {handle : BodyHandle} :
    handle ∈ table.collect p ↔
      ∃ hosted, table.hosted? handle.id = some hosted ∧ hosted.status = .active ∧ p hosted ∧
        hosted.handle = handle := by
  simp only [collect, List.mem_map, List.mem_filter, mem_values_iff, Bool.and_eq_true,
    decide_eq_true_eq]
  constructor
  · rintro ⟨hosted, ⟨⟨found, hf⟩, ha, hp⟩, rfl⟩
    have hk : hosted.handle.id = found := h found hosted hf
    exact ⟨hosted, by rw [hk]; exact hf, ha, hp, rfl⟩
  · rintro ⟨hosted, hf, ha, hp, hh⟩
    exact ⟨hosted, ⟨⟨handle.id, hf⟩, ha, hp⟩, hh⟩

theorem Keyed.mem_activeObjects (h : table.Keyed) {handle : BodyHandle} :
    handle ∈ table.activeObjects node ↔
      handle.nodeUrl = node ∧
        ∃ hosted, table.hosted? handle.id = some hosted ∧ hosted.status = .active ∧
          hosted.handle = handle := by
  rw [activeObjects, h.mem_collect]
  constructor
  · rintro ⟨hosted, hf, ha, hp, rfl⟩
    exact ⟨of_decide_eq_true hp, hosted, hf, ha, rfl⟩
  · rintro ⟨hn, hosted, hf, ha, rfl⟩
    exact ⟨hosted, hf, ha, decide_eq_true hn, rfl⟩

/-- No body is listed at two nodes. -/
theorem Keyed.id_ne_of_mem_activeObjects (h : table.Keyed) (hn : node ≠ node') {a b : BodyHandle}
    (ha : a ∈ table.activeObjects node) (hb : b ∈ table.activeObjects node') : a.id ≠ b.id := by
  intro hab
  obtain ⟨rfl, hosted, hf, -, hh⟩ := h.mem_activeObjects.1 ha
  obtain ⟨rfl, hosted', hf', -, hh'⟩ := h.mem_activeObjects.1 hb
  rw [hab] at hf
  cases hf.symm.trans hf'
  exact hn (congrArg BodyHandle.nodeUrl (hh.symm.trans hh'))

theorem Keyed.pairwise_values (h : table.Keyed) :
    table.bodies.values.Pairwise fun a b => compare a.body.id b.body.id = .lt := by
  have hk := table.bodies.ordered_keys_toList
  rw [values_eq_map_toList, List.pairwise_map]
  refine hk.imp_of_mem ?_
  intro a b ha hb hab
  rw [h a.1 a.2 (Std.ExtTreeMap.mem_toList_iff_getElem?_eq_some.1 ha),
    h b.1 b.2 (Std.ExtTreeMap.mem_toList_iff_getElem?_eq_some.1 hb)]
  exact hab

/-- Listings are in the order of identifiers. -/
theorem Keyed.pairwise_collect (h : table.Keyed) (p : HostedBody → Bool) :
    (table.collect p).Pairwise fun a b => compare a.id b.id = .lt :=
  List.pairwise_map.2 (h.pairwise_values.filter _)

/-- The bodies of a class stand in the same order as among all others. -/
theorem Keyed.activeObjectsOfClass_eq (h : table.Keyed) (node : Url) (className : String) :
    table.activeObjectsOfClass node className =
      (table.activeObjects node).filter fun handle =>
        (table.body? handle.id).any (·.className = className) := by
  rw [activeObjectsOfClass, activeObjects, collect, collect, List.filter_map, List.filter_filter]
  congr 1
  refine List.filter_congr ?_
  intro hosted hm
  obtain ⟨id, hf⟩ := mem_values_iff.1 hm
  have hk : hosted.body.id = id := h id hosted hf
  have hb : table.body? hosted.handle.id = some hosted.body := by
    rw [HostedBody.handle, hk, body?, hosted?, hf]
    rfl
  simp only [Function.comp_apply, hb, Option.any_some]
  cases decide (hosted.body.className = className) <;> simp

end ActiveObjects.BodyTable

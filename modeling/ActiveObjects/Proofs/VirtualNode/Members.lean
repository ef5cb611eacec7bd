import Mathlib.Data.List.Basic
import ActiveObjects.VirtualNode.Basic

/-! # Members of changed groups -/

namespace ActiveObjects

namespace VirtualNodeGroup

variable {group : VirtualNodeGroup} {node url : Url}

/-! ## One group -/

@[simp] theorem mem_members_join :
    url ∈ (group.join node).members ↔ url ∈ group.members ∨ url = node := by
  unfold join
  split
  · rename_i h
    constructor
    · exact .inl
    · rintro (hm | rfl)
      · exact hm
      · exact h
  · simp

theorem join_eq_self (h : node ∈ group.members) : group.join node = group := if_pos h

theorem nodup_members_join (h : group.members.Nodup) : (group.join node).members.Nodup := by
  unfold join
  split
  · exact h
  · rename_i hn
    refine List.nodup_append.2 ⟨h, by simp, ?_⟩
    intro a ha b hb hab
    rw [List.mem_singleton] at hb
    exact hn (hb ▸ hab ▸ ha)

@[simp] theorem mem_members_leave :
    url ∈ (group.leave node).members ↔ url ∈ group.members ∧ url ≠ node := by
  simp [leave]

theorem nodup_members_leave (h : group.members.Nodup) : (group.leave node).members.Nodup :=
  h.filter _

theorem mem_members_foldl_join (nodes : List Url) :
    url ∈ (nodes.foldl join group).members ↔ url ∈ group.members ∨ url ∈ nodes := by
  induction nodes generalizing group with
  | nil => simp
  | cons node nodes ih =>
    rw [List.foldl_cons, ih, mem_members_join, List.mem_cons, or_assoc]

theorem nodup_members_foldl_join (nodes : List Url) (h : group.members.Nodup) :
    (nodes.foldl join group).members.Nodup := by
  induction nodes generalizing group with
  | nil => exact h
  | cons node nodes ih => exact ih (nodup_members_join h)

@[simp] theorem url_join (group : VirtualNodeGroup) (node : Url) :
    (group.join node).url = group.url := by
  unfold join
  split <;> rfl

@[simp] theorem url_foldl_join (group : VirtualNodeGroup) (nodes : List Url) :
    (nodes.foldl join group).url = group.url := by
  induction nodes generalizing group with
  | nil => rfl
  | cons node nodes ih => rw [List.foldl_cons, ih, url_join]

end VirtualNodeGroup

namespace GroupTable

variable {groups : GroupTable}

/-! ## All groups -/

theorem getElem?_attach (groups : GroupTable) (name : String) (node : Url) (key : String) :
    (groups.attach name node)[key]? =
      groups[key]?.map fun group =>
        if VirtualNode.key name = key then group.join node else group := by
  rw [attach, Std.ExtTreeMap.getElem?_modify]
  by_cases h : VirtualNode.key name = key
  · simp [h]
  · simp [h]

theorem getElem?_detach (groups : GroupTable) (node : Url) (key : String) :
    (groups.detach node)[key]? = groups[key]?.map (·.leave node) := by
  rw [detach, Std.ExtTreeMap.getElem?_map]

theorem getElem?_foldl_attach (groups : GroupTable) (name : String) (nodes : List Url)
    (key : String) :
    (nodes.foldl (·.attach name ·) groups)[key]? =
      groups[key]?.map fun group =>
        if VirtualNode.key name = key then nodes.foldl VirtualNodeGroup.join group else group := by
  induction nodes generalizing groups with
  | nil => simp
  | cons node nodes ih =>
    rw [List.foldl_cons, ih, getElem?_attach]
    by_cases h : VirtualNode.key name = key
    · simp [h, Function.comp_def]
    · simp [h]

theorem getElem?_enroll (groups : GroupTable) (name : String) (url : Url) (members : List Url)
    (key : String) :
    (groups.enroll name url members)[key]? =
      if name = key then
        some (members.foldl VirtualNodeGroup.join
          (groups[key]?.elim ⟨key, url, []⟩ fun group => { group with url }))
      else groups[key]? := by
  rw [enroll, Std.ExtTreeMap.getElem?_insert]
  by_cases h : name = key
  · subst h
    cases hg : groups[name]? <;> simp
  · simp [h]

/-- A node that may not join changes nothing if it does. -/
theorem attach_eq_self {name : String} {node : Url} (h : groups.admits name node = false) :
    groups.attach name node = groups := by
  apply Std.ExtTreeMap.ext_getElem?
  intro key
  rw [getElem?_attach]
  cases hg : groups[key]? with
  | none => rfl
  | some group =>
    by_cases hk : VirtualNode.key name = key
    · subst hk
      rw [admits, find?, hg] at h
      have hm : node ∈ group.members := by simpa using h
      rw [Option.map_some, if_pos rfl, VirtualNodeGroup.join_eq_self hm]
    · rw [Option.map_some, if_neg hk]

end GroupTable

end ActiveObjects

import ActiveObjects.Proofs.Fleet.Invariant
import ActiveObjects.Proofs.Node.Tables
import ActiveObjects.Proofs.Table

/-!
# Members are the tagged nodes

A group is changed when it is registered, when a node comes, goes or changes its tag, and when a
tag is given to all nodes without one. After each of these its members are the nodes whose tags
stand for its key.
-/

namespace ActiveObjects

open Site

/-! ## Tags -/

namespace NodeTable

variable {table : NodeTable} {key : String} {url : Url}

/-- There is a node at the URL, and its tag stands for the key. -/
def Tagged (table : NodeTable) (key : String) (url : Url) : Prop :=
  ∃ node, table[url]? = some node ∧ node.virtualNode.any (VirtualNode.key · = key)

theorem tagged_insert (node : Node) :
    Tagged (Std.ExtTreeMap.insert table node.url node) key url ↔
      if node.url = url then node.virtualNode.any (VirtualNode.key · = key) = true
      else table.Tagged key url := by
  simp only [Tagged, Std.ExtTreeMap.getElem?_insert, Std.compare_eq_iff_eq]
  by_cases h : node.url = url <;> simp [h]

theorem tagged_erase (gone : Url) :
    Tagged (Std.ExtTreeMap.erase table gone) key url ↔ gone ≠ url ∧ table.Tagged key url := by
  simp only [Tagged, Std.ExtTreeMap.getElem?_erase, Std.compare_eq_iff_eq]
  by_cases h : gone = url <;> simp [h]

/-- A tag for all joins the nodes without a tag to those that have it. -/
theorem tagged_tagUntagged (tag : String) :
    (table.tagUntagged tag).Tagged key url ↔
      table.Tagged key url ∨
        VirtualNode.key tag = key ∧ ∃ node, table[url]? = some node ∧ node.virtualNode = none := by
  simp only [Tagged, tagUntagged, Std.ExtTreeMap.getElem?_map]
  cases table[url]? with
  | none => simp
  | some node => cases hn : node.virtualNode <;> simp [hn]

theorem Keyed.mem_map_url (h : table.Keyed) (p : Node → Bool) :
    url ∈ (table.values.filter p).map (·.url) ↔ ∃ node, table[url]? = some node ∧ p node := by
  simp only [List.mem_map, List.mem_filter, mem_values_iff]
  constructor
  · rintro ⟨node, ⟨⟨found, hf⟩, hp⟩, rfl⟩
    exact ⟨node, h found node hf ▸ hf, hp⟩
  · rintro ⟨node, hf, hp⟩
    exact ⟨node, ⟨⟨url, hf⟩, hp⟩, h url node hf⟩

theorem Keyed.mem_taggedWith (h : table.Keyed) (name : String) :
    url ∈ table.taggedWith name ↔ table.Tagged (VirtualNode.key name) url := h.mem_map_url _

theorem Keyed.mem_untagged (h : table.Keyed) :
    url ∈ table.untagged.map (·.url) ↔
      ∃ node, table[url]? = some node ∧ node.virtualNode = none := by
  simp only [untagged, h.mem_map_url, Option.isNone_iff_eq_none]

end NodeTable

/-! ## One group -/

namespace VirtualNodeGroup

/-- The group is tracked under its name, and its members are the nodes tagged with it, each once. -/
structure Lists (group : VirtualNodeGroup) (nodes : NodeTable) (key : String) : Prop where
  name : group.name = key
  nodup : group.members.Nodup
  mem_iff (url : Url) : url ∈ group.members ↔ nodes.Tagged key url

variable {group : VirtualNodeGroup} {nodes : NodeTable} {key : String}

@[simp] theorem name_join (group : VirtualNodeGroup) (node : Url) :
    (group.join node).name = group.name := by
  unfold join
  split <;> rfl

@[simp] theorem name_foldl_join (group : VirtualNodeGroup) (urls : List Url) :
    (urls.foldl join group).name = group.name := by
  induction urls generalizing group with
  | nil => rfl
  | cons url urls ih => rw [List.foldl_cons, ih, name_join]

theorem Lists.erase (h : group.Lists nodes key) (gone : Url) :
    (group.leave gone).Lists (Std.ExtTreeMap.erase nodes gone) key where
  name := h.name
  nodup := nodup_members_leave h.nodup
  mem_iff url := by
    rw [mem_members_leave, NodeTable.tagged_erase, h.mem_iff, and_comm, ne_comm]

/-- The group lists the other nodes, and the node at most if its tag stands for the key. -/
structure ListsOthers (group : VirtualNodeGroup) (nodes : NodeTable) (key : String) (node : Node) :
    Prop where
  name : group.name = key
  nodup : group.members.Nodup
  mem_iff {url : Url} (hu : node.url ≠ url) : url ∈ group.members ↔ nodes.Tagged key url
  tagged : node.url ∈ group.members → node.virtualNode.any (VirtualNode.key · = key) = true

/-- A node that takes the place of one with the same tag need not leave. -/
theorem Lists.others (h : group.Lists nodes key) (node : Node) :
    (if nodes[node.url]?.any (·.virtualNode ≠ node.virtualNode) then group.leave node.url
      else group).ListsOthers nodes key node := by
  split
  · refine ⟨h.name, nodup_members_leave h.nodup, fun hu => ?_, fun hm => ?_⟩
    · rw [mem_members_leave, h.mem_iff]
      exact and_iff_left (Ne.symm hu)
    · simp at hm
  · rename_i hsame
    refine ⟨h.name, h.nodup, fun _ => h.mem_iff _, fun hm => ?_⟩
    obtain ⟨previous, hp, ht⟩ := (h.mem_iff _).1 hm
    simp only [hp, Option.any_some, ne_eq, decide_not, Bool.not_eq_true', decide_eq_false_iff_not,
      not_not] at hsame
    exact hsame ▸ ht

theorem ListsOthers.insert {node : Node} (h : group.ListsOthers nodes key node) :
    (if node.virtualNode.any (VirtualNode.key · = key) then group.join node.url
      else group).Lists (Std.ExtTreeMap.insert nodes node.url node) key := by
  split <;> rename_i ht
  · refine ⟨(name_join _ _).trans h.name, nodup_members_join h.nodup, fun url => ?_⟩
    rw [NodeTable.tagged_insert, mem_members_join]
    by_cases hu : node.url = url
    · simp [hu, ht]
    · rw [if_neg hu, ← h.mem_iff hu]
      exact or_iff_left (Ne.symm hu)
  · refine ⟨h.name, h.nodup, fun url => ?_⟩
    rw [NodeTable.tagged_insert]
    by_cases hu : node.url = url
    · subst hu
      rw [if_pos rfl]
      exact ⟨h.tagged, fun hn => absurd hn ht⟩
    · rw [if_neg hu, h.mem_iff hu]

theorem Lists.insert (h : group.Lists nodes key) (node : Node) :
    (node.regrouped nodes[node.url]? key group).Lists
      (Std.ExtTreeMap.insert nodes node.url node) key :=
  (h.others node).insert

theorem Lists.tagUntagged (h : group.Lists nodes key) (hn : nodes.Keyed) (tag : String) :
    (if VirtualNode.key tag = key then
        (nodes.untagged.map (·.url)).foldl join group
      else group).Lists (nodes.tagUntagged tag) key := by
  constructor
  · split <;> simp [h.name]
  · split
    · exact nodup_members_foldl_join _ h.nodup
    · exact h.nodup
  · intro url
    rw [NodeTable.tagged_tagUntagged, ← h.mem_iff, ← hn.mem_untagged]
    split
    · rename_i hk
      rw [mem_members_foldl_join, and_iff_right hk]
    · rename_i hk
      exact (or_iff_left fun h => hk h.1).symm

/-- A group is registered with the nodes that are tagged with it already. -/
theorem Lists.of_foldl_join (hn : nodes.Keyed) (name : String)
    (hname : group.name = VirtualNode.key name) (hnodup : group.members.Nodup)
    (hm : ∀ url ∈ group.members, nodes.Tagged (VirtualNode.key name) url) :
    ((nodes.taggedWith name).foldl join group).Lists nodes (VirtualNode.key name) where
  name := by rw [name_foldl_join, hname]
  nodup := nodup_members_foldl_join _ hnodup
  mem_iff url := by
    rw [mem_members_foldl_join, hn.mem_taggedWith]
    exact or_iff_right_of_imp (hm url)

end VirtualNodeGroup

/-! ## One runtime -/

/-- All groups of a runtime have the nodes that are tagged with them as members. -/
structure Runtime.Grouped (runtime : Runtime) : Prop where
  keyed : runtime.nodes.Keyed
  lists {key : String} {group : VirtualNodeGroup} :
    runtime.groups[key]? = some group → group.Lists runtime.nodes key

theorem Touches.grouped {parts : List Part} {s s' : Site} (h : Touches parts s s')
    (hn : .nodes ∉ parts) (hg : .groups ∉ parts) : Preserves Runtime.Grouped s s' := by
  have nodes : s'.runtime.nodes = s.runtime.nodes := h .nodes hn
  have groups : s'.runtime.groups = s.runtime.groups := h .groups hg
  rintro ⟨keyed, lists⟩
  constructor
  · rwa [nodes]
  · rwa [nodes, groups]

namespace Node

theorem install_grouped (node : Node) : Moves (Preserves Runtime.Grouped) (install node) := by
  rintro site ⟨keyed, lists⟩
  obtain ⟨nodes, groups⟩ := install_tables node site
  constructor
  · rw [nodes]
    exact keyed.insert node
  · intro key group hg
    rw [groups, getElem?_regroup] at hg
    obtain ⟨before, hb, rfl⟩ := Option.map_eq_some_iff.1 hg
    rw [nodes]
    exact (lists hb).insert node

theorem tearDown_grouped (url : Url) : Moves (Preserves Runtime.Grouped) (tearDown url) := by
  rintro site ⟨keyed, lists⟩
  obtain ⟨nodes, groups, -⟩ := tearDown_tables url site
  constructor
  · rw [nodes]
    exact keyed.erase url
  · intro key group hg
    rw [groups, GroupTable.getElem?_detach] at hg
    obtain ⟨before, hb, rfl⟩ := Option.map_eq_some_iff.1 hg
    rw [nodes]
    exact (lists hb).erase url

theorem setDefaultTag_grouped (tag : String) :
    Moves (Preserves Runtime.Grouped) (setDefaultTag tag) := by
  rintro site ⟨keyed, lists⟩
  obtain ⟨nodes, groups⟩ := setDefaultTag_tables tag site
  constructor
  · rw [nodes]
    exact keyed.tagUntagged tag
  · intro key group hg
    rw [groups, GroupTable.getElem?_foldl_attach] at hg
    obtain ⟨before, hb, rfl⟩ := Option.map_eq_some_iff.1 hg
    rw [nodes]
    exact (lists hb).tagUntagged keyed tag

end Node

/-- A group that is forgotten takes nothing else along. -/
theorem erase_grouped (key : String) :
    Moves (Preserves Runtime.Grouped) (modifyGroups (·.erase key)) := by
  refine .modify fun site h => ⟨h.keyed, ?_⟩
  intro other group hg
  have hg : (Std.ExtTreeMap.erase site.runtime.groups key)[other]? = some group := hg
  rw [Std.ExtTreeMap.getElem?_erase] at hg
  split at hg
  · cases hg
  · exact h.lists hg

namespace Runtime

/-- The nodes that join are looked up before the URL of the group is bound, and stay the same until
they join. -/
theorem registerVirtualNode_grouped (name : String) (replaceIfBound : Bool) :
    Moves (Preserves Grouped) (attempt (registerVirtualNode name replaceIfBound)) := by
  intro site hg
  have quiet (s s' : Site) (h : Touches [.naming, .log, .events] s s') :
      Preserves (fun runtime => runtime.nodes = site.runtime.nodes ∧ runtime.Grouped) s s' := by
    rintro ⟨hn, hg⟩
    have nodes : s'.runtime.nodes = s.runtime.nodes := h .nodes (by decide)
    exact ⟨nodes.trans hn, h.grouped (by decide) (by decide) hg⟩
  have enrolled (url : Url) :
      Moves (Preserves fun runtime => runtime.nodes = site.runtime.nodes ∧ runtime.Grouped)
        (modifyGroups (·.enroll (VirtualNode.key name) url
          (site.runtime.nodes.taggedWith name))) := by
    refine .modify ?_
    rintro start ⟨hn, keyed, lists⟩
    refine ⟨hn, keyed, ?_⟩
    intro key group hg
    have hg : (start.runtime.groups.enroll (VirtualNode.key name) url
        (site.runtime.nodes.taggedWith name))[key]? = some group := hg
    rw [GroupTable.getElem?_enroll, ← hn] at hg
    split at hg
    · rename_i hk
      subst hk
      cases hg
      cases hb : start.runtime.groups[VirtualNode.key name]? with
      | none => exact .of_foldl_join keyed name rfl .nil fun url h => nomatch h
      | some before =>
        have hl := lists hb
        exact .of_foldl_join keyed name hl.name hl.nodup fun url => (hl.mem_iff url).1
    · exact lists hg
  exact (registerVirtualNode_movesFrom quiet name replaceIfBound (fun url _ => enrolled url)
    ⟨rfl, hg⟩).2

end Runtime

/-! ## All runtimes -/

theorem lasting_grouped : Lasting Runtime.Grouped := by
  refine .of_tables (fun h _ hn hg => h.grouped hn hg) ?_ ?_ Node.tearDown_grouped
    Node.setDefaultTag_grouped Runtime.registerVirtualNode_grouped erase_grouped
  · intro request runtime h
    obtain ⟨-, -, nodes, groups, -⟩ := Runtime.ofRequest_fresh h
    constructor
    · rw [nodes]
      exact NodeTable.keyed_empty
    · rw [groups]
      intro key group hg
      simp at hg
  · exact fun spec _ => Runtime.createLocalNode_movesFrom
      (fun _ _ h => h.grouped (by decide) (by decide)) spec fun node _ => Node.install_grouped node

namespace Fleet

/-- After every run, a group that a runtime tracks has exactly the nodes of the runtime as members
whose tags stand for the key of the group, and each of them once. -/
theorem mem_members_iff_tagged {steps : List Step} {id : RuntimeId} {runtime : Runtime}
    (hr : (({} : Fleet).after steps).world.runtime? id = some runtime) {key : String}
    {group : VirtualNodeGroup} (hg : runtime.groups[key]? = some group) :
    group.name = key ∧ group.members.Nodup ∧
      ∀ url, url ∈ group.members ↔
        ∃ node ∈ runtime.nodes.values, node.url = url ∧
          ∃ tag, node.virtualNode = some tag ∧ VirtualNode.key tag = key := by
  obtain ⟨keyed, lists⟩ := each_after lasting_grouped steps id runtime hr
  obtain ⟨name, nodup, mem_iff⟩ := lists hg
  refine ⟨name, nodup, ?_⟩
  intro url
  rw [mem_iff, NodeTable.Tagged]
  constructor
  · rintro ⟨node, hn, ht⟩
    refine ⟨node, mem_values_iff.2 ⟨url, hn⟩, keyed url node hn, ?_⟩
    simpa [Option.any_eq_true] using ht
  · rintro ⟨node, hm, rfl, ht⟩
    obtain ⟨found, hn⟩ := mem_values_iff.1 hm
    exact ⟨node, keyed found node hn ▸ hn, by simpa [Option.any_eq_true] using ht⟩

/-- A group that is registered between two nodes with tags in two spellings of its name; a third
node gets the tag as one that has none. -/
def gathering : List Step :=
  [opening 1 1099, .call 1 (.createLocalNode { name := "a", virtualNode := some "g_VN" }),
    .call 1 (.registerVirtualNode "g" true),
    .call 1 (.createLocalNode { name := "b", virtualNode := some "g" }),
    .call 1 (.setDefaultTag "x/g")]

theorem mem_members_gathering :
    ∃ runtime group, (({} : Fleet).after gathering).world.runtime? 1 = some runtime ∧
      runtime.groups["g"]? = some group ∧ group.members.map (·.name) = ["a", "b", "n"] ∧
      ∀ url ∈ group.members, ∃ node ∈ runtime.nodes.values, node.url = url ∧
        ∃ tag, node.virtualNode = some tag ∧ VirtualNode.key tag = "g" := by
  have h : (((({} : Fleet).after gathering).world.runtime? 1).any fun runtime =>
      runtime.groups["g"]?.any fun group => group.members.map (·.name) = ["a", "b", "n"]) := by
    decide +kernel
  obtain ⟨runtime, hr, h⟩ := (Option.any_eq_true _ _).1 h
  obtain ⟨group, hg, h⟩ := (Option.any_eq_true _ _).1 h
  obtain ⟨-, -, hm⟩ := mem_members_iff_tagged hr hg
  exact ⟨runtime, group, hr, hg, of_decide_eq_true h, fun url => (hm url).1⟩

end Fleet

end ActiveObjects

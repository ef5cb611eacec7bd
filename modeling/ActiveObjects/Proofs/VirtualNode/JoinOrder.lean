import ActiveObjects.Proofs.Runtime.Creation
import ActiveObjects.Proofs.Runtime.Roster
import ActiveObjects.Proofs.VirtualNode.Membership

/-!
# The order in which nodes joined

A node that is created anew keeps its place in its group if its tag is written as before. Under
any other tag it leaves, and joins the group of the new tag as the last member, also where the two
tags are spellings of the same name.
-/

namespace ActiveObjects

open Site

/-! ## One group -/

theorem filter_ne_append_eq_iff {members : List Url} (h : members.Nodup) {url : Url} :
    members.filter (· ≠ url) ++ [url] = members ↔ members.getLast? = some url := by
  constructor
  · intro heq
    rw [← heq, List.getLast?_concat]
  · intro hl
    obtain ⟨others, rfl⟩ := List.getLast?_eq_some_iff.1 hl
    have apart : ∀ other ∈ others, other ≠ url := fun other ho =>
      (List.nodup_append.1 h).2.2 other ho url (List.mem_singleton_self url)
    rw [List.filter_append, List.filter_eq_self.2 (by simpa using apart)]
    simp

namespace VirtualNodeGroup

variable {group : VirtualNodeGroup} {nodes : NodeTable} {key : String} {url : Url}

/-- The group without the node, or with the node as the last member. -/
def reseat (group : VirtualNodeGroup) (url : Url) (joins : Bool) : VirtualNodeGroup :=
  { group with members := group.members.filter (· ≠ url) ++ if joins then [url] else [] }

theorem join_leave (group : VirtualNodeGroup) (url : Url) :
    (group.leave url).join url = group.reseat url true := by
  have gone : url ∉ (group.leave url).members := by simp
  rw [join, if_neg gone]
  rfl

theorem reseat_false (group : VirtualNodeGroup) (url : Url) :
    group.reseat url false = group.leave url := by
  simp [reseat, leave]

theorem reseat_eq_self_iff (h : group.members.Nodup) :
    group.reseat url true = group ↔ group.members.getLast? = some url := by
  rw [← filter_ne_append_eq_iff h]
  constructor
  · exact congrArg members
  · intro heq
    rw [reseat, if_pos rfl, heq]

theorem reseat_false_eq_self (h : url ∉ group.members) : group.reseat url false = group := by
  have others : ∀ other ∈ group.members, other ≠ url := by
    rintro other ho rfl
    exact h ho
  rw [reseat, List.filter_eq_self.2 (by simpa using others)]
  simp

/-- A node that is listed moves unless its tag is written as before. -/
theorem Lists.regrouped_eq (h : group.Lists nodes key) {node previous : Node}
    (hp : nodes[node.url]? = some previous) :
    node.regrouped (some previous) key group =
      if previous.virtualNode = node.virtualNode then group
      else group.reseat node.url (node.virtualNode.any (VirtualNode.key · = key)) := by
  unfold Node.regrouped
  by_cases same : previous.virtualNode = node.virtualNode
  · simp only [Option.any_some, same, ne_eq, not_true_eq_false, decide_false, Bool.false_eq_true,
      if_false, if_true]
    split
    · rename_i ht
      exact join_eq_self ((h.mem_iff node.url).2 ⟨previous, hp, same ▸ ht⟩)
    · rfl
  · simp only [Option.any_some, same, ne_eq, not_false_eq_true, decide_true, if_true, if_false]
    cases node.virtualNode.any (VirtualNode.key · = key) with
    | true => exact join_leave group node.url
    | false => exact (reseat_false group node.url).symm

end VirtualNodeGroup

/-! ## All groups -/

/-- What becomes of the groups when the node at the URL changes its tag, or keeps it. -/
structure Rejoins (url : Url) (old new : Option String) (before after : GroupTable) : Prop where
  /-- All groups in full. -/
  groups (key : String) : after[key]? = before[key]?.map fun group =>
    if old = new then group else group.reseat url (new.any (VirtualNode.key · = key))
  /-- Under a tag of the same group the order stays, exactly if the tag is written as before or the
  node is the last member anyway. -/
  same_iff {tag tag' : String} (ho : old = some tag) (hn : new = some tag')
    (hk : VirtualNode.key tag = VirtualNode.key tag') :
    (∀ key : String, after[key]? = before[key]?) ↔
      tag = tag' ∨ ∀ group, before[VirtualNode.key tag]? = some group →
        group.members.getLast? = some url
  /-- Under a tag of another group, the node is appended there, and taken out elsewhere. -/
  moved {tag' : String} (hn : new = some tag')
    (hk : old.any (VirtualNode.key · = VirtualNode.key tag') = false) {key : String}
    {group : VirtualNodeGroup} (hg : before[key]? = some group) :
    after[key]? = some { group with
      members := if VirtualNode.key tag' = key then group.members ++ [url]
        else group.members.filter (· ≠ url) }
  /-- Groups of neither tag stay as they are. -/
  untouched {key : String} (ho : old.any (VirtualNode.key · = key) = false)
    (hn : new.any (VirtualNode.key · = key) = false) : after[key]? = before[key]?

/-- Where the groups of a runtime are the tagged nodes, all follows from what becomes of one. -/
theorem Runtime.Grouped.rejoins {runtime : Runtime} (h : runtime.Grouped) {node previous : Node}
    (hp : runtime.nodes[node.url]? = some previous) :
    Rejoins node.url previous.virtualNode node.virtualNode runtime.groups
      (Node.regroup node runtime.nodes[node.url]? runtime.groups) := by
  generalize hafter : Node.regroup node runtime.nodes[node.url]? runtime.groups = after
  have groups (key : String) : after[key]? = runtime.groups[key]?.map fun group =>
      if previous.virtualNode = node.virtualNode then group
      else group.reseat node.url (node.virtualNode.any (VirtualNode.key · = key)) := by
    rw [← hafter, Node.getElem?_regroup, hp]
    cases hg : runtime.groups[key]? with
    | none => rfl
    | some group => exact congrArg some ((h.lists hg).regrouped_eq hp)
  have member {key : String} {group : VirtualNodeGroup} (hg : runtime.groups[key]? = some group) :
      node.url ∈ group.members ↔ previous.virtualNode.any (VirtualNode.key · = key) = true := by
    rw [(h.lists hg).mem_iff, NodeTable.Tagged, hp]
    simp
  have untouched {key : String} (ho : previous.virtualNode.any (VirtualNode.key · = key) = false)
      (hn : node.virtualNode.any (VirtualNode.key · = key) = false) :
      after[key]? = runtime.groups[key]? := by
    rw [groups, hn]
    cases hg : runtime.groups[key]? with
    | none => rfl
    | some group =>
      have gone : node.url ∉ group.members := by
        rw [member hg, ho]
        exact Bool.false_ne_true
      rw [Option.map_some, VirtualNodeGroup.reseat_false_eq_self gone, ite_self]
  refine ⟨groups, fun {tag tag'} ho hn hk => ?_, fun {tag'} hn hk key group hg => ?_, untouched⟩
  · by_cases same : tag = tag'
    · refine iff_of_true (fun key => ?_) (.inl same)
      simp [groups, ho, hn, same]
    · have moved : previous.virtualNode ≠ node.virtualNode := by simpa [ho, hn] using same
      rw [or_iff_right same]
      constructor
      · intro kept group hg
        have stays := (groups (VirtualNode.key tag)).symm.trans (kept _)
        rw [hg, Option.map_some, if_neg moved, hn, Option.any_some, hk, decide_eq_true rfl] at stays
        exact (VirtualNodeGroup.reseat_eq_self_iff (h.lists hg).nodup).1 (Option.some.inj stays)
      · intro last key
        by_cases hkey : VirtualNode.key tag = key
        · subst hkey
          rw [groups]
          cases hg : runtime.groups[VirtualNode.key tag]? with
          | none => rfl
          | some group =>
            rw [Option.map_some, if_neg moved, hn, Option.any_some, hk, decide_eq_true rfl]
            exact congrArg some
              ((VirtualNodeGroup.reseat_eq_self_iff (h.lists hg).nodup).2 (last group hg))
        · exact untouched (by simpa [ho] using hkey) (by simpa [hn, ← hk] using hkey)
  · have moved : previous.virtualNode ≠ node.virtualNode := by
      intro same
      rw [same, hn] at hk
      simp at hk
    rw [groups, hg, Option.map_some, if_neg moved, hn, Option.any_some]
    by_cases hkey : VirtualNode.key tag' = key
    · have fresh : node.url ∉ group.members := by
        rw [member hg, ← hkey, hk]
        exact Bool.false_ne_true
      have others : ∀ other ∈ group.members, other ≠ node.url := by
        rintro other ho rfl
        exact fresh ho
      rw [VirtualNodeGroup.reseat, List.filter_eq_self.2 (by simpa using others)]
      simp [hkey]
    · simp [hkey, VirtualNodeGroup.reseat]

namespace Fleet

/-- After every run, a node that is created anew in place of the old one keeps its place in its
group if its tag, be it that of the request or the default tag, is written as before. Otherwise it
leaves, and joins the group of the new tag as the last member. -/
theorem rejoins_of_recreated {steps : List Step} {place : RuntimeId} {runtime : Runtime}
    (hr : (({} : Fleet).after steps).world.runtime? place = some runtime) {spec : NodeSpec}
    {node : Node} (hn : runtime.node spec.name = .ok node) (hk : spec.replaceIfBound = true)
    {url : Url} {world : World}
    (hp : (({} : Fleet).after steps).world.perform place
      (attempt (Runtime.createLocalNode spec)) = some (.ok url, world)) :
    url = node.url ∧ ∃ runtime', world.runtime? place = some runtime' ∧
      Rejoins node.url node.virtualNode (spec.virtualNode.or runtime.defaultTag) runtime.groups
        runtime'.groups := by
  obtain ⟨address, hu, hn⟩ := Runtime.node_eq_ok_iff.1 hn
  have grouped := each_after lasting_grouped steps place runtime hr
  obtain rfl := grouped.keyed address node hn
  rw [World.perform, hr, Option.map_some, Option.some.injEq] at hp
  rcases hc : (attempt (Runtime.createLocalNode spec)).run
    ((({} : Fleet).after steps).world.site runtime) with ⟨result, site⟩
  rw [hc] at hp
  obtain ⟨rfl, rfl⟩ := Prod.mk.inj hp
  rcases Runtime.run_createLocalNode hc with ⟨-, h, -⟩ | ⟨-, created, hresult, creates⟩
  · cases h
  cases creates with
  | unnamed hu => cases hresult
  | kept hu ht hkeep hs => exact absurd hk (by simp [hkeep])
  | refused hu hkeep he hs => cases hresult
  | @installed address outcome last hentry hkeep he naming nodes groups hs =>
    obtain rfl := Except.ok.inj ((Runtime.nodeUrl_of_entryUrl hentry).symm.trans hu)
    cases hresult
    obtain ⟨hid, -, -, -⟩ := hs .identity (by decide)
    refine ⟨rfl, site.runtime, ?_, ?_⟩
    · rw [World.runtime?_absorb, if_pos (hid.trans ((sound_after steps).world place runtime hr))]
    · rw [groups]
      exact @Runtime.Grouped.rejoins _ grouped (Node.ofSpec spec node.url runtime) node hn

/-- Two nodes of one group. -/
def joined : List Step :=
  [opening 1 1099, .call 1 (.registerVirtualNode "g" true),
    .call 1 (.createLocalNode { name := "a", virtualNode := some "g" }),
    .call 1 (.createLocalNode { name := "b", virtualNode := some "g" })]

/-- The node that is the last member is created anew, under another spelling of its tag. -/
theorem rejoins_of_recreated_joined :
    ∃ runtime node world runtime', (({} : Fleet).after joined).world.runtime? 1 = some runtime ∧
      runtime.node "b" = .ok node ∧ node.virtualNode = some "g" ∧
      (({} : Fleet).after joined).world.perform 1 (attempt (Runtime.createLocalNode
        { name := "b", virtualNode := some "x/g_VN", replaceIfBound := true })) =
          some (.ok node.url, world) ∧
      world.runtime? 1 = some runtime' ∧
      ∀ key : String, runtime'.groups[key]? = runtime.groups[key]? := by
  have h : ((({} : Fleet).after joined).world.runtime? 1).any fun runtime =>
      (runtime.node "b").toOption.any fun node =>
        ((({} : Fleet).after joined).world.perform 1 (attempt (Runtime.createLocalNode
          { name := "b", virtualNode := some "x/g_VN", replaceIfBound := true }))).any fun found =>
            found.1.toOption.any fun url => url = node.url ∧ node.virtualNode = some "g" ∧
              runtime.groups["g"]?.any fun group => group.members.getLast? = some node.url := by
    decide +kernel
  obtain ⟨runtime, hr, h⟩ := (Option.any_eq_true _ _).1 h
  obtain ⟨node, hn, h⟩ := (Option.any_eq_true _ _).1 h
  obtain ⟨⟨result, world⟩, hp, h⟩ := (Option.any_eq_true _ _).1 h
  obtain ⟨url, hurl, h⟩ := (Option.any_eq_true _ _).1 h
  obtain ⟨rfl, ht, listed⟩ := of_decide_eq_true h
  obtain ⟨group, hg, last⟩ := (Option.any_eq_true _ _).1 listed
  have hn := toOption_eq_some_iff.1 hn
  obtain rfl := toOption_eq_some_iff.1 hurl
  obtain ⟨-, runtime', hr', rejoins⟩ := @rejoins_of_recreated joined 1 runtime hr
    { name := "b", virtualNode := some "x/g_VN", replaceIfBound := true } node hn rfl node.url
    world hp
  refine ⟨runtime, node, world, runtime', hr, hn, ht, hp, hr', ?_⟩
  refine (rejoins.same_iff ht rfl (by decide +kernel)).2 (.inr fun found hf => ?_)
  obtain rfl := Option.some.inj (hg.symm.trans hf)
  exact of_decide_eq_true last

/-- The first of the two is created anew in the same way, and comes to be the last. -/
theorem reordered_by_spelling :
    ∃ runtime node url world runtime' group group',
      (({} : Fleet).after joined).world.runtime? 1 = some runtime ∧
      runtime.node "a" = .ok node ∧ node.virtualNode = some "g" ∧
      VirtualNode.key "g_VN" = VirtualNode.key "g" ∧
      (({} : Fleet).after joined).world.perform 1 (attempt (Runtime.createLocalNode
        { name := "a", virtualNode := some "g_VN", replaceIfBound := true })) =
          some (.ok url, world) ∧
      world.runtime? 1 = some runtime' ∧
      runtime.groups["g"]? = some group ∧ runtime'.groups["g"]? = some group' ∧
      group.members.map (·.name) = ["a", "b"] ∧ group'.members.map (·.name) = ["b", "a"] := by
  have h : ((({} : Fleet).after joined).world.runtime? 1).any fun runtime =>
      (runtime.node "a").toOption.any fun node =>
        ((({} : Fleet).after joined).world.perform 1 (attempt (Runtime.createLocalNode
          { name := "a", virtualNode := some "g_VN", replaceIfBound := true }))).any fun found =>
            found.1.toOption.any fun _ => (found.2.runtime? 1).any fun runtime' =>
              runtime.groups["g"]?.any fun group => runtime'.groups["g"]?.any fun group' =>
                node.virtualNode = some "g" ∧ group.members.map (·.name) = ["a", "b"] ∧
                  group'.members.map (·.name) = ["b", "a"] := by
    decide +kernel
  obtain ⟨runtime, hr, h⟩ := (Option.any_eq_true _ _).1 h
  obtain ⟨node, hn, h⟩ := (Option.any_eq_true _ _).1 h
  obtain ⟨⟨result, world⟩, hp, h⟩ := (Option.any_eq_true _ _).1 h
  obtain ⟨url, hurl, h⟩ := (Option.any_eq_true _ _).1 h
  obtain ⟨runtime', hr', h⟩ := (Option.any_eq_true _ _).1 h
  obtain ⟨group, hg, h⟩ := (Option.any_eq_true _ _).1 h
  obtain ⟨group', hg', h⟩ := (Option.any_eq_true _ _).1 h
  obtain ⟨ht, before, after⟩ := of_decide_eq_true h
  obtain rfl := toOption_eq_some_iff.1 hurl
  exact ⟨runtime, node, url, world, runtime', group, group', hr, toOption_eq_some_iff.1 hn, ht,
    by decide +kernel, hp, hr', hg, hg', before, after⟩

end Fleet

end ActiveObjects

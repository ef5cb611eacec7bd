import ActiveObjects.Proofs.Node.Footprint
import ActiveObjects.Proofs.VirtualNode.Members

/-!
# What work on nodes does to the tables

A node that is installed, torn down or tagged changes the table of nodes, and the groups follow.
Each change is given in full, so that the invariants of both tables are read off it.
-/

namespace ActiveObjects

open Site

theorem run_get_bind {α : Type} (f : Site → Work α) (site : Site) :
    (get >>= f : Work α).run site = (f site).run site := rfl

theorem VirtualNode.attach_groups (name : String) (node : Url) (site : Site) :
    ((attach name node).run site).2.runtime.groups = site.runtime.groups.attach name node := by
  rw [attach, run_get_bind]
  dsimp only
  split
  · rfl
  · rename_i h
    rw [GroupTable.attach_eq_self (by simpa using h)]
    rfl

theorem VirtualNode.attach_nodes (name : String) (node : Url) (site : Site) :
    ((attach name node).run site).2.runtime.nodes = site.runtime.nodes :=
  attach_touches name node site .nodes (by decide)

namespace Node

/-! ## Installing -/

/-- The groups after a node took the place of another: one that changes its tag leaves its groups,
and joins the group of the new tag. -/
def regroup (node : Node) (previous : Option Node) (groups : GroupTable) : GroupTable :=
  let left :=
    if previous.any (·.virtualNode ≠ node.virtualNode) then groups.detach node.url else groups
  match node.virtualNode with
  | some tag => left.attach tag node.url
  | none => left

/-- What becomes of the group of a key. -/
def regrouped (node : Node) (previous : Option Node) (key : String) (group : VirtualNodeGroup) :
    VirtualNodeGroup :=
  let left :=
    if previous.any (·.virtualNode ≠ node.virtualNode) then group.leave node.url else group
  if node.virtualNode.any (VirtualNode.key · = key) then left.join node.url else left

@[simp] theorem url_regrouped (node : Node) (previous : Option Node) (key : String)
    (group : VirtualNodeGroup) : (regrouped node previous key group).url = group.url := by
  unfold regrouped
  dsimp only
  split <;> split <;> simp [VirtualNodeGroup.leave]

theorem getElem?_regroup (node : Node) (previous : Option Node) (groups : GroupTable)
    (key : String) :
    (regroup node previous groups)[key]? = groups[key]?.map (regrouped node previous key) := by
  have left : (if previous.any (·.virtualNode ≠ node.virtualNode) then groups.detach node.url
        else groups)[key]? =
      groups[key]?.map fun group =>
        if previous.any (·.virtualNode ≠ node.virtualNode) then group.leave node.url
        else group := by
    split
    · exact GroupTable.getElem?_detach groups node.url key
    · simp
  have hr : regrouped node previous key = fun group => regrouped node previous key group := rfl
  rw [hr]
  unfold regroup regrouped
  generalize node.virtualNode = tag at left ⊢
  cases tag with
  | none => simpa using left
  | some tag =>
    dsimp only at left ⊢
    rw [GroupTable.getElem?_attach, left, Option.map_map]
    simp [Function.comp_def]

theorem install_tables (node : Node) (site : Site) :
    ((install node).run site).2.runtime.nodes = site.runtime.nodes.insert node.url node ∧
      ((install node).run site).2.runtime.groups =
        regroup node site.runtime.nodes[node.url]? site.runtime.groups := by
  have joins (start : Site) {last : Site} (hl : last =
      (StateT.run (match node.virtualNode with
        | some tag => do let _ ← VirtualNode.attach tag node.url
        | none => pure () : Work Unit) start).2) :
      last.runtime.nodes = start.runtime.nodes ∧
        last.runtime.groups = match node.virtualNode with
          | some tag => start.runtime.groups.attach tag node.url
          | none => start.runtime.groups := by
    subst hl
    cases node.virtualNode with
    | none => exact ⟨rfl, rfl⟩
    | some tag =>
      exact ⟨VirtualNode.attach_nodes tag node.url start,
        VirtualNode.attach_groups tag node.url start⟩
  rw [install, run_get_bind]
  unfold regroup
  cases site.runtime.nodes[node.url]? with
  | none => exact joins _ rfl
  | some previous =>
    by_cases hc : previous.virtualNode = node.virtualNode
    · simp only [Option.any_some, hc, ne_eq, not_true_eq_false, decide_false]
      exact joins _ rfl
    · simp only [Option.any_some, hc, ne_eq, not_false_eq_true, decide_true]
      exact joins _ rfl

/-! ## Tearing down -/

theorem tearDown_tables (url : Url) (site : Site) :
    ((tearDown url).run site).2.runtime.nodes = site.runtime.nodes.erase url ∧
      ((tearDown url).run site).2.runtime.groups = site.runtime.groups.detach url ∧
      ((tearDown url).run site).2.runtime.bodies = site.runtime.bodies.evict url := by
  have evicted (start : Site) : Touches [.log]
      { start with
        runtime := { start.runtime with bodies := start.runtime.bodies.evict url } }
      ((BodyTable.evictFrom url).run start).2 :=
    Moves.ite (.bind (logLine_touches (by decide) _ _) fun _ => .pure _) (.pure _) _
  have told : Moves (Touches [.log, .events]) (do
      logLine .info "Node killed"
      publish (.nodeKilled (← get).runtime.url url) : Work Unit) :=
    .bind (logLine_touches (by decide) _ _) fun _ => .bind .get fun _ =>
      publish_touches (by decide) (by decide) _
  -- What follows the two changes of tables adds the eviction, and lines and an event.
  have last := trans_of (Touches [.log, .events])
    ((evicted
      { site with
        runtime :=
          { site.runtime with
            nodes := site.runtime.nodes.erase url
            groups := site.runtime.groups.detach url } }).mono (by decide)) (told _)
  exact ⟨last .nodes (by decide), last .groups (by decide), last .bodies (by decide)⟩

/-! ## Default tags -/

theorem setDefaultTag_tables (tag : String) (site : Site) :
    ((setDefaultTag tag).run site).2.runtime.nodes = site.runtime.nodes.tagUntagged tag ∧
      ((setDefaultTag tag).run site).2.runtime.groups =
        (site.runtime.nodes.untagged.map (·.url)).foldl (·.attach tag ·) site.runtime.groups := by
  have joins (nodes : List Node) (start : Site) :
      let last := ((nodes.forM fun node => do
        let _ ← VirtualNode.attach tag node.url : Work Unit).run start).2
      last.runtime.nodes = start.runtime.nodes ∧
        last.runtime.groups =
          (nodes.map (·.url)).foldl (·.attach tag ·) start.runtime.groups := by
    induction nodes generalizing start with
    | nil => exact ⟨rfl, rfl⟩
    | cons node nodes ih =>
      obtain ⟨hn, hg⟩ := ih ((VirtualNode.attach tag node.url).run start).2
      refine ⟨hn.trans (VirtualNode.attach_nodes tag node.url start), hg.trans ?_⟩
      rw [VirtualNode.attach_groups]
      rfl
  exact joins _ _

end Node

end ActiveObjects

import ActiveObjects.Proofs.Body.Listing
import ActiveObjects.Proofs.Fleet.Invariant
import ActiveObjects.Proofs.Node.Tables

/-!
# Bodies on live nodes

A body comes to a runtime on a node that the runtime tracks. It stays there until it is moved, or
until the node is killed and takes it along. So every body that a runtime hosts sits on a node that
the runtime tracks.
-/

namespace ActiveObjects

open Site

/-! ## Tables -/

namespace BodyTable

/-- Each body is found under its own identifier, and its node is there. -/
structure Housed (table : BodyTable) (nodes : NodeTable) : Prop where
  keyed : table.Keyed
  mem {id : BodyId} {hosted : HostedBody} :
    table.hosted? id = some hosted → hosted.nodeUrl ∈ nodes

namespace Housed

variable {table : BodyTable} {nodes nodes' : NodeTable}

theorem mono (h : table.Housed nodes) (hn : ∀ url ∈ nodes, url ∈ nodes') : table.Housed nodes' where
  keyed := h.keyed
  mem hh := hn _ (h.mem hh)

theorem host (h : table.Housed nodes) {node : Url} (hn : node ∈ nodes) (body : Body)
    (isLocal : Bool) : (table.host node body isLocal).Housed nodes where
  keyed := h.keyed.host node body isLocal
  mem hh := by
    rw [hosted?_host] at hh
    split at hh
    · cases hh
      exact hn
    · exact h.mem hh

theorem setStatus (h : table.Housed nodes) (id : BodyId) (status : BodyStatus) :
    (table.setStatus id status).Housed nodes where
  keyed := h.keyed.setStatus id status
  mem hh := by
    rw [hosted?_setStatus] at hh
    split at hh
    · obtain ⟨before, hb, rfl⟩ := Option.map_eq_some_iff.1 hh
      have hm : before.nodeUrl ∈ nodes := h.mem hb
      exact hm
    · exact h.mem hh

theorem completeMigration (h : table.Housed nodes) (id : BodyId) :
    (table.completeMigration id).Housed nodes where
  keyed := h.keyed.completeMigration id
  mem hh := by
    rw [hosted?_completeMigration] at hh
    split at hh
    · cases hh
    · exact h.mem hh

theorem checkpoint (h : table.Housed nodes) {node : Url} (hn : node ∈ nodes)
    {snapshot : Checkpoint} {sequence : UInt64} {handle : BodyHandle} {table' : BodyTable}
    (hc : table.checkpoint node snapshot sequence = .ok (handle, table')) :
    table'.Housed nodes where
  keyed := h.keyed.checkpoint hc
  mem hh := by
    rw [hosted?_checkpoint hc] at hh
    split at hh
    · obtain ⟨isLocal, hr⟩ := h.keyed.restored_eq node snapshot
      rw [hr] at hh
      cases hh
      exact hn
    · exact h.mem hh

end Housed

end BodyTable

/-! ## Runtimes -/

namespace Runtime

/-- The nodes are found under their own URLs, and the bodies are on these nodes. -/
structure Housed (runtime : Runtime) : Prop where
  nodes : runtime.NodesKeyed
  bodies : runtime.bodies.Housed runtime.nodes

/-- A node that admits a body is there. -/
theorem Housed.admission_mem {runtime : Runtime} (h : runtime.Housed) {node : String} {host : Node}
    (ha : runtime.admission node = .ok host) : host.url ∈ runtime.nodes := by
  obtain ⟨-, url, -, hn⟩ := admission_eq_ok_iff.1 ha
  rw [h.nodes url host hn, ← Std.ExtTreeMap.isSome_getElem?_iff_mem, hn]
  rfl

end Runtime

theorem Touches.housed {parts : List Part} {s s' : Site} (h : Touches parts s s')
    (hn : .nodes ∉ parts) (hb : .bodies ∉ parts) : Preserves Runtime.Housed s s' := by
  have nodes : s'.runtime.nodes = s.runtime.nodes := h .nodes hn
  have bodies : s'.runtime.bodies = s.runtime.bodies := h.bodies_eq hb
  intro hs
  constructor
  · rw [Runtime.NodesKeyed, nodes]
    exact hs.nodes
  · rw [nodes, bodies]
    exact hs.bodies

/-- An operation that puts bodies only on nodes that are there. -/
theorem Performs.housed {α : Type} {action : Action α}
    {f : Runtime → Except RuntimeError (α × BodyTable)} {parts : List Part}
    (hp : Performs action f) (ht : Moves (Touches parts) (attempt action)) (hn : .nodes ∉ parts)
    (hf : ∀ runtime a table, runtime.Housed → f runtime = .ok (a, table) →
      table.Housed runtime.nodes) :
    Moves (Preserves Runtime.Housed) (attempt action) := by
  intro site hs
  rcases hr : (attempt action).run site with ⟨result, site'⟩
  have nodes : site'.runtime.nodes = site.runtime.nodes := by
    have hs := ht site .nodes hn
    rwa [hr] at hs
  obtain ⟨spec, same⟩ := hp site result site' hr
  constructor
  · rw [Runtime.NodesKeyed, nodes]
    exact hs.nodes
  · rw [nodes]
    cases result with
    | error e =>
      rw [same e rfl]
      exact hs.bodies
    | ok a => exact hf _ a _ hs spec.symm

/-! ## Killing nodes -/

/-- Nodes are dropped, and of the bodies exactly those that are on them. -/
structure Runtime.Vacates (runtime runtime' : Runtime) : Prop where
  housed : runtime'.Housed
  nodes {url : Url} : url ∈ runtime'.nodes → url ∈ runtime.nodes
  hosted?_iff {id : BodyId} {hosted : HostedBody} :
    runtime'.bodies.hosted? id = some hosted ↔
      runtime.bodies.hosted? id = some hosted ∧ hosted.nodeUrl ∈ runtime'.nodes

/-- Bodies that are on nodes go with them. -/
def Clears (s s' : Site) : Prop := s.runtime.Housed → s.runtime.Vacates s'.runtime

instance : IsPreorder Site Clears where
  refl s h := ⟨h, id, (and_iff_left_of_imp h.bodies.mem).symm⟩
  trans s s' s'' h h' hs := by
    have first := h hs
    have second := h' first.housed
    refine ⟨second.housed, fun hm => first.nodes (second.nodes hm), ?_⟩
    intro id hosted
    rw [second.hosted?_iff, first.hosted?_iff, and_assoc]
    exact and_congr_right fun _ => and_iff_right_of_imp second.nodes

theorem Touches.clears {parts : List Part} {s s' : Site} (h : Touches parts s s')
    (hn : .nodes ∉ parts) (hb : .bodies ∉ parts) : Clears s s' := by
  have nodes : s'.runtime.nodes = s.runtime.nodes := h .nodes hn
  have bodies : s'.runtime.bodies = s.runtime.bodies := h.bodies_eq hb
  intro hs
  refine ⟨h.housed hn hb hs, fun hm => nodes ▸ hm, ?_⟩
  intro id hosted
  rw [bodies, nodes]
  exact (and_iff_left_of_imp hs.bodies.mem).symm

namespace Node

theorem tearDown_clears (url : Url) : Moves Clears (tearDown url) := by
  intro site hs
  obtain ⟨nodes, -, bodies⟩ := tearDown_tables url site
  have hmem {other : Url} : other ∈ ((tearDown url).run site).2.runtime.nodes ↔
      url ≠ other ∧ other ∈ site.runtime.nodes := by
    rw [nodes, Std.ExtTreeMap.mem_erase]
    simp
  have hosted {id : BodyId} {hosted : HostedBody} :
      ((tearDown url).run site).2.runtime.bodies.hosted? id = some hosted ↔
        site.runtime.bodies.hosted? id = some hosted ∧
          hosted.nodeUrl ∈ ((tearDown url).run site).2.runtime.nodes := by
    rw [bodies, hs.bodies.keyed.hosted?_evict_iff, hmem]
    constructor
    · rintro ⟨hh, hne⟩
      exact ⟨hh, Ne.symm hne, hs.bodies.mem hh⟩
    · rintro ⟨hh, hne, -⟩
      exact ⟨hh, Ne.symm hne⟩
  refine ⟨⟨tearDown_nodesKeyed url site hs.nodes, ?_, ?_⟩, fun hm => (hmem.1 hm).2, hosted⟩
  · intro id found hf
    exact hs.bodies.keyed id found (hosted.1 hf).1
  · intro id found hf
    exact (hosted.1 hf).2

theorem kill_clears (name : String) : Moves Clears (attempt (kill name)) :=
  kill_moves (fun _ _ h => h.clears (by decide) (by decide)) tearDown_clears name

theorem killAll_clears : Moves Clears killAll :=
  killAll_moves (fun _ _ h => h.clears (by decide) (by decide)) tearDown_clears

end Node

theorem Runtime.kill_clears : Moves Clears Runtime.kill :=
  kill_moves (fun _ _ h => h.clears (by decide) (by decide)) Node.killAll_clears
    (VirtualNode.unregisterAll_touches.mono fun _ _ h => h.clears (by decide) (by decide))

theorem Call.action_clears (constructors : ConstructorRegistry) {call : Call}
    (h : call.kills = true) : Moves Clears (attempt (call.action constructors)) := by
  cases call with
  | killNode name => exact .attempt_discard (Node.kill_clears name)
  | killAllNodes => exact .attempt_discard (.attempt_lift Node.killAll_clears)
  | kill => exact .attempt_discard (.attempt_lift Runtime.kill_clears)
  | _ => cases h

/-! ## The other operations -/

/-- Nodes that are added or tagged keep their bodies. -/
theorem modifyNodes_housed {f : NodeTable → NodeTable}
    (hk : ∀ nodes : NodeTable, nodes.Keyed → (f nodes).Keyed)
    (hm : ∀ (nodes : NodeTable) (url : Url), url ∈ nodes → url ∈ f nodes) :
    Moves (Preserves Runtime.Housed) (modifyNodes f) :=
  .modify fun _ h => ⟨hk _ h.nodes, h.bodies.mono (hm _)⟩

namespace Runtime

theorem createLocalNode_housed (spec : NodeSpec) :
    Moves (Preserves Housed) (attempt (createLocalNode spec)) := by
  refine createLocalNode_moves (fun _ _ h => h.housed (by decide) (by decide)) ?_ spec
  intro node
  refine modifyNodes_housed (fun _ h => h.insert node) ?_
  intro nodes url hm
  exact Std.ExtTreeMap.mem_insert.2 (.inr hm)

theorem setDefaultTag_housed (tag : String) :
    Moves (Preserves Housed) (attempt (setDefaultTag tag)) := by
  refine .attempt_bind (.attempt_ask _) fun _ => .attempt_lift ?_
  refine Node.setDefaultTag_moves (fun _ _ h => h.housed (by decide) (by decide)) tag ?_
  refine modifyNodes_housed (fun _ h => h.tagUntagged tag) ?_
  intro nodes url hm
  exact Std.ExtTreeMap.mem_map.2 hm

theorem boot_housed (config : RuntimeConfig) : Moves (Preserves Housed) (attempt (boot config)) :=
  boot_moves (fun _ _ h => h.housed (by decide) (by decide))
    (fun _ => (registerVirtualNode_touches _ _).mono fun _ _ h => h.housed (by decide) (by decide))
    createLocalNode_housed config

theorem createBody_housed (constructors : ConstructorRegistry) (fresh : BodyId) (node : String)
    (call : ConstructorCall) (isLocal : Bool) :
    Moves (Preserves Housed) (attempt (createBody constructors fresh node call isLocal)) := by
  refine (performs_createBody constructors fresh node call isLocal).housed
    (createBody_touches _ _ _ _ _) (by decide) ?_
  intro runtime handle table hs hf
  obtain ⟨host, ha, hf⟩ := bind_eq_ok_iff.1 hf
  obtain ⟨state, -, hf⟩ := map_eq_ok_iff.1 hf
  cases hf
  exact hs.bodies.host (hs.admission_mem ha) _ _

theorem receiveBody_housed (node : String) (body : Body) :
    Moves (Preserves Housed) (attempt (receiveBody node body)) := by
  refine (performs_receiveBody node body).housed (receiveBody_touches _ _) (by decide) ?_
  intro runtime handle table hs hf
  obtain ⟨host, ha, hf⟩ := bind_eq_ok_iff.1 hf
  cases hf
  exact hs.bodies.host (hs.admission_mem ha) _ _

theorem receiveCheckpoint_housed (node : String) (snapshot : Checkpoint) (sequence : UInt64) :
    Moves (Preserves Housed) (attempt (receiveCheckpoint node snapshot sequence)) := by
  refine (performs_receiveCheckpoint node snapshot sequence).housed
    (receiveCheckpoint_touches _ _ _) (by decide) ?_
  intro runtime handle table hs hf
  obtain ⟨host, ha, hc⟩ := bind_eq_ok_iff.1 hf
  exact hs.bodies.checkpoint (hs.admission_mem ha) hc

theorem beginMigration_housed (id : BodyId) :
    Moves (Preserves Housed) (attempt (beginMigration id)) := by
  refine (performs_beginMigration id).housed (beginMigration_touches id) (by decide) ?_
  intro runtime shipped table hs hf
  split at hf
  · obtain ⟨_, -, rfl⟩ := BodyTable.beginMigration_eq_ok_iff.1 hf
    exact hs.bodies.setStatus id _
  · cases hf

theorem endMigration_housed (id : BodyId) (left target : Url)
    (answer : Except RuntimeError BodyHandle) :
    Moves (Preserves Housed) (attempt (endMigration id left target answer)) := by
  intro site hs
  rcases hr : (attempt (endMigration id left target answer)).run site with ⟨result, site'⟩
  have nodes : site'.runtime.nodes = site.runtime.nodes := by
    have ht := endMigration_touches id left target answer site .nodes (by decide)
    rwa [hr] at ht
  constructor
  · rw [NodesKeyed, nodes]
    exact hs.nodes
  · rw [nodes, (run_endMigration hr).2]
    cases answer with
    | error e => exact hs.bodies.setStatus id _
    | ok handle =>
      dsimp only
      split
      · exact hs.bodies
      · exact hs.bodies.completeMigration id

end Runtime

theorem lasting_housed : Lasting Runtime.Housed where
  start h := by
    obtain ⟨-, bodies, nodes, -⟩ := Runtime.ofRequest_fresh h
    constructor
    · rw [Runtime.NodesKeyed, nodes]
      exact NodeTable.keyed_empty
    · rw [bodies]
      exact ⟨BodyTable.keyed_empty, fun hh => by simp at hh⟩
  boot := Runtime.boot_housed
  call constructors call := by
    have cleared (hk : call.kills = true) :
        Moves (Preserves Runtime.Housed) (attempt (call.action constructors)) :=
      (Call.action_clears constructors hk).mono fun _ _ hc hs => (hc hs).housed
    cases call with
    | createLocalNode spec => exact .attempt_discard (Runtime.createLocalNode_housed spec)
    | setDefaultTag tag => exact Runtime.setDefaultTag_housed tag
    | createBody fresh node call isLocal =>
      exact .attempt_discard (Runtime.createBody_housed constructors fresh node call isLocal)
    | receiveBody node body => exact .attempt_discard (Runtime.receiveBody_housed node body)
    | receiveCheckpoint node snapshot sequence =>
      exact .attempt_discard (Runtime.receiveCheckpoint_housed node snapshot sequence)
    | killNode name => exact cleared rfl
    | killAllNodes => exact cleared rfl
    | kill => exact cleared rfl
    | _ =>
      refine (Call.action_touches constructors _).mono fun _ _ h => h.housed ?_ ?_ <;>
        simp [Call.footprint]
  beginMigration := Runtime.beginMigration_housed
  receiveBody := Runtime.receiveBody_housed
  endMigration := Runtime.endMigration_housed

end ActiveObjects

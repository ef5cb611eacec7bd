import ActiveObjects.Proofs.Fleet.Calls
import ActiveObjects.Proofs.Naming.Calls

/-!
# What operations announce

Operations add events to those that were published, and each operation only events of its own
topics. A runtime is announced as stopped by its shutdown alone.
-/

namespace ActiveObjects

open Site

/-- What an event says, apart from what it is about. -/
inductive EventTopic where
  | runtimeStarted
  | runtimeStopped
  | peerRegistered
  | peerUnregistered
  | nodeCreated
  | nodeKilled
  | virtualNodeRegistered
  | virtualNodeUnregistered
  | bodyCreated
  | bodyArrived
  | bodyLeft
  | checkpointApplied
deriving DecidableEq

def RuntimeEvent.topic : RuntimeEvent → EventTopic
  | runtimeStarted .. => .runtimeStarted
  | runtimeStopped .. => .runtimeStopped
  | peerRegistered .. => .peerRegistered
  | peerUnregistered .. => .peerUnregistered
  | nodeCreated .. => .nodeCreated
  | nodeKilled .. => .nodeKilled
  | virtualNodeRegistered .. => .virtualNodeRegistered
  | virtualNodeUnregistered .. => .virtualNodeUnregistered
  | bodyCreated .. => .bodyCreated
  | bodyMigrated _ _ .inbound => .bodyArrived
  | bodyMigrated _ _ .outbound => .bodyLeft
  | checkpointApplied .. => .checkpointApplied

/-- To what was published, only events of the given topics are added. -/
def Announces (topics : List EventTopic) (s s' : Site) : Prop :=
  ∃ later, s'.runtime.events.published = s.runtime.events.published ++ later ∧
    ∀ event ∈ later, event.topic ∈ topics

instance (topics : List EventTopic) : IsPreorder Site (Announces topics) where
  refl s := ⟨[], (List.append_nil _).symm, fun _ h => nomatch h⟩
  trans s₁ s₂ s₃ := by
    rintro ⟨later, hl, hk⟩ ⟨later', hl', hk'⟩
    refine ⟨later ++ later', by rw [hl', hl, List.append_assoc], fun event he => ?_⟩
    rcases List.mem_append.1 he with he | he
    · exact hk event he
    · exact hk' event he

section

variable {α : Type} {topics topics' : List EventTopic} {s s' : Site}

theorem Announces.mono (h : Announces topics s s') (hk : topics ⊆ topics') :
    Announces topics' s s' := by
  obtain ⟨later, hl, he⟩ := h
  exact ⟨later, hl, fun event hm => hk (he event hm)⟩

theorem Moves.announces_more {work : Work α} (h : Moves (Announces topics) work)
    (hk : topics ⊆ topics') : Moves (Announces topics') work :=
  h.mono fun _ _ h => h.mono hk

theorem Touches.announces {parts : List Part} (h : Touches parts s s') (he : .events ∉ parts) :
    Announces topics s s' := by
  have same : s'.runtime.events = s.runtime.events := h .events he
  exact ⟨[], by rw [same, List.append_nil], fun _ h => nomatch h⟩

/-- Work that does not touch the events announces nothing. -/
theorem Moves.silent {work : Work α} {parts : List Part} (h : Moves (Touches parts) work)
    (he : .events ∉ parts) : Moves (Announces topics) work :=
  h.mono fun _ _ ht => ht.announces he

namespace Site

theorem publish_announces {event : RuntimeEvent} (h : event.topic ∈ topics) :
    Moves (Announces topics) (publish event) := by
  intro site
  refine ⟨[event], ?_, by simpa using h⟩
  rw [(run_publish event site).2]
  rfl

theorem logLine_announces (level : LogLevel) (message : String) :
    Moves (Announces topics) (logLine level message) :=
  (logLine_touches (List.mem_singleton.2 rfl) level message).silent (by decide)

end Site

end

/-! ## Virtual nodes -/

namespace VirtualNode

theorem register_announces (name : String) (replaceIfBound : Bool) (owner : RuntimeHandle)
    (members : List Url) :
    Moves (Announces [.virtualNodeRegistered])
      (attempt (register name replaceIfBound owner members)) := by
  have bound (url : Url) : Moves (Touches [.naming, .log])
      (attempt (Registry.register url owner replaceIfBound)) :=
    Registry.register_touches (by decide) (by decide) _ _ _
  have enrolled (key : String) (url : Url) : Moves (Touches [.groups])
      (modifyGroups (·.enroll key url members)) := modifyGroups_touches (by decide) _
  refine .attempt_bind (.attempt_ask _) fun url => .attempt_bind (.attempt_ask _) fun _ => ?_
  refine .attempt_bind ((bound url).silent (by decide)) fun _ => ?_
  refine .attempt_bind (.attempt_lift ((enrolled _ url).silent (by decide))) fun _ => ?_
  refine .attempt_bind (.attempt_lift (logLine_announces _ _)) fun _ => ?_
  refine .attempt_bind .attempt_get fun site => ?_
  exact .attempt_bind (.attempt_lift (publish_announces (.head _))) fun _ => .attempt_pure _

theorem unregister_announces (name : String) :
    Moves (Announces [.virtualNodeUnregistered]) (attempt (unregister name)) := by
  have unbound (url : Url) : Moves (Touches [.naming, .log])
      (attempt (Registry.unregister url)) :=
    Registry.unregister_touches (by decide) (by decide) _
  have forgotten (key : String) : Moves (Touches [.groups]) (modifyGroups (·.erase key)) :=
    modifyGroups_touches (by decide) _
  refine .attempt_bind .attempt_get fun site => ?_
  dsimp only
  cases site.runtime.groups.find? name with
  | some group =>
    refine .attempt_bind (.attempt_pure _) fun url => ?_
    refine .attempt_bind ((unbound url).silent (by decide)) fun outcome => ?_
    refine .attempt_bind (.attempt_lift ((forgotten _).silent (by decide))) fun _ => ?_
    refine .attempt_bind (.attempt_lift (logLine_announces _ _)) fun _ => ?_
    exact .attempt_bind (.attempt_lift (publish_announces (.head _))) fun _ => .attempt_pure _
  | none =>
    refine .attempt_bind (.attempt_ask _) fun url => ?_
    refine .attempt_bind ((unbound url).silent (by decide)) fun outcome => ?_
    exact .attempt_bind (.attempt_lift (logLine_announces _ _)) fun _ => .attempt_pure _

theorem unregisterAll_announces :
    Moves (Announces [.virtualNodeUnregistered]) unregisterAll := by
  refine .bind .get fun site => .foldlM (fun report group => ?_) _ _
  refine .bind (unregister_announces _) fun result => ?_
  rcases result with e | (_ | _)
  · exact .bind (logLine_announces _ _) fun _ => .pure _
  · exact .pure _
  · exact .bind (logLine_announces _ _) fun _ => .pure _

end VirtualNode

/-! ## Nodes -/

namespace Node

theorem create_announces (spec : NodeSpec) (owner : RuntimeHandle) :
    Moves (Announces [.nodeCreated]) (attempt (create spec owner)) := by
  have logged (level : LogLevel) (message : String) :
      Moves (Announces [.nodeCreated]) (attempt (logLine level message)) :=
    .attempt_lift (logLine_announces _ _)
  have bound (url : Url) : Moves (Touches [.naming, .log])
      (attempt (Registry.register url owner spec.replaceIfBound)) :=
    Registry.register_touches (by decide) (by decide) _ _ _
  have installed (url : Url) : Moves (Announces [.nodeCreated]) (attempt (do
      let runtime := (← get).runtime
      let node : Node :=
        { name := url.name, url, owner := runtime.url, jobId := spec.jobId
          policyServer := spec.policyServer
          virtualNode := spec.virtualNode.or runtime.defaultTag }
      install node
      logLine .info "Node created"
      publish (.nodeCreated runtime.url url node.jobId node.virtualNode)
      return node : Action Node)) := by
    refine .attempt_bind .attempt_get fun site => ?_
    refine .attempt_bind (.attempt_lift ((install_touches _).silent (by decide))) fun _ => ?_
    refine .attempt_bind (logged _ _) fun _ => ?_
    exact .attempt_bind (.attempt_lift (publish_announces (.head _))) fun _ => .attempt_pure _
  refine .attempt_bind (.attempt_ask _) fun url => .attempt_bind (.attempt_ask _) fun _ => ?_
  refine .attempt_bind .attempt_get fun site => ?_
  dsimp only
  split
  · exact .attempt_bind (logged _ _) fun _ => .attempt_pure _
  · refine .attempt_bind ((bound url).silent (by decide)) fun _ => .attempt_ite ?_ (installed url)
    exact .attempt_bind (logged _ _) fun _ => installed url

theorem tearDown_announces (url : Url) : Moves (Announces [.nodeKilled]) (tearDown url) := by
  have forgotten : Moves (Touches [.nodes]) (modifyNodes (·.erase url)) :=
    modifyNodes_touches (by decide) _
  have left : Moves (Touches [.groups]) (VirtualNode.detach url) :=
    modifyGroups_touches (by decide) _
  have evicted : Moves (Touches [.log, .bodies]) (BodyTable.evictFrom url) := by
    refine .bind .get fun site => .bind (modifyBodies_touches (by decide) _) fun _ => ?_
    exact .ite (.bind (logLine_touches (by decide) _ _) fun _ => .pure _) (.pure _)
  refine .bind (forgotten.silent (by decide)) fun _ => .bind (left.silent (by decide)) fun _ => ?_
  refine .bind (evicted.silent (by decide)) fun _ => .bind (logLine_announces _ _) fun _ => ?_
  exact .bind .get fun site => publish_announces (.head _)

theorem kill_announces (name : String) : Moves (Announces [.nodeKilled]) (attempt (kill name)) :=
  kill_moves (fun _ _ h => h.announces (by decide)) tearDown_announces name

theorem killAll_announces : Moves (Announces [.nodeKilled]) killAll :=
  killAll_moves (fun _ _ h => h.announces (by decide)) tearDown_announces

end Node

/-! ## Runtimes -/

namespace Runtime

theorem createLocalNode_announces (spec : NodeSpec) :
    Moves (Announces [.nodeCreated]) (attempt (createLocalNode spec)) := by
  refine .attempt_bind (.attempt_ask _) fun _ => .attempt_bind .attempt_get fun site => ?_
  exact .attempt_bind (Node.create_announces spec _) fun _ => .attempt_pure _

theorem registerVirtualNode_announces (name : String) (replaceIfBound : Bool) :
    Moves (Announces [.virtualNodeRegistered])
      (attempt (registerVirtualNode name replaceIfBound)) := by
  refine .attempt_bind (.attempt_ask _) fun _ => .attempt_bind .attempt_get fun site => ?_
  exact .attempt_bind (VirtualNode.register_announces name _ _ _) fun _ => .attempt_pure _

theorem registerRuntime_announces (peer : PeerRuntime) :
    Moves (Announces [.peerRegistered]) (attempt (registerRuntime peer)) := by
  have entered : Moves (Touches [.log, .directory]) (enterPeer peer) := by
    refine .bind .get fun _ => .bind (logLine_touches (by decide) _ _) fun _ => ?_
    exact .bind ((modifyDirectory_touches _).widen (by decide)) fun _ => .pure _
  have told : Moves (Announces [.peerRegistered])
      (attempt (do publish (.peerRegistered (← get).runtime.url peer.name) : Action Unit)) :=
    .attempt_bind .attempt_get fun site => .attempt_lift (publish_announces (.head _))
  refine .attempt_bind (.attempt_ask _) fun _ => ?_
  refine .attempt_bind (.attempt_lift (entered.silent (by decide))) fun previous => ?_
  exact .attempt_ite (.attempt_bind (.attempt_lift (logLine_announces _ _)) fun _ => told) told

theorem unregisterRuntime_announces (name : String) :
    Moves (Announces [.peerUnregistered]) (unregisterRuntime name) := by
  refine .bind .get fun site => .ite ?_ (.pure _)
  refine .bind ((modifyDirectory_touches _).silent (by decide)) fun _ => ?_
  exact publish_announces (.head _)

theorem createBody_announces (constructors : ConstructorRegistry) (fresh : BodyId) (node : String)
    (call : ConstructorCall) (isLocal : Bool) :
    Moves (Announces [.bodyCreated])
      (attempt (createBody constructors fresh node call isLocal)) := by
  refine .attempt_bind (.attempt_ask _) fun _ => .attempt_bind (.attempt_ask _) fun host => ?_
  refine .attempt_bind ((BodyTable.create_touches _ _ _ _ _).silent (by decide)) fun made => ?_
  exact .attempt_bind (.attempt_lift (publish_announces (.head _))) fun _ => .attempt_pure _

theorem receiveBody_announces (node : String) (body : Body) :
    Moves (Announces [.bodyArrived]) (attempt (receiveBody node body)) := by
  refine .attempt_bind (.attempt_ask _) fun _ => .attempt_bind (.attempt_ask _) fun host => ?_
  refine .attempt_bind (.attempt_lift ((BodyTable.receive_touches _ _).silent (by decide)))
    fun handle => ?_
  exact .attempt_bind (.attempt_lift (publish_announces (.head _))) fun _ => .attempt_pure _

theorem receiveCheckpoint_announces (node : String) (snapshot : Checkpoint) (sequence : UInt64) :
    Moves (Announces [.checkpointApplied])
      (attempt (receiveCheckpoint node snapshot sequence)) := by
  refine .attempt_bind (.attempt_ask _) fun _ => .attempt_bind (.attempt_ask _) fun host => ?_
  refine .attempt_bind ((BodyTable.receiveCheckpoint_touches _ _ _).silent (by decide))
    fun handle => ?_
  exact .attempt_bind (.attempt_lift (publish_announces (.head _))) fun _ => .attempt_pure _

theorem endMigration_announces (id : BodyId) (left target : Url)
    (answer : Except RuntimeError BodyHandle) :
    Moves (Announces [.bodyLeft]) (attempt (endMigration id left target answer)) := by
  have changed (f : BodyTable → BodyTable) : Moves (Announces [.bodyLeft])
      (attempt (modifyBodies f)) :=
    .attempt_lift ((modifyBodies_touches (List.mem_singleton.2 rfl) f).silent (by decide))
  cases answer with
  | error e =>
    refine .attempt_bind (.attempt_lift (logLine_announces _ _)) fun _ => ?_
    exact .attempt_bind (changed _) fun _ => .attempt_throw e
  | ok handle =>
    have told : Moves (Announces [.bodyLeft]) (attempt (do
        logLine .info "Body migrated"
        publish (.bodyMigrated id left .outbound)
        return handle : Action BodyHandle)) := by
      refine .attempt_bind (.attempt_lift (logLine_announces _ _)) fun _ => ?_
      exact .attempt_bind (.attempt_lift (publish_announces (.head _))) fun _ => .attempt_pure _
    refine .attempt_bind .attempt_get fun site => .attempt_ite ?_ told
    exact .attempt_bind (changed _) fun _ => told

theorem boot_announces (config : RuntimeConfig) :
    Moves (Announces [.runtimeStarted, .virtualNodeRegistered, .nodeCreated])
      (attempt (boot config)) := by
  have bound (url : Url) (handle : RuntimeHandle) : Moves (Touches [.naming, .log])
      (attempt (Registry.register url handle false)) :=
    Registry.register_touches (by decide) (by decide) _ _ _
  refine .attempt_bind .attempt_get fun site => ?_
  refine .attempt_bind ((bound _ _).silent (by decide)) fun _ => ?_
  refine .attempt_bind (.attempt_lift (logLine_announces _ _)) fun _ => ?_
  refine .attempt_bind (.attempt_lift (publish_announces (.head _))) fun _ => ?_
  refine .attempt_bind (.attempt_forM (fun name => ?_) _) fun _ => .attempt_forM (fun spec => ?_) _
  · exact .attempt_discard ((registerVirtualNode_announces _ _).announces_more (by decide))
  · exact .attempt_discard ((createLocalNode_announces _).announces_more (by decide))

/-! ### Shutting down -/

theorem beginShutdown_announces {topics : List EventTopic} {s s' : Site}
    (hs : s'.runtime = s.runtime.beginShutdown) : Announces topics s s' := by
  rw [Announces, hs, beginShutdown_eq]
  exact ⟨[], (List.append_nil _).symm, fun _ h => nomatch h⟩

theorem halt_announces {topics : List EventTopic} {s s' : Site} (h : .runtimeStopped ∈ topics)
    (hs : s'.runtime = s.runtime.halt) :
    Announces topics s s' := by
  rw [Announces, hs, halt]
  split
  · exact ⟨[], (List.append_nil _).symm, fun _ h => nomatch h⟩
  · exact ⟨[_], rfl, by simpa [RuntimeEvent.topic] using h⟩

theorem kill_announces :
    Moves (Announces [.nodeKilled, .virtualNodeUnregistered, .runtimeStopped]) kill := by
  have unbound (url : Url) : Moves (Touches [.naming, .log])
      (attempt (Registry.unregister url)) :=
    Registry.unregister_touches (by decide) (by decide) _
  exact kill_of_stages (fun _ _ _ hs => beginShutdown_announces hs)
    (Node.killAll_announces.announces_more (by decide))
    (VirtualNode.unregisterAll_announces.announces_more (by decide))
    (fun url => (unbound url).silent (by decide)) fun _ _ _ hs => halt_announces (by decide) hs

end Runtime

/-! ## Calls -/

namespace Call

/-- The topics of events that a call may announce. -/
def topics : Call → List EventTopic
  | createLocalNode .. => [.nodeCreated]
  | killNode .. | killAllNodes => [.nodeKilled]
  | registerVirtualNode .. => [.virtualNodeRegistered]
  | unregisterVirtualNode .. | unregisterAllVirtualNodes => [.virtualNodeUnregistered]
  | registerRuntime .. => [.peerRegistered]
  | unregisterRuntime .. => [.peerUnregistered]
  | createBody .. => [.bodyCreated]
  | receiveBody .. => [.bodyArrived]
  | receiveCheckpoint .. => [.checkpointApplied]
  | kill => [.nodeKilled, .virtualNodeUnregistered, .runtimeStopped]
  | _ => []

theorem action_announces (constructors : ConstructorRegistry) (call : Call) :
    Moves (Announces call.topics) (attempt (call.action constructors)) := by
  cases call with
  | createLocalNode spec => exact .attempt_discard (Runtime.createLocalNode_announces spec)
  | killNode name => exact .attempt_discard (Node.kill_announces name)
  | killAllNodes => exact .attempt_discard (.attempt_lift Node.killAll_announces)
  | registerVirtualNode name replaceIfBound =>
    exact .attempt_discard (Runtime.registerVirtualNode_announces name replaceIfBound)
  | unregisterVirtualNode name => exact .attempt_discard (VirtualNode.unregister_announces name)
  | unregisterAllVirtualNodes =>
    exact .attempt_discard (.attempt_lift VirtualNode.unregisterAll_announces)
  | registerRuntime peer => exact Runtime.registerRuntime_announces peer
  | unregisterRuntime name => exact .attempt_lift (Runtime.unregisterRuntime_announces name)
  | createBody fresh node call isLocal =>
    exact .attempt_discard (Runtime.createBody_announces constructors fresh node call isLocal)
  | receiveBody node body => exact .attempt_discard (Runtime.receiveBody_announces node body)
  | receiveCheckpoint node snapshot sequence =>
    exact .attempt_discard (Runtime.receiveCheckpoint_announces node snapshot sequence)
  | kill => exact .attempt_discard (.attempt_lift Runtime.kill_announces)
  | _ =>
    refine (action_touches constructors _).silent ?_
    simp [footprint]

end Call

end ActiveObjects

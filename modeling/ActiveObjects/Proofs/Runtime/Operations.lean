import ActiveObjects.Proofs.Node.Footprint
import ActiveObjects.Runtime.Startup

/-!
# What the operations of a runtime touch

No operation changes what a runtime was started with. Only the operations on bodies, and those that
kill nodes, touch the table of bodies. A shutdown is taken apart into its stages here.
-/

namespace ActiveObjects

open Site

/-! ## Bodies -/

namespace BodyTable

theorem changeBodies_touches {α : Type} (f : BodyTable → Except RuntimeError (α × BodyTable)) :
    Moves (Touches [.bodies]) (attempt (changeBodies f)) := by
  refine .attempt_bind (.attempt_ask _) fun changed => ?_
  exact .attempt_bind (.attempt_lift (modifyBodies_touches (by decide) _)) fun _ => .attempt_pure _

theorem create_touches (constructors : ConstructorRegistry) (fresh : BodyId) (node : Url)
    (call : ConstructorCall) (isLocal : Bool) :
    Moves (Touches [.log, .bodies])
      (attempt (create constructors fresh node call isLocal)) := by
  unfold create
  cases constructors[call.className]? with
  | none => exact .attempt_throw _
  | some build =>
    dsimp only
    cases build call.args with
    | error reason =>
      refine .attempt_bind (.attempt_lift (logLine_touches (by decide) _ _)) fun _ => ?_
      exact .attempt_throw _
    | ok state =>
      refine .attempt_bind (.attempt_lift (modifyBodies_touches (by decide) _)) fun _ => ?_
      refine .attempt_bind (.attempt_lift (logLine_touches (by decide) _ _)) fun _ => ?_
      exact .attempt_pure _

theorem receive_touches (node : Url) (body : Body) :
    Moves (Touches [.log, .bodies]) (receive node body) := by
  refine .bind .get fun site => .bind (modifyBodies_touches (by decide) _) fun _ => ?_
  apply logIf_touches (by decide)
  exact .bind (logLine_touches (by decide) _ _) fun _ => .pure _

theorem receiveCheckpoint_touches (node : Url) (snapshot : Checkpoint) (sequence : UInt64) :
    Moves (Touches [.log, .bodies]) (attempt (receiveCheckpoint node snapshot sequence)) := by
  have ha : Moves (Touches [.log, .bodies]) (attempt (do
      let handle ← changeBodies (·.checkpoint node snapshot sequence)
      logLine .debug "Checkpoint applied"
      return handle : Action BodyHandle)) := by
    refine .attempt_bind ((changeBodies_touches _).widen (by decide)) fun handle => ?_
    refine .attempt_bind (.attempt_lift (logLine_touches (by decide) _ _)) fun _ => ?_
    exact .attempt_pure _
  have hl (message : String) : Moves (Touches [.log, .bodies]) (logLine .warn message) :=
    logLine_touches (by decide) _ _
  refine .attempt_bind .attempt_get fun site => ?_
  dsimp only
  split
  · exact .attempt_bind (.attempt_lift (hl _)) fun _ => ha
  · exact .attempt_bind (.attempt_lift (hl _)) fun _ => ha
  · exact ha

end BodyTable

namespace Runtime

theorem createBody_touches (constructors : ConstructorRegistry) (fresh : BodyId) (node : String)
    (call : ConstructorCall) (isLocal : Bool) :
    Moves (Touches [.log, .bodies, .events])
      (attempt (createBody constructors fresh node call isLocal)) := by
  refine .attempt_bind (.attempt_ask _) fun _ => .attempt_bind (.attempt_ask _) fun host => ?_
  refine .attempt_bind ((BodyTable.create_touches _ _ _ _ _).widen (by decide)) fun made => ?_
  refine .attempt_bind (.attempt_lift (publish_touches (by decide) (by decide) _)) fun _ => ?_
  exact .attempt_pure _

theorem receiveBody_touches (node : String) (body : Body) :
    Moves (Touches [.log, .bodies, .events]) (attempt (receiveBody node body)) := by
  refine .attempt_bind (.attempt_ask _) fun _ => .attempt_bind (.attempt_ask _) fun host => ?_
  refine .attempt_bind (.attempt_lift ((BodyTable.receive_touches _ _).widen (by decide)))
    fun handle => ?_
  refine .attempt_bind (.attempt_lift (publish_touches (by decide) (by decide) _)) fun _ => ?_
  exact .attempt_pure _

theorem receiveCheckpoint_touches (node : String) (snapshot : Checkpoint) (sequence : UInt64) :
    Moves (Touches [.log, .bodies, .events])
      (attempt (receiveCheckpoint node snapshot sequence)) := by
  refine .attempt_bind (.attempt_ask _) fun _ => .attempt_bind (.attempt_ask _) fun host => ?_
  refine .attempt_bind ((BodyTable.receiveCheckpoint_touches _ _ _).widen (by decide))
    fun handle => ?_
  refine .attempt_bind (.attempt_lift (publish_touches (by decide) (by decide) _)) fun _ => ?_
  exact .attempt_pure _

theorem beginMigration_touches (id : BodyId) :
    Moves (Touches [.bodies]) (attempt (beginMigration id)) :=
  .attempt_bind (.attempt_ask _) fun _ => BodyTable.changeBodies_touches _

theorem endMigration_touches (id : BodyId) (left target : Url)
    (answer : Except RuntimeError BodyHandle) :
    Moves (Touches [.log, .bodies, .events]) (attempt (endMigration id left target answer)) := by
  cases answer with
  | error e =>
    refine .attempt_bind (.attempt_lift (logLine_touches (by decide) _ _)) fun _ => ?_
    refine .attempt_bind (.attempt_lift (modifyBodies_touches (by decide) _)) fun _ => ?_
    exact .attempt_throw e
  | ok handle =>
    have ha : Moves (Touches [.log, .bodies, .events]) (attempt (do
        logLine .info "Body migrated"
        publish (.bodyMigrated id left .outbound)
        return handle : Action BodyHandle)) := by
      refine .attempt_bind (.attempt_lift (logLine_touches (by decide) _ _)) fun _ => ?_
      refine .attempt_bind (.attempt_lift (publish_touches (by decide) (by decide) _)) fun _ => ?_
      exact .attempt_pure _
    refine .attempt_bind .attempt_get fun site => .attempt_ite ?_ ha
    exact .attempt_bind (.attempt_lift (modifyBodies_touches (by decide) _)) fun _ => ha

/-! ## Names, nodes and peers -/

theorem register_touches (url : Url) (replaceIfBound : Bool) :
    Moves (Touches [.naming, .log]) (attempt (register url replaceIfBound)) :=
  .attempt_bind (.attempt_ask _) fun _ => .attempt_bind .attempt_get fun _ =>
    Registry.register_touches (by decide) (by decide) _ _ _

theorem setDefaultTag_touches (tag : String) :
    Moves (Touches [.log, .nodes, .defaultTag, .groups]) (attempt (setDefaultTag tag)) :=
  .attempt_bind (.attempt_ask _) fun _ => .attempt_lift (Node.setDefaultTag_touches tag)

theorem createLocalNode_movesFrom {R : Site → Site → Prop} [IsPreorder Site R]
    (hq : ∀ s s', Touches [.naming, .log, .events] s s' → R s s') (spec : NodeSpec) {site : Site}
    (hi : ∀ node, site.runtime.nodeUrl spec.name = .ok node.url → Moves R (Node.install node)) :
    MovesFrom R site (attempt (createLocalNode spec)) :=
  .attempt_ask_bind fun _ _ => .attempt_get_bind <|
    .attempt_bind (Node.create_movesFrom hq spec _ hi) fun _ => .attempt_pure _

theorem createLocalNode_moves {R : Site → Site → Prop} [IsPreorder Site R]
    (hq : ∀ s s', Touches [.naming, .log, .groups, .events] s s' → R s s')
    (hn : ∀ node, Moves R (modifyNodes (·.insert node.url node))) (spec : NodeSpec) :
    Moves R (attempt (createLocalNode spec)) := by
  intro site
  refine createLocalNode_movesFrom (fun s s' h => hq s s' (h.mono (by decide))) spec ?_
  intro node _
  exact Node.install_moves (fun s s' h => hq s s' (h.mono (by decide))) node (hn node)

theorem createLocalNode_touches (spec : NodeSpec) :
    Moves (Touches [.naming, .log, .nodes, .groups, .events]) (attempt (createLocalNode spec)) :=
  createLocalNode_moves (fun _ _ h => h.mono (by decide))
    (fun _ => modifyNodes_touches (by decide) _) spec

/-- The nodes that join a group at once are those that are tagged with it now. -/
theorem registerVirtualNode_movesFrom {R : Site → Site → Prop} [IsPreorder Site R]
    (hq : ∀ s s', Touches [.naming, .log, .events] s s' → R s s') (name : String)
    (replaceIfBound : Bool) {site : Site}
    (hg : ∀ url, site.runtime.nodeUrl name = .ok url → Moves R (modifyGroups
      (·.enroll (VirtualNode.key name) url (site.runtime.nodes.taggedWith name)))) :
    MovesFrom R site (attempt (registerVirtualNode name replaceIfBound)) :=
  .attempt_ask_bind fun _ _ => .attempt_get_bind <|
    .attempt_bind (VirtualNode.register_movesFrom hq name _ _ _ hg) fun _ => .attempt_pure _

theorem registerVirtualNode_touches (name : String) (replaceIfBound : Bool) :
    Moves (Touches [.naming, .log, .groups, .events])
      (attempt (registerVirtualNode name replaceIfBound)) :=
  fun _ => registerVirtualNode_movesFrom (fun _ _ h => h.mono (by decide)) name replaceIfBound
    fun _ _ => modifyGroups_touches (by decide) _

theorem modifyDirectory_touches (f : AcquaintanceDirectory → AcquaintanceDirectory) :
    Moves (Touches [.directory]) (modifyDirectory f) :=
  .modify fun _ part hp => by cases part <;> simp_all [Part.Same]

theorem registerRuntime_touches (peer : PeerRuntime) :
    Moves (Touches [.log, .directory, .events]) (attempt (registerRuntime peer)) := by
  refine .attempt_bind (.attempt_ask _) fun _ => .attempt_bind (.attempt_lift ?_) fun previous => ?_
  · refine .bind .get fun site => .bind (logLine_touches (by decide) _ _) fun _ => ?_
    exact .bind ((modifyDirectory_touches _).widen (by decide)) fun _ => .pure _
  · refine attempt_logIf_touches (by decide) (.attempt_bind .attempt_get fun site => ?_)
    exact .attempt_lift (publish_touches (by decide) (by decide) _)

theorem unregisterRuntime_touches (name : String) :
    Moves (Touches [.log, .directory, .events]) (unregisterRuntime name) := by
  refine .bind .get fun site => .ite ?_ (.pure _)
  refine .bind ((modifyDirectory_touches _).widen (by decide)) fun _ => ?_
  exact publish_touches (by decide) (by decide) _

theorem addAcquaintance_touches (name : String) :
    Moves (Touches [.log, .directory]) (addAcquaintance name) := by
  refine .bind .get fun site => logIf_touches (by decide) ?_
  exact .bind ((modifyDirectory_touches _).widen (by decide)) fun _ => .pure _

theorem removeAcquaintance_touches (name : String) :
    Moves (Touches [.directory]) (removeAcquaintance name) :=
  .bind .get fun _ => .bind (modifyDirectory_touches _) fun _ => .pure _

theorem setParent_touches (parent : Url) : Moves (Touches [.log, .parent]) (setParent parent) :=
  .bind (logLine_touches (by decide) _ _) fun _ =>
    .modify fun _ part hp => by cases part <;> simp_all [Part.Same]

theorem setSecurityManager_touches (evaluator : PolicyEvaluator) :
    Moves (Touches [.log, .security]) (setSecurityManager evaluator) :=
  .bind (logLine_touches (by decide) _ _) fun _ =>
    .modify fun _ part hp => by cases part <;> simp_all [Part.Same]

/-! ## Starting and shutting down -/

/-- A request describes a runtime but for its URL and that of its parent. -/
theorem exists_ofRequest_eq {request : StartRequest} {runtime : Runtime}
    (h : ofRequest request = .ok runtime) :
    ∃ url parent, runtime =
      { id := request.id
        identity := .ofSettings request.config.runtime
        url, parent
        strict := request.config.naming.strictRegistration
        resolver := request.resolver
        security :=
          { evaluator := request.evaluator
            creatorCertificate := request.certificate
            configuredServer := request.config.security.policyServer.map PolicyServerRef.mk }
        events := { capacity := request.config.events.channelCapacity.toNat }
        constructors := request.constructors } := by
  unfold ofRequest at h
  dsimp only at h
  split at h
  · cases h
  · obtain ⟨url, -, h⟩ := bind_eq_ok_iff.1 h
    split at h
    all_goals
      obtain ⟨parent, -, h⟩ := bind_eq_ok_iff.1 h
      cases h
      exact ⟨_, _, rfl⟩

/-- A runtime that is about to start is running already, with nothing in its tables, and was never
heard of. -/
theorem ofRequest_fresh {request : StartRequest} {runtime : Runtime}
    (h : ofRequest request = .ok runtime) :
    runtime.id = request.id ∧ runtime.bodies = {} ∧ runtime.nodes = ∅ ∧ runtime.groups = ∅ ∧
      runtime.state = .running ∧ runtime.events.published = [] ∧ runtime.directory = {} := by
  obtain ⟨url, parent, rfl⟩ := exists_ofRequest_eq h
  exact ⟨rfl, rfl, rfl, rfl, rfl, rfl, rfl⟩

theorem boot_moves {R : Site → Site → Prop} [IsPreorder Site R]
    (hq : ∀ s s', Touches [.naming, .log, .events] s s' → R s s')
    (hv : ∀ name, Moves R (attempt (registerVirtualNode name true)))
    (hn : ∀ spec, Moves R (attempt (createLocalNode spec))) (config : RuntimeConfig) :
    Moves R (attempt (boot config)) := by
  refine .attempt_bind .attempt_get fun site => ?_
  refine .attempt_bind (.mono (Registry.register_touches (by decide) (by decide) _ _ _) hq)
    fun _ => ?_
  refine .attempt_bind (.attempt_lift (.mono (logLine_touches (by decide) _ _) hq)) fun _ => ?_
  refine .attempt_bind (.attempt_lift (.mono (publish_touches (by decide) (by decide) _) hq))
    fun _ => ?_
  refine .attempt_bind (.attempt_forM (fun name => ?_) _) fun _ => .attempt_forM (fun spec => ?_) _
  · exact .attempt_discard (hv _)
  · exact .attempt_discard (hn _)

theorem boot_touches (config : RuntimeConfig) :
    Moves (Touches [.naming, .log, .nodes, .groups, .events]) (attempt (boot config)) :=
  boot_moves (fun _ _ h => h.mono (by decide))
    (fun _ => (registerVirtualNode_touches _ _).widen (by decide)) createLocalNode_touches config

theorem beginShutdown_eq (runtime : Runtime) :
    runtime.beginShutdown = { runtime with state := runtime.beginShutdown.state } := by
  unfold beginShutdown
  split <;> rfl

/-- The runtime when all stages of its shutdown are over. Only the first time it is announced as
stopped. -/
def halt (runtime : Runtime) : Runtime :=
  { runtime with
    state := .stopped
    events := if runtime.state = .stopped then runtime.events
      else runtime.events.publish (.runtimeStopped runtime.url) }

/-- What comes after the stages. -/
theorem run_halt {nodes groups : SweepReport} {own : Except RuntimeError UnregisterOutcome}
    {site site' : Site} {report : ShutdownReport}
    (h : (do
      let wasStopped := (← get).runtime.state = .stopped
      modifyRuntime fun runtime => { runtime with state := .stopped }
      let report : ShutdownReport := ⟨nodes, groups, own⟩
      if !wasStopped then
        if report.isClean then logLine .info "Runtime stopped"
        else logLine .warn "Runtime stopped with cleanup failures"
        publish (.runtimeStopped (← get).runtime.url)
      return report : Work ShutdownReport).run site = (report, site')) :
    report = ⟨nodes, groups, own⟩ ∧ site'.naming = site.naming ∧
      site'.runtime = site.runtime.halt := by
  obtain ⟨_, _, ⟨⟩, h⟩ := run_bind_inv h
  obtain ⟨_, middle, hm, h⟩ := run_bind_inv h
  dsimp only at h
  unfold halt
  by_cases hs : site.runtime.state = .stopped
  · simp only [hs] at h
    cases hm
    cases h
    rw [if_pos hs]
    exact ⟨rfl, rfl, rfl⟩
  · have told {level : LogLevel} {message : String} (h : (do
        logLine level message
        publish (.runtimeStopped (← get).runtime.url)
        return ⟨nodes, groups, own⟩ : Work ShutdownReport).run middle = (report, site')) :
        report = ⟨nodes, groups, own⟩ ∧ site'.naming = middle.naming ∧ site'.runtime =
          { middle.runtime with
            events := middle.runtime.events.publish (.runtimeStopped middle.runtime.url) } := by
      cases h
      exact ⟨rfl, run_publish _ _⟩
    simp only [hs, decide_false, Bool.not_false, if_true] at h
    rw [if_neg hs]
    cases hm
    split at h <;> exact told h

/-- The stages of a shutdown one after the other, with the report that each one gives. -/
theorem run_kill_stages (site : Site) :
    ∃ (begun killed swept last : Site) (nodes groups : SweepReport)
      (own : Except RuntimeError UnregisterOutcome),
      begun.naming = site.naming ∧ begun.runtime = site.runtime.beginShutdown ∧
        Node.killAll.run begun = (nodes, killed) ∧
        VirtualNode.unregisterAll.run killed = (groups, swept) ∧
        (attempt (Registry.unregister swept.runtime.url)).run swept = (own, last) ∧
        (kill.run site).1 = ⟨nodes, groups, own⟩ ∧
        (kill.run site).2.naming = last.naming ∧ (kill.run site).2.runtime = last.runtime.halt := by
  rcases hk : kill.run site with ⟨report, site'⟩
  rw [kill] at hk
  obtain ⟨_, _, ⟨⟩, hk⟩ := run_bind_inv hk
  obtain ⟨_, begun, hb, hk⟩ := run_bind_inv hk
  obtain ⟨nodes, killed, hn, hk⟩ := run_bind_inv hk
  obtain ⟨groups, swept, hg, hk⟩ := run_bind_inv hk
  obtain ⟨_, _, ⟨⟩, hk⟩ := run_bind_inv hk
  obtain ⟨own, last, ho, hk⟩ := run_bind_inv hk
  obtain ⟨hnaming, hruntime⟩ : begun.naming = site.naming ∧
      begun.runtime = site.runtime.beginShutdown := by
    cases hb
    exact ⟨rfl, rfl⟩
  refine ⟨begun, killed, swept, last, nodes, groups, own, hnaming, hruntime, hn, hg, ho, ?_⟩
  cases own with
  | ok outcome => exact run_halt hk
  | error e =>
    obtain ⟨_, _, hl, hk⟩ := run_bind_inv hk
    cases hl
    have halted := run_halt hk
    exact halted

/-- What every stage of a shutdown keeps to, the whole shutdown keeps to. -/
theorem kill_of_stages {R : Site → Site → Prop} [IsPreorder Site R]
    (hb : ∀ s s', s'.naming = s.naming → s'.runtime = s.runtime.beginShutdown → R s s')
    (hn : Moves R Node.killAll) (hv : Moves R VirtualNode.unregisterAll)
    (hu : ∀ url, Moves R (attempt (Registry.unregister url)))
    (hh : ∀ s s', s'.naming = s.naming → s'.runtime = s.runtime.halt → R s s') : Moves R kill := by
  intro site
  obtain ⟨begun, killed, swept, last, nodes, groups, own, hnaming, hruntime, hk, hg, ho, -,
    hnaming', hruntime'⟩ := run_kill_stages site
  have first := hn begun
  have second := hv killed
  have third := hu swept.runtime.url swept
  rw [hk] at first
  rw [hg] at second
  rw [ho] at third
  refine trans_of R (hb _ _ hnaming hruntime) (trans_of R first ?_)
  exact trans_of R second (trans_of R third (hh _ _ hnaming' hruntime'))

theorem beginShutdown_touches {s s' : Site} (hn : s'.naming = s.naming)
    (hs : s'.runtime = s.runtime.beginShutdown) : Touches [.log, .state] s s' := by
  intro part hp
  rw [beginShutdown_eq] at hs
  cases part <;> simp_all [Part.Same]

theorem halt_touches {s s' : Site} (hn : s'.naming = s.naming)
    (hs : s'.runtime = s.runtime.halt) : Touches [.log, .state, .events] s s' := by
  intro part hp
  rw [halt] at hs
  cases part <;> simp_all [Part.Same]

/-- What the two sweeps keep, shutting down keeps, if it allows for the rest that goes on. -/
theorem kill_moves {R : Site → Site → Prop} [IsPreorder Site R]
    (hq : ∀ s s', Touches [.naming, .log, .state, .events] s s' → R s s')
    (hn : Moves R Node.killAll) (hv : Moves R VirtualNode.unregisterAll) : Moves R kill := by
  have unbound (url : Url) : Moves (Touches [.naming, .log, .state, .events])
      (attempt (Registry.unregister url)) :=
    Registry.unregister_touches (by decide) (by decide) _
  exact kill_of_stages (fun s s' hn hs => hq s s' ((beginShutdown_touches hn hs).mono (by decide)))
    hn hv (fun url => (unbound url).mono hq)
    fun s s' hn hs => hq s s' ((halt_touches hn hs).mono (by decide))

theorem kill_touches :
    Moves (Touches [.naming, .log, .state, .nodes, .groups, .bodies, .events]) kill :=
  kill_moves (fun _ _ h => h.mono (by decide)) (Node.killAll_touches.widen (by decide))
    (VirtualNode.unregisterAll_touches.widen (by decide))

end Runtime

end ActiveObjects

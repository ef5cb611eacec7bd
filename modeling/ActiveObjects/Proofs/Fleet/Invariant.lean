import ActiveObjects.Proofs.Fleet.Runs
import ActiveObjects.Proofs.Node.Keys

/-!
# Invariants of single runtimes

A property that runtimes start with and that every operation keeps holds of every runtime after
every run, whatever goes on between the steps of its migrations.
-/

namespace ActiveObjects

variable {P : Runtime → Prop}

namespace World

variable {world : World} {α : Type}

/-- All runtimes have a property. -/
def Each (world : World) (P : Runtime → Prop) : Prop :=
  ∀ id runtime, world.runtime? id = some runtime → P runtime

theorem Each.absorb (h : world.Each P) {site : Site} (hs : P site.runtime) :
    (world.absorb site).Each P := by
  intro id runtime hr
  rw [runtime?_absorb] at hr
  split at hr
  · cases hr
    exact hs
  · exact h id runtime hr

theorem Each.act (h : world.Each P) (id : RuntimeId) {action : Action α}
    (ha : Moves (Preserves P) (attempt action)) : ((act id action).run world).2.Each P := by
  cases hr : world.runtime? id with
  | none =>
    rw [act_none hr]
    exact h
  | some runtime =>
    rcases hs : (attempt action).run (world.site runtime) with ⟨result, site⟩
    rw [act_some hr hs]
    have hp := ha (world.site runtime) (h id runtime hr)
    rw [hs] at hp
    exact h.absorb hp

end World

/-- Runtimes start with the property, and every operation keeps it. -/
structure Lasting (P : Runtime → Prop) : Prop where
  start {request : StartRequest} {runtime : Runtime} :
    Runtime.ofRequest request = .ok runtime → P runtime
  boot (config : RuntimeConfig) : Moves (Preserves P) (attempt (Runtime.boot config))
  call (constructors : ConstructorRegistry) (call : Call) :
    Moves (Preserves P) (attempt (call.action constructors))
  beginMigration (id : BodyId) : Moves (Preserves P) (attempt (Runtime.beginMigration id))
  receiveBody (node : String) (body : Body) :
    Moves (Preserves P) (attempt (Runtime.receiveBody node body))
  endMigration (id : BodyId) (left target : Url) (answer : Except RuntimeError BodyHandle) :
    Moves (Preserves P) (attempt (Runtime.endMigration id left target answer))

namespace Fleet

theorem each_next (hp : Lasting P) {fleet : Fleet} (h : fleet.world.Each P) (step : Step) :
    (fleet.next step).world.Each P := by
  have changed := fleet.change_next step
  generalize (fleet.next step).world = world at changed ⊢
  cases changed with
  | idle step => exact h
  | @started request hn =>
    unfold World.start
    cases ho : Runtime.ofRequest request with
    | error e => exact h
    | ok runtime =>
      exact h.absorb (hp.boot request.config (fleet.world.site runtime) (hp.start ho))
  | naming naming => exact h
  | registries registries => exact h
  | called place call => exact h.act place (hp.call _ call)
  | shipped source target id node => exact h.act source (hp.beginMigration id)
  | delivered i target node body => exact h.act target (hp.receiveBody node body)
  | settled i source id left target answer =>
    exact h.act source (hp.endMigration id left target answer)

theorem each_after (hp : Lasting P) (steps : List Step) :
    (({} : Fleet).after steps).world.Each P :=
  after_of_next (P := fun fleet => fleet.world.Each P) (fun _ step h => each_next hp h step) steps
    (fun id runtime h => by simp [World.runtime?] at h)

end Fleet

/-! ## Nodes and groups -/

/-- What concerns the nodes and groups only lasts if the few changes of their tables keep it. -/
theorem Lasting.of_tables
    (hq : ∀ {parts s s'}, Touches parts s s' → .identity ∉ parts → .nodes ∉ parts →
      .groups ∉ parts → Preserves P s s')
    (start : ∀ {request runtime}, Runtime.ofRequest request = .ok runtime → P runtime)
    (create : ∀ spec, Moves (Preserves P) (attempt (Runtime.createLocalNode spec)))
    (tearDown : ∀ url, Moves (Preserves P) (Node.tearDown url))
    (setDefaultTag : ∀ tag, Moves (Preserves P) (Node.setDefaultTag tag))
    (register : ∀ name replaceIfBound,
      Moves (Preserves P) (attempt (Runtime.registerVirtualNode name replaceIfBound)))
    (erase : ∀ key, Moves (Preserves P) (Site.modifyGroups (·.erase key))) : Lasting P where
  start := start
  boot := Runtime.boot_moves (fun _ _ h => hq h (by decide) (by decide) (by decide))
    (fun name => register name true) create
  call constructors call := by
    have quiet (s s' : Site) (h : Touches [.naming, .log, .state, .bodies, .events] s s') :
        Preserves P s s' := hq h (by decide) (by decide) (by decide)
    have killAll : Moves (Preserves P) Node.killAll :=
      Node.killAll_moves (fun s s' h => quiet s s' (h.mono (by decide))) tearDown
    have unregisterAll : Moves (Preserves P) VirtualNode.unregisterAll :=
      VirtualNode.unregisterAll_moves (fun s s' h => quiet s s' (h.mono (by decide))) erase
    cases call with
    | createLocalNode spec => exact .attempt_discard (create spec)
    | killNode name =>
      exact .attempt_discard
        (Node.kill_moves (fun s s' h => quiet s s' (h.mono (by decide))) tearDown name)
    | killAllNodes => exact .attempt_discard (.attempt_lift killAll)
    | setDefaultTag tag =>
      exact .attempt_bind (.attempt_ask _) fun _ => .attempt_lift (setDefaultTag tag)
    | registerVirtualNode name replaceIfBound =>
      exact .attempt_discard (register name replaceIfBound)
    | unregisterVirtualNode name =>
      exact .attempt_discard
        (VirtualNode.unregister_moves (fun s s' h => quiet s s' (h.mono (by decide))) erase name)
    | unregisterAllVirtualNodes => exact .attempt_discard (.attempt_lift unregisterAll)
    | kill =>
      refine .attempt_discard (.attempt_lift ?_)
      exact Runtime.kill_moves (fun s s' h => quiet s s' (h.mono (by decide))) killAll unregisterAll
    | _ =>
      refine (Call.action_touches constructors _).mono fun _ _ h => hq h ?_ ?_ ?_ <;>
        simp [Call.footprint]
  beginMigration id :=
    (Runtime.beginMigration_touches id).mono fun _ _ h => hq h (by decide) (by decide) (by decide)
  receiveBody node body :=
    (Runtime.receiveBody_touches node body).mono fun _ _ h =>
      hq h (by decide) (by decide) (by decide)
  endMigration id left target answer :=
    (Runtime.endMigration_touches id left target answer).mono fun _ _ h =>
      hq h (by decide) (by decide) (by decide)

theorem lasting_nodesKeyed : Lasting Runtime.NodesKeyed := by
  refine .of_tables (fun h _ hn _ => h.nodesKeyed hn) ?_ ?_ Node.tearDown_nodesKeyed
    Node.setDefaultTag_nodesKeyed ?_ ?_
  · intro request runtime h
    rw [Runtime.NodesKeyed, (Runtime.ofRequest_fresh h).2.2.1]
    exact NodeTable.keyed_empty
  · exact fun spec _ => Runtime.createLocalNode_movesFrom
      (fun _ _ h => h.nodesKeyed (by decide)) spec fun node _ => Node.install_nodesKeyed node
  · exact fun name replaceIfBound => (Runtime.registerVirtualNode_touches name replaceIfBound).mono
      fun _ _ h => h.nodesKeyed (by decide)
  · exact fun key => .modify fun _ h => h

end ActiveObjects

import ActiveObjects.Proofs.Fleet.Addresses
import ActiveObjects.Proofs.Migration.Whole
import ActiveObjects.Proofs.Runtime.Refusal

/-!
# Refused calls leave a fleet as it was

A call that ends with an error changes neither the names nor any runtime; it may only have called
the naming facility in vain. A migration in one piece changes runtimes on its way, but when the
target refuses the body, the source returns it to service.
-/

namespace ActiveObjects

open Site

variable {α : Type}

/-- Every call that is refused leaves nothing behind but lines of the log. -/
theorem Call.action_atomic (constructors : ConstructorRegistry) (call : Call) :
    Atomic (call.action constructors) := by
  have discard {α : Type} {x : Action α} (h : Atomic x) : Atomic (do let _ ← x) :=
    .bind_sure h fun _ => .pure _
  have sure {α : Type} (work : Work α) : Atomic (do let _ ← work) :=
    .of_sure (.bind (.lift work) fun _ => .pure _)
  cases call with
  | register url replaceIfBound =>
    exact discard (.ask_bind fun _ => .get_bind fun _ => Registry.register_atomic _ _ _)
  | unregister url => exact discard (Registry.unregister_atomic url)
  | createLocalNode spec =>
    refine discard (.ask_bind fun _ => .get_bind fun _ => ?_)
    exact .bind_sure (Node.create_atomic spec _) fun _ => .pure _
  | killNode name => exact discard (Node.kill_atomic name)
  | killAllNodes => exact sure _
  | setDefaultTag tag => exact .ask_bind fun _ => .of_sure (.lift _)
  | registerVirtualNode name replaceIfBound =>
    refine discard (.ask_bind fun _ => .get_bind fun _ => ?_)
    exact .bind_sure (VirtualNode.register_atomic name _ _ _) fun _ => .pure _
  | unregisterVirtualNode name => exact discard (VirtualNode.unregister_atomic name)
  | unregisterAllVirtualNodes => exact sure _
  | registerRuntime peer =>
    refine .ask_bind fun _ => .of_sure (.bind (.lift _) fun previous => ?_)
    have told : Sure (do publish (.peerRegistered (← get).runtime.url peer.name) : Action Unit) :=
      .get_bind fun _ => .lift _
    exact .ite (.bind (.lift _) fun _ => told) told
  | unregisterRuntime name => exact .of_sure (.lift _)
  | addAcquaintance name => exact sure _
  | removeAcquaintance name => exact sure _
  | setParent parent => exact .of_sure (.lift _)
  | setSecurityManager evaluator => exact .of_sure (.lift _)
  | createBody fresh node call isLocal =>
    refine discard (.ask_bind fun _ => .ask_bind fun host => ?_)
    refine .bind_sure (BodyTable.create_atomic _ _ _ _ _) fun made => ?_
    exact .bind (.lift _) fun _ => .pure _
  | receiveBody node body => exact discard (Runtime.receiveBody_atomic node body)
  | receiveCheckpoint node snapshot sequence =>
    refine discard (.ask_bind fun _ => .ask_bind fun host => ?_)
    refine .bind_sure (BodyTable.receiveCheckpoint_atomic _ _ _) fun handle => ?_
    exact .bind (.lift _) fun _ => .pure _
  | kill => exact sure _

/-! ## Aborted migrations -/

namespace BodyTable

/-- A body that was active is back in service as if it had not been marked. -/
theorem abortMigration_beginMigration {table marked : BodyTable} {id : BodyId} {copy : Body × Url}
    (h : table.beginMigration id = .ok (copy, marked)) : marked.abortMigration id = table := by
  obtain ⟨isLocal, hh, rfl⟩ := beginMigration_eq_ok_iff.1 h
  ext other : 1
  · rw [abortMigration, hosted?_setStatus, hosted?_setStatus]
    split
    · rename_i ho
      subst ho
      rw [hh]
      rfl
    · rfl
  · rfl

end BodyTable

namespace Runtime

theorem run_beginMigration {id : BodyId} {copy : Body × Url} {site site' : Site}
    (hr : (attempt (beginMigration id)).run site = (.ok copy, site')) :
    ∃ marked, site.runtime.bodies.beginMigration id = .ok (copy, marked) ∧
      site' = { site with runtime := { site.runtime with bodies := marked } } := by
  rw [beginMigration, ensureRunning, run_attempt_bind, run_attempt_ask] at hr
  split at hr <;> rename_i hs
  · split at hs <;> cases hs
    rw [changeBodies, run_attempt_bind, run_attempt_ask] at hr
    cases hb : site.runtime.bodies.beginMigration id with
    | error e =>
      rw [hb] at hr
      cases hr
    | ok begun =>
      rw [hb] at hr
      cases hr
      exact ⟨begun.2, rfl, rfl⟩
  · cases hr

end Runtime

/-! ## Worlds -/

namespace World

variable {world world' : World} {id : RuntimeId}

/-- The runtimes and the bindings are as they were. Lines of the log were written at most, and calls
of the naming facility made in vain. -/
structure Unmoved (world world' : World) : Prop where
  eq : world' =
    { world with
      naming := { world.naming with ahead := world'.naming.ahead }
      log := world'.log }
  later : world.naming.Later world'.naming

theorem unmoved_refl (world : World) : world.Unmoved world := ⟨rfl, Naming.later_refl world.naming⟩

/-- Where no call of the naming facility was made, only the log differs. -/
theorem Unmoved.log_only (h : Unmoved world world') (hn : world'.naming = world.naming) :
    world' = { world with log := world'.log } := by
  refine h.eq.trans ?_
  rw [hn]

theorem unmoved_absorb (hk : world.Keyed) {runtime : Runtime} {site : Site}
    (hr : world.runtime? id = some runtime) (h : Idles (world.site runtime) site) :
    world.Unmoved (world.absorb site) := by
  refine ⟨?_, h.later⟩
  refine (absorb_of_runtime hk hr h.runtime).trans ?_
  rw [h.naming]
  rfl

/-- What is taken over of a runtime goes when something else is. -/
theorem absorb_absorb {site site' : Site} (h : site'.runtime.id = site.runtime.id)
    (log : List LogLine) :
    ({ world.absorb site with log } : World).absorb site' = world.absorb site' := by
  unfold absorb
  congr 1
  refine Std.ExtTreeMap.ext_getElem? fun other => ?_
  simp only [Std.ExtTreeMap.getElem?_insert, h]
  split <;> rfl

theorem act_refused {action : Action α} (hk : world.Keyed) (ha : Atomic action)
    {e : RuntimeError} (hr : (act id action).run world = (.error e, world')) :
    world.Unmoved world' := by
  cases hf : world.runtime? id with
  | none =>
    rw [act_none hf] at hr
    cases hr
    exact unmoved_refl world
  | some runtime =>
    rcases hs : (attempt action).run (world.site runtime) with ⟨result, site⟩
    rw [act_some hf hs] at hr
    cases hr
    exact unmoved_absorb hk hf (ha _ e site hs)

theorem migrateBody_refused {source target : RuntimeHandle} {body : BodyId} {node : String}
    (hk : world.Keyed) {e : RuntimeError}
    (hr : (migrateBody source target body node).run world = (.error e, world')) :
    world' = { world with log := world'.log } := by
  rw [migrateBody_run] at hr
  rcases h₁ : (act source.id (Runtime.beginMigration body)).run world with
    ⟨_ | ⟨copy, left⟩, world₁⟩ <;> simp only [h₁] at hr
  · cases hr
    have naming := world.naming_act source.id (Runtime.beginMigration_touches body) (by decide)
    rw [h₁] at naming
    exact (act_refused hk (Runtime.beginMigration_atomic body) h₁).log_only naming
  rcases act_cases hk (Runtime.beginMigration_touches body) (by decide) h₁ with
    ⟨-, ⟨⟩, -⟩ | ⟨runtime, site₁, hf, hs₁, rfl, hid⟩
  obtain ⟨marked, hb, hsite⟩ := Runtime.run_beginMigration hs₁
  rcases h₂ : (act target.id (Runtime.receiveBody node copy)).run (world.absorb site₁) with
    ⟨answer, world₂⟩
  simp only [h₂] at hr
  cases answer with
  | ok handle =>
    -- The source is still there, so it reports the success of the target.
    have hu := url?_act (hk.absorb site₁) target.id (Runtime.receiveBody_touches node copy)
      (by decide) source.id
    rw [h₂, runtime?_absorb, if_pos hid] at hu
    obtain ⟨found, hfound, -⟩ := Option.map_eq_some_iff.1 hu
    rcases hs₃ : (attempt (Runtime.endMigration body left target.url (.ok handle))).run
      (world₂.site found) with ⟨result, site₃⟩
    obtain ⟨rfl, -⟩ := run_endMigration hs₃
    rw [act_some hfound hs₃] at hr
    cases hr
  | error reason =>
    have naming := (world.absorb site₁).naming_act target.id
      (Runtime.receiveBody_touches node copy) (by decide)
    rw [h₂] at naming
    rw [(act_refused (hk.absorb site₁) (Runtime.receiveBody_atomic node copy) h₂).log_only
      naming] at hr
    have hfound : ({ world.absorb site₁ with log := world₂.log } : World).runtime? source.id =
        some site₁.runtime := (runtime?_absorb world site₁ source.id).trans (if_pos hid)
    rcases hs₃ : (attempt (Runtime.endMigration body left target.url (.error reason))).run
      (({ world.absorb site₁ with log := world₂.log } : World).site site₁.runtime)
      with ⟨result, site₃⟩
    rw [act_some hfound hs₃] at hr
    cases hr
    obtain ⟨-, hn, hs⟩ := run_endMigration_error hs₃
    have same : site₃.runtime.id = site₁.runtime.id := congrArg (·.id) hs
    rw [absorb_absorb same]
    have hruntime : site₃.runtime = runtime := by
      rw [hs]
      simp only [hsite, site, BodyTable.abortMigration_beginMigration hb]
    have hnaming : site₃.naming = world.naming := by
      rw [hn, hsite]
      rfl
    rw [absorb_of_runtime hk hf hruntime, hnaming]

end World

namespace Fleet

/-- After every run, a call that ends with an error leaves all names and all runtimes as they were,
the events that they published included; it may only have called the naming facility in vain. A
migration in one piece that ends with an error leaves nothing but lines of the log. -/
theorem unchanged_of_refused (steps : List Step) :
    (∀ {place : RuntimeId} {call : Call} {e : RuntimeError} {world : World}
        {shipments : List Shipment},
      (({} : Fleet).after steps).outcome (.call place call) = (.error e, world, shipments) →
        (({} : Fleet).after steps).world.Unmoved world ∧
          shipments = (({} : Fleet).after steps).shipments) ∧
    ∀ {source target : RuntimeHandle} {id : BodyId} {node : String} {e : RuntimeError}
        {world : World},
      (World.migrateBody source target id node).run (({} : Fleet).after steps).world =
          (.error e, world) →
        world = { (({} : Fleet).after steps).world with log := world.log } := by
  have hk := (sound_after steps).world
  generalize ({} : Fleet).after steps = fleet at hk ⊢
  constructor
  · intro place call e world shipments h
    rcases hr : (World.act place (call.action (fleet.world.constructors place))).run fleet.world
      with ⟨result, world'⟩
    rw [outcome, hr] at h
    cases h
    exact ⟨World.act_refused hk (call.action_atomic _) hr, rfl⟩
  · exact World.migrateBody_refused hk

/-- Two runtimes with a body, and a naming facility that fails to unbind anything. -/
def sticky (id : BodyId) : List Step :=
  .naming { fault := fun call _ =>
    if call = .unbind then some (.transportFailure "down" none) else none } :: pair id

/-- The node cannot be unbound, and the body is sent to a node that is not there. -/
theorem sticky_unchanged :
    (∃ e world shipments,
      (({} : Fleet).after (sticky ⟨7⟩)).outcome (.call 1 (.killNode "n")) =
          (.error e, world, shipments) ∧
        (({} : Fleet).after (sticky ⟨7⟩)).world.Unmoved world) ∧
    ∃ source target e world, (({} : Fleet).after (sticky ⟨7⟩)).status? 1 ⟨7⟩ = some .active ∧
      (World.migrateBody source target ⟨7⟩ "x").run (({} : Fleet).after (sticky ⟨7⟩)).world =
          (.error e, world) ∧
        world = { (({} : Fleet).after (sticky ⟨7⟩)).world with log := world.log } := by
  obtain ⟨calls, migrations⟩ := unchanged_of_refused (sticky ⟨7⟩)
  have hs : (({} : Fleet).after (sticky ⟨7⟩)).status? 1 ⟨7⟩ = some .active := by decide +kernel
  constructor
  · have h : ((({} : Fleet).after (sticky ⟨7⟩)).outcome (.call 1 (.killNode "n"))).1.toOption =
        none := by decide +kernel
    rcases hr : (({} : Fleet).after (sticky ⟨7⟩)).outcome (.call 1 (.killNode "n")) with
      ⟨e | _, world, shipments⟩
    · exact ⟨e, world, shipments, rfl, (calls hr).1⟩
    · rw [hr] at h
      cases h
  · have h : (((({} : Fleet).after (sticky ⟨7⟩)).world.runtime? 1).any fun source =>
        ((({} : Fleet).after (sticky ⟨7⟩)).world.runtime? 2).any fun target =>
          ((World.migrateBody source.handle target.handle ⟨7⟩ "x").run
            (({} : Fleet).after (sticky ⟨7⟩)).world).1.toOption = none) := by decide +kernel
    obtain ⟨source, -, h⟩ := (Option.any_eq_true _ _).1 h
    obtain ⟨target, -, h⟩ := (Option.any_eq_true _ _).1 h
    rcases hr : (World.migrateBody source.handle target.handle ⟨7⟩ "x").run
      (({} : Fleet).after (sticky ⟨7⟩)).world with ⟨e | _, world⟩
    · exact ⟨source.handle, target.handle, e, world, hs, hr, migrations hr⟩
    · rw [hr] at h
      simp [Except.toOption] at h

end Fleet

end ActiveObjects

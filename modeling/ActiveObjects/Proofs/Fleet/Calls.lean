import ActiveObjects.Proofs.Fleet.Basic
import ActiveObjects.Proofs.Runtime.Eviction

/-!
# What calls do

Each call touches a few parts of its site, and what a runtime was started with is never among them.
Only calls on bodies and calls that kill nodes can change the bodies of a runtime; each way in which
they do is a case of `Call.Effect`.
-/

namespace ActiveObjects

namespace Call

/-- The parts of its site that a call may touch. -/
def footprint : Call → List Part
  | register .. | unregister .. => [.naming, .log]
  | createLocalNode .. => [.naming, .log, .nodes, .groups, .events]
  | killNode .. | killAllNodes => [.naming, .log, .nodes, .groups, .bodies, .events]
  | setDefaultTag .. => [.log, .nodes, .defaultTag, .groups]
  | registerVirtualNode .. | unregisterVirtualNode .. | unregisterAllVirtualNodes =>
    [.naming, .log, .groups, .events]
  | registerRuntime .. | unregisterRuntime .. => [.log, .directory, .events]
  | addAcquaintance .. => [.log, .directory]
  | removeAcquaintance .. => [.directory]
  | setParent .. => [.log, .parent]
  | setSecurityManager .. => [.log, .security]
  | createBody .. | receiveBody .. | receiveCheckpoint .. => [.log, .bodies, .events]
  | kill => [.naming, .log, .state, .nodes, .groups, .bodies, .events]

theorem action_touches (constructors : ConstructorRegistry) (call : Call) :
    Moves (Touches call.footprint) (attempt (call.action constructors)) := by
  cases call with
  | register url replaceIfBound =>
    exact .attempt_discard (Runtime.register_touches url replaceIfBound)
  | unregister url =>
    exact .attempt_discard
      (Registry.unregister_touches (by simp [footprint]) (by simp [footprint]) url)
  | createLocalNode spec => exact .attempt_discard (Runtime.createLocalNode_touches spec)
  | killNode name => exact .attempt_discard (Node.kill_touches name)
  | killAllNodes => exact .attempt_discard (.attempt_lift Node.killAll_touches)
  | setDefaultTag tag => exact Runtime.setDefaultTag_touches tag
  | registerVirtualNode name replaceIfBound =>
    exact .attempt_discard (Runtime.registerVirtualNode_touches name replaceIfBound)
  | unregisterVirtualNode name => exact .attempt_discard (VirtualNode.unregister_touches name)
  | unregisterAllVirtualNodes =>
    exact .attempt_discard (.attempt_lift VirtualNode.unregisterAll_touches)
  | registerRuntime peer => exact Runtime.registerRuntime_touches peer
  | unregisterRuntime name => exact .attempt_lift (Runtime.unregisterRuntime_touches name)
  | addAcquaintance name =>
    exact .attempt_discard (.attempt_lift (Runtime.addAcquaintance_touches name))
  | removeAcquaintance name =>
    exact .attempt_discard (.attempt_lift (Runtime.removeAcquaintance_touches name))
  | setParent parent => exact .attempt_lift (Runtime.setParent_touches parent)
  | setSecurityManager evaluator =>
    exact .attempt_lift (Runtime.setSecurityManager_touches evaluator)
  | createBody fresh node call isLocal =>
    exact .attempt_discard (Runtime.createBody_touches constructors fresh node call isLocal)
  | receiveBody node body => exact .attempt_discard (Runtime.receiveBody_touches node body)
  | receiveCheckpoint node snapshot sequence =>
    exact .attempt_discard (Runtime.receiveCheckpoint_touches node snapshot sequence)
  | kill => exact .attempt_discard (.attempt_lift Runtime.kill_touches)

theorem identity_notMem_footprint (call : Call) : .identity ∉ call.footprint := by
  cases call <;> simp [footprint]

/-! ## Effects on bodies -/

/-- The calls that kill nodes. -/
def kills : Call → Bool
  | killNode .. | killAllNodes | kill => true
  | _ => false

/-- What a call does to the bodies of its runtime, with the result that it reports. -/
inductive Effect (constructors : ConstructorRegistry) (runtime : Runtime) :
    Call → Except RuntimeError Unit → BodyTable → Prop where
  /-- The call is about something else. -/
  | kept (call : Call) (result : Except RuntimeError Unit) (h : .bodies ∉ call.footprint) :
    Effect constructors runtime call result runtime.bodies
  | refused (call : Call) (e : RuntimeError) :
    Effect constructors runtime call (.error e) runtime.bodies
  | shed {call : Call} {table : BodyTable} (result : Except RuntimeError Unit)
    (hk : call.kills = true) (h : runtime.bodies.Sheds table) :
    Effect constructors runtime call result table
  | created {fresh : BodyId} {node : String} {call : ConstructorCall} {isLocal : Bool}
    {host : Node} {state : List UInt8} (ha : runtime.admission node = .ok host)
    (hc : constructors.construct call = .ok state) :
    Effect constructors runtime (createBody fresh node call isLocal) (.ok ())
      (runtime.bodies.host host.url ⟨fresh, call.className, state⟩ isLocal)
  | received {node : String} {body : Body} {host : Node} (ha : runtime.admission node = .ok host) :
    Effect constructors runtime (receiveBody node body) (.ok ())
      (runtime.bodies.host host.url body true)
  | restored {node : String} {snapshot : Checkpoint} {sequence : UInt64} {host : Node}
    {handle : BodyHandle} {table : BodyTable} (ha : runtime.admission node = .ok host)
    (hc : runtime.bodies.checkpoint host.url snapshot sequence = .ok (handle, table)) :
    Effect constructors runtime (receiveCheckpoint node snapshot sequence) (.ok ()) table

theorem Effect.keyed {constructors : ConstructorRegistry} {runtime : Runtime} {call : Call}
    {result : Except RuntimeError Unit} {table : BodyTable}
    (h : call.Effect constructors runtime result table) (hk : runtime.bodies.Keyed) :
    table.Keyed := by
  cases h with
  | kept call result h => exact hk
  | refused call e => exact hk
  | shed result _ h => exact hk.sheds h
  | created ha hc => exact hk.host _ _ _
  | received ha => exact hk.host _ _ _
  | restored ha hc => exact hk.checkpoint hc

end Call

/-- An operation that was admitted to a node and succeeded there, or was refused. -/
theorem Performs.cases {α : Type} {action : Action α}
    {f : Runtime → Except RuntimeError (α × BodyTable)} (h : Performs action f) {site site' : Site}
    {result : Except RuntimeError Unit}
    (hr : (attempt (do let _ ← action)).run site = (result, site')) :
    (∃ a, result = .ok () ∧ f site.runtime = .ok (a, site'.runtime.bodies)) ∨
      ∃ e, result = .error e ∧ f site.runtime = .error e ∧
        site'.runtime.bodies = site.runtime.bodies := by
  rw [run_attempt_bind] at hr
  rcases hx : (attempt action).run site with ⟨found, middle⟩
  obtain ⟨hf, hk⟩ := h site found middle hx
  rw [hx] at hr
  cases found with
  | ok a =>
    cases hr
    exact .inl ⟨a, rfl, hf.symm⟩
  | error e =>
    cases hr
    exact .inr ⟨e, rfl, hf.symm, hk e rfl⟩

theorem Call.action_effect {constructors : ConstructorRegistry} {call : Call} {site site' : Site}
    {result : Except RuntimeError Unit}
    (hr : (attempt (call.action constructors)).run site = (result, site')) :
    call.Effect constructors site.runtime result site'.runtime.bodies := by
  by_cases hb : .bodies ∉ call.footprint
  · have ht := call.action_touches constructors site
    rw [hr] at ht
    rw [ht.bodies_eq hb]
    exact .kept call result hb
  by_cases hk : call.kills = true
  · refine .shed result hk ?_
    have he : Moves Evicts (attempt (call.action constructors)) := by
      cases call with
      | killNode name => exact .attempt_discard (Node.kill_evicts name)
      | killAllNodes => exact .attempt_discard (.attempt_lift Node.killAll_evicts)
      | kill => exact .attempt_discard (.attempt_lift Runtime.kill_evicts)
      | _ => simp [kills] at hk
    have hs := he site
    rwa [hr] at hs
  cases call with
  | createBody fresh node call isLocal =>
    rcases (performs_createBody constructors fresh node call isLocal).cases hr with
      ⟨handle, rfl, hf⟩ | ⟨e, rfl, -, ht⟩
    · obtain ⟨host, ha, hf⟩ := bind_eq_ok_iff.1 hf
      obtain ⟨state, hc, hf⟩ := map_eq_ok_iff.1 hf
      rw [← (Prod.mk.inj hf).2]
      exact .created ha hc
    · rw [ht]
      exact .refused _ e
  | receiveBody node body =>
    rcases (performs_receiveBody node body).cases hr with ⟨handle, rfl, hf⟩ | ⟨e, rfl, -, ht⟩
    · obtain ⟨host, ha, hf⟩ := bind_eq_ok_iff.1 hf
      rw [← (Prod.mk.inj (Except.ok.inj hf)).2]
      exact .received ha
    · rw [ht]
      exact .refused _ e
  | receiveCheckpoint node snapshot sequence =>
    rcases (performs_receiveCheckpoint node snapshot sequence).cases hr with
      ⟨handle, rfl, hf⟩ | ⟨e, rfl, -, ht⟩
    · obtain ⟨host, ha, hf⟩ := bind_eq_ok_iff.1 hf
      exact .restored ha hf
    · rw [ht]
      exact .refused _ e
  | _ => simp [footprint, kills] at hb hk

end ActiveObjects

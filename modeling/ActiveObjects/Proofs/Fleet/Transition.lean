import ActiveObjects.Proofs.Fleet.Calls

/-!
# What steps do

Each step changes the bodies of one runtime at most, and the shipments at one place at most.
`Transition` lists the ways; the invariants of fleets are proved over its cases.
-/

namespace ActiveObjects.Fleet

open Function (update)

/-- What a step does to the bodies of all runtimes and to the shipments, with its result. -/
inductive Transition (fleet : Fleet) :
    Step → Except RuntimeError Unit → (RuntimeId → BodyTable) → List Shipment → Prop where
  /-- No bodies are concerned, or the step is refused. -/
  | idle (step : Step) (result : Except RuntimeError Unit)
    (hc : ∀ runtime call, step = .call runtime call → ∃ e, result = .error e)
    (hs : ∀ i, step = .settle i → ∀ shipment answer, fleet.shipments[i]? = some shipment →
      shipment.passage ≠ .answered answer) :
    Transition fleet step result fleet.bodies fleet.shipments
  | called {id : RuntimeId} {call : Call} {result : Except RuntimeError Unit} {runtime : Runtime}
    {table : BodyTable} (hr : fleet.world.runtime? id = some runtime)
    (he : call.Effect (fleet.world.constructors id) runtime result table) :
    Transition fleet (.call id call) result (update fleet.bodies id table) fleet.shipments
  | shipped {source target : RuntimeId} {id : BodyId} {node : String} {peer : RuntimeHandle}
    {body : Body} {left : Url} {isLocal : Bool}
    (hb : (fleet.bodies source).hosted? id = some ⟨body, left, isLocal, .active⟩) :
    Transition fleet (.ship source target id node) (.ok ())
      (update fleet.bodies source ((fleet.bodies source).setStatus id .migratingOut))
      (fleet.shipments ++ [⟨source, peer, node, id, body, left, .underway⟩])
  | delivered {i : Nat} {shipment : Shipment} (hs : fleet.shipments[i]? = some shipment)
    (hp : shipment.passage = .underway) (host : Url) (handle : BodyHandle) :
    Transition fleet (.deliver i) (.ok ())
      (update fleet.bodies shipment.target.id
        ((fleet.bodies shipment.target.id).host host shipment.body true))
      (fleet.shipments.set i { shipment with passage := .answered (.ok handle) })
  /-- The delivery is refused, or does not take place. -/
  | failed {i : Nat} {shipment : Shipment} (hs : fleet.shipments[i]? = some shipment)
    (hp : shipment.passage = .underway) (step : Step)
    (hd : step = .deliver i ∨ ∃ e, step = .lose i e) (result : Except RuntimeError Unit)
    (e : RuntimeError) :
    Transition fleet step result fleet.bodies
      (fleet.shipments.set i { shipment with passage := .answered (.error e) })
  /-- The body was refused and returns to service. -/
  | returned {i : Nat} {shipment : Shipment} {e : RuntimeError}
    (hs : fleet.shipments[i]? = some shipment) (hp : shipment.passage = .answered (.error e))
    (result : Except RuntimeError Unit) :
    Transition fleet (.settle i) result
      (update fleet.bodies shipment.source
        ((fleet.bodies shipment.source).abortMigration shipment.id))
      (fleet.shipments.set i { shipment with passage := .settled })
  /-- The body was taken elsewhere and the local copy is dropped. -/
  | dropped {i : Nat} {shipment : Shipment} {handle : BodyHandle} {runtime : Runtime}
    (hs : fleet.shipments[i]? = some shipment) (hp : shipment.passage = .answered (.ok handle))
    (hr : fleet.world.runtime? shipment.source = some runtime)
    (hu : shipment.target.url ≠ runtime.url) (result : Except RuntimeError Unit) :
    Transition fleet (.settle i) result
      (update fleet.bodies shipment.source
        ((fleet.bodies shipment.source).completeMigration shipment.id))
      (fleet.shipments.set i { shipment with passage := .settled })
  /-- The body was taken by the runtime that sent it. -/
  | stayed {i : Nat} {shipment : Shipment} {handle : BodyHandle}
    (hs : fleet.shipments[i]? = some shipment) (hp : shipment.passage = .answered (.ok handle))
    (hu : ∀ runtime, fleet.world.runtime? shipment.source = some runtime →
      shipment.target.url = runtime.url) (result : Except RuntimeError Unit) :
    Transition fleet (.settle i) result fleet.bodies
      (fleet.shipments.set i { shipment with passage := .settled })

/-! ## Every step is one of these -/

/-- The next fleet, with what the step did to get there. -/
structure Advance (fleet : Fleet) (step : Step) (result : Except RuntimeError Unit)
    (fleet' : Fleet) : Prop where
  keyed : fleet'.world.Keyed
  history : fleet'.history = fleet.history ++ [(step, result)]
  transition : fleet.Transition step result fleet'.bodies fleet'.shipments

variable {fleet : Fleet}

theorem Advance.of_world {step : Step} {result : Except RuntimeError Unit} {world : World}
    {shipments : List Shipment} (hk : world.Keyed)
    (ht : fleet.Transition step result world.bodies shipments) :
    fleet.Advance step result ⟨world, shipments, fleet.history ++ [(step, result)]⟩ :=
  ⟨hk, rfl, ht⟩

theorem Advance.of_refused (hk : fleet.world.Keyed) (step : Step) (e : RuntimeError)
    (hs : ∀ i, step = .settle i → ∀ shipment answer, fleet.shipments[i]? = some shipment →
      shipment.passage ≠ .answered answer) :
    fleet.Advance step (.error e)
      ⟨fleet.world, fleet.shipments, fleet.history ++ [(step, .error e)]⟩ :=
  .of_world hk (.idle _ _ (fun _ _ _ => ⟨e, rfl⟩) hs)

theorem next_start (hk : fleet.world.Keyed) (request : StartRequest) :
    ∃ result, fleet.Advance (.start request) result (fleet.next (.start request)) := by
  cases hn : fleet.world.runtime? request.id with
  | some runtime =>
    simp only [next, outcome, hn]
    exact ⟨_, .of_refused hk _ _ fun _ h => nomatch h⟩
  | none =>
    simp only [next, outcome, hn, World.start]
    cases ho : Runtime.ofRequest request with
    | error e =>
      exact ⟨_, .of_refused hk _ _ fun _ h => nomatch h⟩
    | ok runtime =>
      rcases hr : (attempt (Runtime.boot request.config)).run (fleet.world.site runtime) with
        ⟨result, site⟩
      have ht := Runtime.boot_touches request.config (fleet.world.site runtime)
      rw [hr] at ht
      obtain ⟨hid, hnone, -⟩ := Runtime.ofRequest_fresh ho
      have hi : site.runtime.id = request.id := (ht .identity (by decide)).1.trans hid
      have hb : site.runtime.bodies = fleet.bodies request.id := by
        rw [bodies, World.bodies_eq_empty hn, ht.bodies_eq (by decide)]
        exact hnone
      simp only [hr]
      have hself : update fleet.world.bodies request.id (fleet.bodies request.id) = fleet.bodies :=
        Function.update_eq_self _ _
      refine ⟨_, .of_world (hk.absorb site) ?_⟩
      rw [World.bodies_absorb hi, hb, hself]
      exact .idle _ _ (fun _ _ h => nomatch h) fun _ h => nomatch h

theorem next_call (hk : fleet.world.Keyed) (id : RuntimeId) (call : Call) :
    ∃ result, fleet.Advance (.call id call) result (fleet.next (.call id call)) := by
  rcases hr : (World.act id (call.action (fleet.world.constructors id))).run fleet.world with
    ⟨result, world⟩
  simp only [next, outcome, hr]
  rcases World.act_cases hk (call.action_touches _) call.identity_notMem_footprint hr with
    ⟨-, rfl, rfl⟩ | ⟨runtime, site, hf, hs, rfl, hi⟩
  · exact ⟨_, .of_refused hk _ _ fun _ h => nomatch h⟩
  · refine ⟨result, .of_world (hk.absorb site) ?_⟩
    rw [World.bodies_absorb hi]
    exact .called hf (Call.action_effect hs)

theorem next_ship (hk : fleet.world.Keyed) (source target : RuntimeId) (id : BodyId)
    (node : String) :
    ∃ result, fleet.Advance (.ship source target id node) result
      (fleet.next (.ship source target id node)) := by
  cases ht : fleet.world.runtime? target with
  | none =>
    simp only [next, outcome, ht]
    exact ⟨_, .of_refused hk _ _ fun _ h => nomatch h⟩
  | some peer =>
    rcases hr : (World.act source (Runtime.beginMigration id)).run fleet.world with
      ⟨result, world⟩
    obtain ⟨hw, h⟩ := World.act_performs hk (performs_beginMigration id)
      (Runtime.beginMigration_touches id) (by decide) hr
    simp only [next, outcome, ht, hr]
    rcases h with ⟨⟨body, left⟩, runtime, table, rfl, hf, hs, hb⟩ | ⟨e, rfl, hb, -⟩
    · refine ⟨.ok (), .of_world hw ?_⟩
      split at hs
      · obtain ⟨isLocal, hh, rfl⟩ := BodyTable.beginMigration_eq_ok_iff.1 hs
        rw [← World.bodies_eq hf] at hh hb
        rw [hb]
        exact .shipped hh
      · cases hs
    · refine ⟨.error e, .of_world hw ?_⟩
      rw [hb]
      exact .idle _ _ (fun _ _ h => nomatch h) fun _ h => nomatch h

theorem next_deliver (hk : fleet.world.Keyed) (i : Nat) :
    ∃ result, fleet.Advance (.deliver i) result (fleet.next (.deliver i)) := by
  cases hs : fleet.shipments[i]? with
  | none =>
    simp only [next, outcome, hs]
    exact ⟨_, .of_refused hk _ _ fun _ h => nomatch h⟩
  | some shipment =>
    rcases shipment with ⟨source, target, node, id, body, left, _ | answer | _⟩
    · rcases hr : (World.act target.id (Runtime.receiveBody node body)).run fleet.world with
        ⟨answer, world⟩
      obtain ⟨hw, h⟩ := World.act_performs hk (performs_receiveBody node body)
        (Runtime.receiveBody_touches node body) (by decide) hr
      simp only [next, outcome, hs, hr]
      rcases h with ⟨handle, runtime, table, rfl, hf, ha, hb⟩ | ⟨e, rfl, hb, -⟩
      · refine ⟨.ok (), .of_world hw ?_⟩
        obtain ⟨host, -, ht⟩ := bind_eq_ok_iff.1 ha
        rw [hb, ← (Prod.mk.inj (Except.ok.inj ht)).2, ← World.bodies_eq hf]
        exact .delivered hs rfl host.url handle
      · refine ⟨.error e, .of_world hw ?_⟩
        rw [hb]
        exact .failed hs rfl (.deliver i) (.inl rfl) _ e
    all_goals
      simp only [next, outcome, hs]
      exact ⟨_, .of_refused hk _ _ fun _ h => nomatch h⟩

theorem next_lose (hk : fleet.world.Keyed) (i : Nat) (e : RuntimeError) :
    ∃ result, fleet.Advance (.lose i e) result (fleet.next (.lose i e)) := by
  cases hs : fleet.shipments[i]? with
  | none =>
    simp only [next, outcome, hs]
    exact ⟨_, .of_refused hk _ _ fun _ h => nomatch h⟩
  | some shipment =>
    rcases shipment with ⟨source, target, node, id, body, left, _ | answer | _⟩
    · simp only [next, outcome, hs]
      exact ⟨.ok (), .of_world hk (.failed hs rfl (.lose i e) (.inr ⟨e, rfl⟩) _ e)⟩
    all_goals
      simp only [next, outcome, hs]
      exact ⟨_, .of_refused hk _ _ fun _ h => nomatch h⟩

theorem next_settle (hk : fleet.world.Keyed) (i : Nat) :
    ∃ result, fleet.Advance (.settle i) result (fleet.next (.settle i)) := by
  cases hs : fleet.shipments[i]? with
  | none =>
    simp only [next, outcome, hs]
    refine ⟨_, .of_refused hk _ _ ?_⟩
    rintro _ ⟨⟩ shipment answer ho
    rw [hs] at ho
    cases ho
  | some shipment =>
    rcases shipment with ⟨source, target, node, id, body, left, _ | answer | _⟩
    case answered =>
      rcases hr : (World.act source (Runtime.endMigration id left target.url answer)).run
        fleet.world with ⟨result, world⟩
      simp only [next, outcome, hs, hr]
      refine ⟨result.map fun _ => (), ?_⟩
      rcases World.act_cases hk (Runtime.endMigration_touches id left target.url answer)
          (by decide) hr with ⟨hn, rfl, rfl⟩ | ⟨runtime, site, hf, hsite, rfl, hi⟩
      · refine .of_world hk ?_
        cases answer with
        | error e =>
          have hb : update fleet.bodies source ((fleet.bodies source).abortMigration id) =
              fleet.bodies := by
            have he : fleet.bodies source = {} := World.bodies_eq_empty hn
            rw [he, BodyTable.abortMigration, BodyTable.setStatus_empty, ← he,
              Function.update_eq_self]
          have ht := Transition.returned hs rfl
            ((Except.error World.unreachable : Except RuntimeError BodyHandle).map fun _ => ())
          rwa [hb] at ht
        | ok handle =>
          refine .stayed hs rfl ?_ _
          intro runtime hf
          rw [hn] at hf
          cases hf
      · refine .of_world (hk.absorb site) ?_
        rw [World.bodies_absorb hi]
        have hown : fleet.bodies source = runtime.bodies := World.bodies_eq hf
        have hb := (run_endMigration hsite).2
        cases answer with
        | error e =>
          have hb : site.runtime.bodies = runtime.bodies.abortMigration id := hb
          rw [hb, ← hown]
          exact .returned hs rfl _
        | ok handle =>
          have hb : site.runtime.bodies =
            if target.url = runtime.url then runtime.bodies
            else runtime.bodies.completeMigration id := hb
          by_cases hu : target.url = runtime.url
          · have hself : update fleet.world.bodies source (fleet.bodies source) = fleet.bodies :=
              Function.update_eq_self _ _
            rw [hb, if_pos hu, ← hown, hself]
            refine .stayed hs rfl ?_ _
            intro other ho
            rw [hf] at ho
            cases ho
            exact hu
          · rw [hb, if_neg hu, ← hown]
            exact .dropped hs rfl hf hu _
    all_goals
      simp only [next, outcome, hs]
      refine ⟨_, .of_refused hk _ _ ?_⟩
      rintro _ ⟨⟩ shipment answer ho
      rw [hs] at ho
      cases ho
      intro h
      cases h

theorem next_advance (hk : fleet.world.Keyed) (step : Step) :
    ∃ result, fleet.Advance step result (fleet.next step) := by
  cases step with
  | start request => exact next_start hk request
  | naming naming =>
    exact ⟨_, .of_world hk (.idle _ _ (fun _ _ h => nomatch h) fun _ h => nomatch h)⟩
  | registries registries =>
    exact ⟨_, .of_world hk (.idle _ _ (fun _ _ h => nomatch h) fun _ h => nomatch h)⟩
  | call id call => exact next_call hk id call
  | ship source target id node => exact next_ship hk source target id node
  | deliver i => exact next_deliver hk i
  | lose i e => exact next_lose hk i e
  | settle i => exact next_settle hk i

/-! ## What results tell -/

theorem Advance.outcome_eq {step : Step} {result : Except RuntimeError Unit}
    (h : fleet.Advance step result (fleet.next step)) :
    (fleet.outcome step).1 = result := by
  have hh : fleet.history ++ [(step, (fleet.outcome step).1)] = fleet.history ++ [(step, result)] :=
    h.history
  simpa using hh

/-- A migration that begins is added to those that were begun. -/
theorem shipments_of_ship {source target : RuntimeId} {shipped : BodyId} {node : String}
    (h : (fleet.outcome (.ship source target shipped node)).1 = .ok ()) :
    ∃ peer body left, fleet.world.runtime? target = some peer ∧
      (fleet.next (.ship source target shipped node)).shipments =
        fleet.shipments ++ [⟨source, peer.handle, node, shipped, body, left, .underway⟩] := by
  cases ht : fleet.world.runtime? target with
  | none =>
    simp only [outcome, ht] at h
    cases h
  | some peer =>
    rcases hr : (World.act source (Runtime.beginMigration shipped)).run fleet.world with
      ⟨_ | _, world⟩
    · simp only [outcome, ht, hr] at h
      cases h
    · simp only [next, outcome, ht, hr]
      exact ⟨peer, _, _, rfl, rfl⟩

/-- A delivery that succeeds is answered. -/
theorem shipments_of_deliver {i : Nat} (h : (fleet.outcome (.deliver i)).1 = .ok ()) :
    ∃ shipment handle, fleet.shipments[i]? = some shipment ∧ shipment.passage = .underway ∧
      (fleet.next (.deliver i)).shipments =
        fleet.shipments.set i { shipment with passage := .answered (.ok handle) } := by
  cases hs : fleet.shipments[i]? with
  | none =>
    simp only [outcome, hs] at h
    cases h
  | some shipment =>
    rcases shipment with ⟨source, target, node, shipped, body, left, _ | answer | _⟩
    · rcases hr : (World.act target.id (Runtime.receiveBody node body)).run fleet.world with
        ⟨_ | handle, world⟩
      · simp only [outcome, hs, hr] at h
        cases h
      · simp only [next, outcome, hs, hr]
        exact ⟨_, handle, rfl, rfl, rfl⟩
    all_goals
      simp only [outcome, hs] at h
      cases h

/-- A migration begins if both runtimes are there, the source is running, and it hosts the body as
active. -/
theorem ship_eq_ok_iff (hk : fleet.world.Keyed) {source target : RuntimeId} {id : BodyId}
    {node : String} :
    (fleet.outcome (.ship source target id node)).1 = .ok () ↔
      (∃ peer, fleet.world.runtime? target = some peer) ∧
        (∃ site, fleet.world.runtime? source = some site ∧ site.state = .running) ∧
        fleet.status? source id = some .active := by
  cases ht : fleet.world.runtime? target with
  | none => simp [outcome, ht]
  | some peer =>
    rcases hr : (World.act source (Runtime.beginMigration id)).run fleet.world with ⟨result, world⟩
    have ho : (fleet.outcome (.ship source target id node)).1 = result.map fun _ => () := by
      simp only [outcome, ht, hr]
      cases result <;> rfl
    rw [ho, status?, BodyTable.status?]
    rcases (World.act_performs hk (performs_beginMigration id) (Runtime.beginMigration_touches id)
      (by decide) hr).2 with ⟨⟨body, left⟩, site, table, rfl, hf, hs, -⟩ | ⟨e, rfl, -, hs⟩
    · split at hs
      · rename_i hrun
        obtain ⟨isLocal, hh, -⟩ := BodyTable.beginMigration_eq_ok_iff.1 hs
        refine iff_of_true rfl ⟨⟨peer, rfl⟩, ⟨site, hf, hrun⟩, ?_⟩
        rw [bodies, World.bodies_eq hf, hh]
        rfl
      · cases hs
    · refine iff_of_false (by simp [Except.map]) ?_
      rintro ⟨-, ⟨site, hf, hrun⟩, hactive⟩
      obtain ⟨hosted, hh, ha⟩ := Option.map_eq_some_iff.1 hactive
      obtain ⟨body, left, isLocal, status⟩ := hosted
      obtain rfl : status = .active := ha
      rw [bodies, World.bodies_eq hf] at hh
      have hbegin := BodyTable.beginMigration_eq_ok_iff.2 ⟨isLocal, hh, rfl⟩
      have hs := hs site hf
      rw [if_pos hrun, hbegin] at hs
      cases hs

end ActiveObjects.Fleet

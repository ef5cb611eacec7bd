import ActiveObjects.Proofs.Event.Whereabouts
import ActiveObjects.Proofs.Migration.Stranding

/-!
# What the events of a runtime tell of its bodies

Two runs that a runtime tells the same of can leave it with different bodies, for a migration within
the runtime is announced like one that leaves it. Apart from this, the events tell where the active
bodies are as soon as no migration is in progress.
-/

namespace ActiveObjects

namespace World

variable {world world' world'' : World} {place : RuntimeId}

/-- All that the runtime published; a runtime that is not there has published nothing. -/
def published (world : World) (place : RuntimeId) : List RuntimeEvent :=
  ((world.runtime? place).map (·.events.published)).getD []

theorem published_eq {runtime : Runtime} (h : world.runtime? place = some runtime) :
    world.published place = runtime.events.published := by
  rw [published, h]
  rfl

/-- An observer of the runtime who knows which of its departures leave it can trace its bodies. -/
def Traces (place : RuntimeId) (leaving : List Bool) (world world' : World) : Prop :=
  ∃ later, world'.published place = world.published place ++ later ∧
    ∀ more, later.foldl Lookout.hear ⟨(world.bodies place).nodeOf?, leaving ++ more⟩ =
      ⟨(world'.bodies place).nodeOf?, more⟩

theorem Traces.of_same (h : world'.runtime? place = world.runtime? place) :
    Traces place [] world world' := by
  refine ⟨[], ?_, fun more => ?_⟩
  · rw [published, published, h, List.append_nil]
  · rw [bodies, bodies, h]
    rfl

theorem Traces.trans {leaving leaving' : List Bool} (h : Traces place leaving world world')
    (h' : Traces place leaving' world' world'') :
    Traces place (leaving ++ leaving') world world'' := by
  obtain ⟨later, hl, heard⟩ := h
  obtain ⟨later', hl', heard'⟩ := h'
  refine ⟨later ++ later', ?_, fun more => ?_⟩
  · rw [hl', hl, List.append_assoc]
  · rw [List.append_assoc, List.foldl_append, heard, heard']

theorem Traces.of_runtime {leaving : List Bool} {runtime runtime' : Runtime}
    (hr : world.runtime? place = some runtime) (hr' : world'.runtime? place = some runtime')
    (h : runtime.TracedBy leaving runtime') : Traces place leaving world world' := by
  rw [Traces, published_eq hr, published_eq hr', bodies_eq hr, bodies_eq hr']
  exact h.later

/-- No action but the settling of a migration announces departures. -/
theorem act_traces {α : Type} {action : Action α} (hk : world.Keyed)
    (hb : ∀ id, (world.bodies id).Keyed) (ha : Moves Locates (attempt action))
    (actor : RuntimeId) : Traces place [] world ((act actor action).run world).2 := by
  have keyed {id : RuntimeId} {runtime : Runtime} (hr : world.runtime? id = some runtime) :
      runtime.bodies.Keyed := bodies_eq hr ▸ hb id
  rcases runtime?_act hk ha (fun hr located => (located (keyed hr)).id) place with
    same | ⟨runtime, site, hr, located, hs⟩
  · exact .of_same same
  · exact .of_runtime hr hs (located (keyed hr))

/-- What a runtime publishes as it starts, it publishes from nothing. -/
theorem start_traces {request : StartRequest} (hn : world.runtime? request.id = none) :
    Traces place [] world (world.start request).2 := by
  by_cases hp : request.id = place
  · subst hp
    unfold start
    cases ho : Runtime.ofRequest request with
    | error e => exact .of_same rfl
    | ok runtime =>
      rcases hr : (attempt (Runtime.boot request.config)).run (world.site runtime) with
        ⟨result, site⟩
      obtain ⟨hid, bodies, -, -, -, published, -⟩ := Runtime.ofRequest_fresh ho
      have located := Runtime.boot_locates request.config (world.site runtime)
        (bodies ▸ BodyTable.keyed_empty)
      rw [hr] at located
      have started : (world.absorb site).runtime? request.id = some site.runtime := by
        rw [runtime?_absorb, if_pos (located.id.trans hid)]
      obtain ⟨later, hl, heard⟩ := located.later
      simp only [hr]
      refine ⟨later, ?_, fun more => ?_⟩
      · rw [published_eq started, World.published, hn, hl, World.site, published]
        rfl
      · rw [bodies_eq started, bodies_eq_empty hn, ← heard more, World.site, bodies]
  · exact .of_same (runtime?_start_of_ne hp)

end World

namespace Fleet

variable {fleet : Fleet} {place : RuntimeId}

/-- For a step in which the runtime announces that a body migrated out: whether the body left it. -/
def departure? (place : RuntimeId) (fleet : Fleet) : Step → Option Bool
  | .settle i => do
    let shipment ← fleet.shipments[i]?
    let url ← fleet.url? place
    if shipment.source = place ∧ shipment.isTaken then some (shipment.target.url ≠ url) else none
  | _ => none

/-- The same for all such steps of a run, in order. -/
def departures (place : RuntimeId) : Fleet → List Step → List Bool
  | _, [] => []
  | fleet, step :: steps =>
    (departure? place fleet step).toList ++ departures place (fleet.next step) steps

theorem departure?_eq_none {i : Nat} (h : ∀ shipment, fleet.shipments[i]? = some shipment →
      ¬ (shipment.source = place ∧ shipment.isTaken)) :
    departure? place fleet (.settle i) = none := by
  rw [departure?]
  cases hi : fleet.shipments[i]? with
  | none => rfl
  | some shipment =>
    cases hu : fleet.url? place with
    | none => rfl
    | some url => simp [h shipment hi]

/-- Settling a migration that was taken announces a departure. -/
theorem traces_taken (hs : fleet.Sound) {i : Nat} {shipment : Shipment} {handle : BodyHandle}
    (hi : fleet.shipments[i]? = some shipment) (hp : shipment.passage = .answered (.ok handle)) :
    World.Traces place (departure? place fleet (.settle i)).toList fleet.world
      (fleet.next (.settle i)).world := by
  obtain ⟨source, target, node, id, body, left, passage⟩ := shipment
  obtain rfl : passage = .answered (.ok handle) := hp
  simp only [next, outcome, hi]
  by_cases hplace : source = place
  · subst hplace
    cases hf : fleet.world.runtime? source with
    | none =>
      have hd : departure? source fleet (.settle i) = none := by simp [departure?, url?, hi, hf]
      rw [hd, World.act_none hf]
      exact .of_same rfl
    | some runtime =>
      have hd : departure? source fleet (.settle i) = some (decide (target.url ≠ runtime.url)) := by
        simp [departure?, url?, hi, hf, Shipment.isTaken]
      rcases hsite : (attempt (Runtime.endMigration id left target.url (.ok handle))).run
        (fleet.world.site runtime) with ⟨answer, site⟩
      have keyed : runtime.bodies.Keyed := World.bodies_eq hf ▸ hs.bodies source
      have traced := Runtime.endMigration_locates_leaving hsite keyed
      rw [hd, World.act_some hf hsite]
      refine .of_runtime hf ?_ traced
      rw [World.runtime?_absorb, if_pos (traced.id.trans (hs.world source runtime hf))]
  · rw [departure?_eq_none (by simp [hi, hplace])]
    refine .of_same ?_
    exact World.runtime?_act_of_ne hs.world (Runtime.endMigration_touches id left target.url _)
      (by decide) hplace

theorem traces_settle (hs : fleet.Sound) (i : Nat) :
    World.Traces place (departure? place fleet (.settle i)).toList fleet.world
      (fleet.next (.settle i)).world := by
  cases hi : fleet.shipments[i]? with
  | none =>
    rw [departure?_eq_none (by simp [hi])]
    simp only [next, outcome, hi]
    exact .of_same rfl
  | some shipment =>
    rcases shipment with ⟨source, target, node, id, body, left, _ | (e | handle) | _⟩
    case answered.ok => exact traces_taken hs hi rfl
    all_goals
      rw [departure?_eq_none (by simp [hi, Shipment.isTaken])]
      simp only [next, outcome, hi]
    · exact .of_same rfl
    · exact World.act_traces hs.world hs.bodies
        (Runtime.endMigration_locates id left target.url e) source
    · exact .of_same rfl

/-- No other step announces one. -/
theorem traces_change {step : Step} {world : World} (hs : fleet.Sound)
    (h : fleet.Change step world) (hn : ∀ i, step ≠ .settle i) :
    World.Traces place [] fleet.world world := by
  cases h with
  | idle step => exact .of_same rfl
  | started hnone => exact World.start_traces hnone
  | naming naming => exact .of_same rfl
  | registries registries => exact .of_same rfl
  | called actor call => exact World.act_traces hs.world hs.bodies (call.action_locates _) actor
  | shipped source target id node =>
    exact World.act_traces hs.world hs.bodies (Runtime.beginMigration_locates id) source
  | delivered i target node body =>
    exact World.act_traces hs.world hs.bodies (Runtime.receiveBody_locates node body) target
  | settled i source id left target answer => exact absurd rfl (hn i)

theorem traces_next (hs : fleet.Sound) (step : Step) :
    World.Traces place (departure? place fleet step).toList fleet.world
      (fleet.next step).world := by
  cases step with
  | settle i => exact traces_settle hs i
  | _ => exact traces_change hs (fleet.change_next _) fun i h => nomatch h

theorem traces_after (hs : fleet.Sound) (steps : List Step) :
    World.Traces place (departures place fleet steps) fleet.world (fleet.after steps).world := by
  induction steps generalizing fleet with
  | nil => exact .of_same rfl
  | cons step steps ih => exact (traces_next hs step).trans (ih (hs.next step))

/-! ## Two runs -/

/-- The active bodies of a runtime, with the nodes on which they are listed. -/
def actives (fleet : Fleet) (place : RuntimeId) : Set (BodyId × Url) :=
  {entry | ∃ handle ∈ (fleet.bodies place).activeObjects entry.2, handle.id = entry.1}

/-- Once no migration is in progress and no body is stuck in one, all bodies are active. -/
theorem Accounted.mem_actives_iff (h : fleet.Accounted) (hq : fleet.Quiet) (hs : fleet.Sound)
    {id : BodyId} {node : Url} :
    (id, node) ∈ fleet.actives place ↔ (fleet.bodies place).nodeOf? id = some node := by
  constructor
  · rintro ⟨handle, hm, rfl⟩
    obtain ⟨rfl, hosted, hf, -, rfl⟩ := (hs.bodies place).mem_activeObjects.1 hm
    exact Option.map_eq_some_iff.2 ⟨hosted, hf, rfl⟩
  · intro hn
    obtain ⟨hosted, hf, rfl⟩ := Option.map_eq_some_iff.1 hn
    have hid : hosted.handle.id = id := hs.bodies place id hosted hf
    have hstatus : fleet.status? place id = some hosted.status := by
      rw [status?, BodyTable.status?, hf]
      rfl
    rw [← hid] at hf
    exact ⟨hosted.handle,
      (hs.bodies place).mem_activeObjects.2 ⟨rfl, hosted, hf, h.active hq hstatus, rfl⟩, hid⟩

/-- Two runs of a runtime that announce the same, and in which the same departures leave it, put
bodies on the same nodes. -/
theorem nodeOf?_eq_of_published (hs : fleet.Sound) {steps steps' : List Step}
    (hp : (fleet.after steps).world.published place = (fleet.after steps').world.published place)
    (hd : departures place fleet steps = departures place fleet steps') :
    ((fleet.after steps).bodies place).nodeOf? = ((fleet.after steps').bodies place).nodeOf? := by
  obtain ⟨later, hl, heard⟩ : World.Traces place _ _ _ := traces_after hs steps
  obtain ⟨later', hl', heard'⟩ : World.Traces place _ _ _ := traces_after hs steps'
  rw [hl, hl'] at hp
  have same : later = later' := List.append_cancel_left hp
  have h := (heard []).symm.trans (same ▸ hd ▸ heard' [])
  exact congrArg Lookout.nodeOf h

/-- Two runs from the same state, at whose ends no migration is in progress. If a runtime announced
the same in both, and the same of the departures that it announced left it, then it has the same
bodies active on the same nodes in the end. -/
theorem actives_eq_of_published (before steps steps' : List Step) (place : RuntimeId)
    (hn : Obeys (fun fleet step => ¬ fleet.Strands step) {} (before ++ steps))
    (hn' : Obeys (fun fleet step => ¬ fleet.Strands step) {} (before ++ steps'))
    (hq : (({} : Fleet).after (before ++ steps)).Quiet)
    (hq' : (({} : Fleet).after (before ++ steps')).Quiet)
    (hp : (({} : Fleet).after (before ++ steps)).world.published place =
      (({} : Fleet).after (before ++ steps')).world.published place)
    (hd : departures place (({} : Fleet).after before) steps =
      departures place (({} : Fleet).after before) steps') :
    (({} : Fleet).after (before ++ steps)).actives place =
      (({} : Fleet).after (before ++ steps')).actives place := by
  ext ⟨id, node⟩
  rw [(accounted_after hn).mem_actives_iff hq (sound_after _),
    (accounted_after hn').mem_actives_iff hq' (sound_after _)]
  rw [after_append, after_append] at hp ⊢
  rw [nodeOf?_eq_of_published (sound_after before) hp hd]

/-- Two runtimes, with two bodies on the first. -/
def lodged : List Step :=
  [opening 1 1099, opening 2 2099, .call 1 (.receiveBody "n" ⟨⟨7⟩, "Text", []⟩),
    .call 1 (.receiveBody "n" ⟨⟨8⟩, "Text", []⟩)]

/-- A copy of the body `7` arrives, and then the body migrates out. -/
def displaced : List Step :=
  [.call 1 (.receiveBody "n" ⟨⟨7⟩, "Text", [1]⟩), .ship 1 2 ⟨7⟩ "n", .deliver 0, .settle 0]

/-- A copy of the body `7` arrives while the body migrates out. -/
def overtaken : List Step :=
  [.ship 1 2 ⟨7⟩ "n", .deliver 0, .call 1 (.receiveBody "n" ⟨⟨7⟩, "Text", [1]⟩), .settle 0]

/-- The body `7` migrates within its runtime. -/
def rehomed : List Step := [.ship 1 1 ⟨7⟩ "n", .deliver 0, .settle 0]

/-- It does not matter whether the copy arrives before the migration begins or before it ends. -/
theorem actives_eq_of_overtaken :
    (({} : Fleet).after (lodged ++ displaced)).actives 1 =
        (({} : Fleet).after (lodged ++ overtaken)).actives 1 ∧
      (({} : Fleet).after (lodged ++ displaced)).status? 1 ⟨7⟩ = none ∧
      (({} : Fleet).after (lodged ++ displaced)).status? 1 ⟨8⟩ = some .active := by
  obtain ⟨hn, hn', hq, hq', hp, hd, hgone, hkept⟩ :
      Obeys (fun fleet step => ¬ fleet.Strands step) {} (lodged ++ displaced) ∧
      Obeys (fun fleet step => ¬ fleet.Strands step) {} (lodged ++ overtaken) ∧
      (({} : Fleet).after (lodged ++ displaced)).Quiet ∧
      (({} : Fleet).after (lodged ++ overtaken)).Quiet ∧
      (({} : Fleet).after (lodged ++ displaced)).world.published 1 =
        (({} : Fleet).after (lodged ++ overtaken)).world.published 1 ∧
      departures 1 (({} : Fleet).after lodged) displaced =
        departures 1 (({} : Fleet).after lodged) overtaken ∧
      (({} : Fleet).after (lodged ++ displaced)).status? 1 ⟨7⟩ = none ∧
      (({} : Fleet).after (lodged ++ displaced)).status? 1 ⟨8⟩ = some .active := by decide +kernel
  exact ⟨actives_eq_of_published lodged displaced overtaken 1 hn hn' hq hq' hp hd, hgone, hkept⟩

/-- The runtime announces the same of a copy that arrives before its body leaves, and of a body that
stays. -/
theorem rehomed_or_gone :
    let home := ({} : Fleet).after (lodged ++ rehomed)
    let away := ({} : Fleet).after (lodged ++ displaced)
    (∀ entry ∈ home.history ++ away.history, entry.2 = .ok ()) ∧ home.Quiet ∧ away.Quiet ∧
      home.world.published 1 = away.world.published 1 ∧ home.actives 1 ≠ away.actives 1 := by
  intro home away
  obtain ⟨hn, hn', hok, hq, hq', hp, hstays, hgone⟩ :
      Obeys (fun fleet step => ¬ fleet.Strands step) {} (lodged ++ rehomed) ∧
      Obeys (fun fleet step => ¬ fleet.Strands step) {} (lodged ++ displaced) ∧
      (∀ entry ∈ home.history ++ away.history, entry.2 = .ok ()) ∧ home.Quiet ∧ away.Quiet ∧
      home.world.published 1 = away.world.published 1 ∧
      ((home.bodies 1).nodeOf? ⟨7⟩).isSome ∧ (away.bodies 1).nodeOf? ⟨7⟩ = none := by
    decide +kernel
  refine ⟨hok, hq, hq', hp, fun hsame => ?_⟩
  obtain ⟨node, hnode⟩ := Option.isSome_iff_exists.1 hstays
  have hm : (⟨7⟩, node) ∈ home.actives 1 :=
    ((accounted_after hn).mem_actives_iff hq (sound_after _)).2 hnode
  rw [hsame, (accounted_after hn').mem_actives_iff hq' (sound_after _), hgone] at hm
  cases hm

end Fleet

end ActiveObjects

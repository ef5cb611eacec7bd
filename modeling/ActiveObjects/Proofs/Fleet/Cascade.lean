import ActiveObjects.Proofs.Fleet.Addresses
import ActiveObjects.Proofs.Fleet.Decline
import ActiveObjects.Proofs.Runtime.Cascade

/-!
# Shutting down, and again

A shutdown always comes to its end. The first one of a runtime announces it as stopped; any later
one goes through the stages once more, for the nodes that are left.
-/

namespace ActiveObjects

/-- What remains of a runtime at a time after a shutdown: it was announced as stopped once, and the
nodes that were left are there unless they have been killed since. -/
structure Runtime.Remains (left runtime : Runtime) : Prop where
  state : runtime.state = .stopped
  stops : runtime.stops = [.runtimeStopped left.url]
  since : ∃ since, runtime.events.published = left.events.published ++ since ∧
    ∀ (url : Url) (node : Node), runtime.nodes[url]? = some node ↔
      left.nodes[url]? = some node ∧ .nodeKilled left.url url ∉ since

namespace Fleet

variable {fleet : Fleet} {place : RuntimeId} {runtime : Runtime}

/-- There is a runtime at a place, and it is stopped. -/
def Stopped (fleet : Fleet) (place : RuntimeId) : Prop :=
  (fleet.world.runtime? place).map (·.state) = some .stopped

theorem stopped_iff (hr : fleet.world.runtime? place = some runtime) :
    fleet.Stopped place ↔ runtime.state = .stopped := by
  rw [Stopped, hr, Option.map_some, Option.some.injEq]

/-- A shutdown at a place where there is a runtime comes to its end. -/
theorem outcome_kill (hr : fleet.world.runtime? place = some runtime) :
    (fleet.outcome (.call place .kill)).1 = .ok () := by
  rw [outcome_call hr rfl]
  rfl

/-- Other steps leave it at that whether a runtime is stopped. -/
theorem stopped_next_of_ne (hs : fleet.Sound) {step : Step} (hn : step ≠ .call place .kill) :
    (fleet.next step).Stopped place ↔ fleet.Stopped place := by
  have changed := fleet.change_next step
  unfold Stopped
  generalize (fleet.next step).world = world at changed ⊢
  have kept {α : Type} {action : Action α} {parts : List Part} (actor : RuntimeId)
      (ha : Moves (Touches parts) (attempt action)) (hp : .identity ∉ parts ∧ .state ∉ parts) :
      ((((World.act actor action).run fleet.world).2).runtime? place).map (·.state) =
        (fleet.world.runtime? place).map (·.state) :=
    World.map_act hs.world actor ha hp.1 (fun _ _ h => h .state hp.2) place
  cases changed with
  | idle step => exact .rfl
  | @started request hr =>
    by_cases hp : request.id = place
    · -- The new runtime is running.
      subst hp
      refine iff_of_false (fun h => ?_) (by rw [hr]; simp)
      obtain ⟨runtime, hf, stopped⟩ := Option.map_eq_some_iff.1 h
      rcases World.runtime?_start hf with hf | ⟨-, started, ho, -, rfl⟩
      · cases hr.symm.trans hf
      · obtain ⟨-, -, -, -, running, -⟩ := Runtime.ofRequest_fresh ho
        have kept := Runtime.boot_touches request.config (fleet.world.site started) .state
          (by decide)
        cases stopped.symm.trans (Eq.trans kept running)
    · rw [World.runtime?_start_of_ne hp]
  | naming naming => exact .rfl
  | registries registries => exact .rfl
  | called actor call =>
    cases call with
    | kill =>
      have hp : actor ≠ place := fun h => hn (h ▸ rfl)
      rw [World.runtime?_act_of_ne hs.world (Call.action_touches _ _)
        (Call.identity_notMem_footprint _) hp]
    | _ =>
      rw [kept actor (Call.action_touches _ _) ⟨Call.identity_notMem_footprint _, ?_⟩]
      simp [Call.footprint]
  | shipped source target id node =>
    rw [kept source (Runtime.beginMigration_touches id) (by decide)]
  | delivered i target node body =>
    rw [kept target (Runtime.receiveBody_touches node body) (by decide)]
  | settled i source id left target answer =>
    rw [kept source (Runtime.endMigration_touches id left target answer) (by decide)]

/-- Only shutting down makes a runtime stopped, and nothing undoes it. -/
theorem stopped_next_iff (hs : fleet.Sound) (step : Step) :
    (fleet.next step).Stopped place ↔
      fleet.Stopped place ∨ (.call place .kill, .ok ()) = (step, (fleet.outcome step).1) := by
  by_cases hk : step = .call place .kill
  · subst hk
    cases hr : fleet.world.runtime? place with
    | none =>
      have same : fleet.outcome (.call place .kill) =
          (.error World.unreachable, fleet.world, fleet.shipments) := by
        rw [outcome, World.act_none hr]
      have world : (fleet.next (.call place .kill)).world = fleet.world := by
        rw [next, same]
      rw [Stopped, Stopped, world, same, hr]
      simp
    | some runtime =>
      refine iff_of_true ?_ (.inr (by rw [outcome_kill hr]))
      obtain ⟨-, world⟩ := perform_call Runtime.kill .kill (fun _ => rfl) hr
      have hid : (Runtime.kill.run (fleet.world.site runtime)).2.runtime.id = place :=
        (Runtime.kill_touches _ .identity (by decide)).1.trans (hs.world place runtime hr)
      rw [Stopped, world, World.runtime?_absorb, if_pos hid]
      exact congrArg some (Runtime.kill_stops _).1
  · rw [stopped_next_of_ne hs hk]
    refine (or_iff_left fun h => hk ?_).symm
    exact (Prod.mk.inj h).1.symm

theorem stopped_iff_killed (steps : List Step) (place : RuntimeId) :
    (({} : Fleet).after steps).Stopped place ↔
      (.call place .kill, .ok ()) ∈ (({} : Fleet).after steps).history := by
  refine invariant_after (P := fun fleet => fleet.Stopped place ↔
    (.call place .kill, .ok ()) ∈ fleet.history) sound_empty
    (by simp [Stopped, World.runtime?]) ?_ steps
  intro fleet step result hs _ ih
  rw [stopped_next_iff hs, ih, show (fleet.next step).history =
    fleet.history ++ [(step, (fleet.outcome step).1)] from rfl, List.mem_append,
    List.mem_singleton]

theorem remains_after {steps : List Step} {left : Runtime}
    (hr : (({} : Fleet).after steps).world.runtime? place = some left) (hs : left.state = .stopped)
    (more : List Step) :
    ∃ runtime, ((({} : Fleet).after steps).after more).world.runtime? place = some runtime ∧
      left.Remains runtime := by
  obtain ⟨runtime, hl, hn, retires⟩ :=
    retires_after (sound_after steps).world hr (by simp [hs]) more
  refine ⟨runtime, hl, ?_⟩
  have url : runtime.url = left.url := congrArg RuntimeHandle.url retires.handle
  rw [← after_append] at hl
  rcases each_after lasting_stopsOnce (steps ++ more) place runtime hl with
    ⟨running, -⟩ | ⟨stopped, once⟩
  · exact absurd running hn
  · obtain ⟨since, hp, -, hnodes⟩ := retires.later
    exact ⟨stopped, url ▸ once, since, hp, hnodes⟩

/-- After every run, a shutdown comes to its end, whichever calls to unbind fail, as long as none
fails because there is no binding. A runtime is announced as stopped once, by its first shutdown.
Whatever comes later, another shutdown goes for exactly the nodes that were left and have not been
killed since. -/
theorem cascade_completes {steps : List Step}
    (hr : (({} : Fleet).after steps).world.runtime? place = some runtime)
    (hf : (({} : Fleet).after steps).world.naming.Frank) :
    ∃ report site,
      (({} : Fleet).after steps).world.perform place Runtime.kill =
        some (report, (({} : Fleet).after steps).world.absorb site) ∧
      ((({} : Fleet).after steps).next (.call place .kill)).world =
        (({} : Fleet).after steps).world.absorb site ∧
      site.runtime.id = place ∧
      runtime.Cascades (({} : Fleet).after steps).world.naming report site.runtime site.naming ∧
      (runtime.state = .stopped ↔
        (.call place .kill, .ok ()) ∈ (({} : Fleet).after steps).history) ∧
      runtime.stops =
        (if runtime.state = .stopped then [.runtimeStopped runtime.url] else []) ∧
      ∀ more, ∃ later runtime' again world,
        later = ((({} : Fleet).after steps).next (.call place .kill)).after more ∧
        later.world.runtime? place = some runtime' ∧ site.runtime.Remains runtime' ∧
        later.world.perform place Runtime.kill = some (again, world) ∧
        again.nodes = Node.sweepReport later.world.naming runtime'.nodes.keys := by
  have sound := sound_after steps
  have housed := each_after lasting_housed steps place runtime hr
  have once := each_after lasting_stopsOnce steps place runtime hr
  obtain ⟨performed, stepped⟩ := perform_call Runtime.kill .kill (fun _ => rfl) hr
  have cascades := Runtime.kill_cascades ((({} : Fleet).after steps).world.site runtime) hf
    housed
  generalize hk : Runtime.kill.run ((({} : Fleet).after steps).world.site runtime) = killed
    at performed stepped cascades
  obtain ⟨report, site⟩ := killed
  have hid : site.runtime.id = place :=
    (congrArg RuntimeHandle.id cascades.kept.1).trans (sound.world place runtime hr)
  refine ⟨report, site, performed, stepped, hid, cascades, ?_, ?_, fun more => ?_⟩
  · exact (stopped_iff hr).symm.trans (stopped_iff_killed steps place)
  · rcases once with ⟨running, none⟩ | ⟨stopped, one⟩
    · simp [running, none]
    · simp [stopped, one]
  · have left : (({} : Fleet).after (steps ++ [.call place .kill])).world.runtime? place =
        some site.runtime := by
      rw [after_append]
      show ((({} : Fleet).after steps).next (.call place .kill)).world.runtime? place = _
      rw [stepped, World.runtime?_absorb, if_pos hid]
    obtain ⟨runtime', hl, remains⟩ := remains_after left cascades.state more
    rw [after_append] at hl
    exact ⟨_, runtime', _, _, rfl, hl, remains,
      (perform_call Runtime.kill .kill (fun _ => rfl) hl).1, Runtime.kill_swept _⟩

/-- A runtime with three nodes, one of which has the URL of the runtime and a body. The next call to
unbind that URL fails, and so does the next one to unbind another node. -/
def faltering : List Step :=
  let steps : List Step :=
    [.registries (.ofList [(0, constructors)]),
      .start
        { id := 1
          config :=
            { runtime := { name := "r", port := 1099 }
              nodes := [{ name := "a" }, { name := "b" }, { name := "r" }] }
          resolver := .literals },
      .call 1 (.createBody ⟨7⟩ "r" { className := "Empty" } true)]
  steps ++ [.naming
    { (({} : Fleet).after steps).world.naming with
      ahead := fun call url =>
        if call = .unbind ∧ url.name ≠ "a" then [some (.config "down")] else []
      fault := fun _ _ => none }]

theorem frank_faltering : (({} : Fleet).after faltering).world.naming.Frank := by
  intro earlier url
  rw [faltering, after_append]
  simp only [after, List.foldl_cons, List.foldl_nil, next, outcome, Naming.failure?]
  by_cases ha : url.name = "a" <;> cases earlier <;> simp [ha, RuntimeError.isNotBound]

/-- The first shutdown leaves the two nodes, with the body, although its last stage unbinds the URL
that one of them has. The second one finds that URL unbound, and unbinds the other. -/
theorem cascade_completes_faltering :
    ∃ runtime report, ∃ site : Site, ∃ again world,
      (({} : Fleet).after faltering).world.runtime? 1 = some runtime ∧
      runtime.Cascades (({} : Fleet).after faltering).world.naming report site.runtime
        site.naming ∧
      site.runtime.nodes.names = ["b", "r"] ∧ site.runtime.bodies.status? ⟨7⟩ = some .active ∧
      report.runtime.toOption = some .unbound ∧ ¬ site.naming.contains runtime.url ∧
      ((({} : Fleet).after faltering).next (.call 1 .kill)).world.perform 1 Runtime.kill =
        some (again, world) ∧
      again.nodes.attempted = 2 ∧ again.nodes.succeeded.length = 1 ∧
      again.runtime.toOption = some .wasAbsent := by
  have h : (({} : Fleet).after faltering).world.runtime? 1 |>.any fun runtime =>
      ((({} : Fleet).after faltering).world.perform 1 Runtime.kill).any fun (report, world) =>
        (world.runtime? 1).any fun runtime' =>
          (((({} : Fleet).after faltering).next (.call 1 .kill)).world.perform 1
            Runtime.kill).any fun (again, _) =>
              runtime'.nodes.names = ["b", "r"] ∧ runtime'.bodies.status? ⟨7⟩ = some .active ∧
              report.runtime.toOption = some .unbound ∧ ¬ world.naming.contains runtime.url ∧
              again.nodes.attempted = 2 ∧ again.nodes.succeeded.length = 1 ∧
              again.runtime.toOption = some .wasAbsent := by decide +kernel
  obtain ⟨runtime, hr, h⟩ := (Option.any_eq_true _ _).1 h
  obtain ⟨⟨report, world⟩, hk, h⟩ := (Option.any_eq_true _ _).1 h
  obtain ⟨runtime', hr', h⟩ := (Option.any_eq_true _ _).1 h
  obtain ⟨⟨again, last⟩, ha, h⟩ := (Option.any_eq_true _ _).1 h
  obtain ⟨nodes, bodies, own, unbound, retried⟩ := of_decide_eq_true h
  obtain ⟨report', site, hk', -, hid, cascades, -⟩ := cascade_completes hr frank_faltering
  cases Option.some.inj (hk.symm.trans hk')
  rw [World.runtime?_absorb, if_pos hid] at hr'
  cases hr'
  exact ⟨runtime, report, site, again, last, hr, cascades, nodes, bodies, own, unbound, ha, retried⟩

end Fleet

end ActiveObjects

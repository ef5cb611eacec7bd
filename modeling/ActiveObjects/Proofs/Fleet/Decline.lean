import ActiveObjects.Proofs.Fleet.Refusal
import ActiveObjects.Proofs.Runtime.Decline

/-!
# What is left after shutdown

Over any run, a runtime that is not running keeps losing what it has and gains nothing, whichever
steps are taken at it or elsewhere: also not from bodies that others send to it, nor from migrations
of its own that were under way.
-/

namespace ActiveObjects

namespace Runtime

/-- Nothing is gained, and nothing new is announced. Nodes go only if they are announced as
killed. -/
structure Retires (runtime runtime' : Runtime) : Prop extends runtime.Dwindles runtime' where
  later : ∃ later, runtime'.events.published = runtime.events.published ++ later ∧
    (∀ event ∈ later, event.topic.opens = false) ∧
    ∀ (url : Url) (node : Node), runtime'.nodes[url]? = some node ↔
      runtime.nodes[url]? = some node ∧ .nodeKilled runtime.url url ∉ later

theorem Retires.refl (runtime : Runtime) : runtime.Retires runtime where
  toDwindles := .refl runtime
  later := ⟨[], (List.append_nil _).symm, by simp, by simp⟩

theorem Retires.trans {runtime runtime' runtime'' : Runtime} (h : runtime.Retires runtime')
    (h' : runtime'.Retires runtime'') : runtime.Retires runtime'' where
  toDwindles := h.toDwindles.trans h'.toDwindles
  later := by
    obtain ⟨later, hl, hk, hn⟩ := h.later
    obtain ⟨later', hl', hk', hn'⟩ := h'.later
    have url : runtime'.url = runtime.url := congrArg RuntimeHandle.url h.handle
    refine ⟨later ++ later', by rw [hl', hl, List.append_assoc], fun event he => ?_, ?_⟩
    · rcases List.mem_append.1 he with he | he
      · exact hk event he
      · exact hk' event he
    · intro other node
      rw [hn', hn, url, List.mem_append, not_or, and_assoc]

end Runtime

theorem Fades.retires {s s' : Site} (h : Fades s s') (hs : s.runtime.state ≠ .running) :
    s.runtime.Retires s'.runtime where
  toDwindles := h.dwindles hs
  later := by
    obtain ⟨later, hl, hk, hn⟩ := (h.tells hs).later
    exact ⟨later, hl, fun event he => EventTopic.opens_of_mem_closing (hk event he), hn⟩

namespace World

variable {world world' world'' : World} {place : RuntimeId} {runtime : Runtime}

/-- No binding to a runtime is new. -/
def Shuns (place : RuntimeId) (world world' : World) : Prop :=
  ∀ (url : Url) (handle : RuntimeHandle), handle.id = place →
    world'.naming.resolve url = .ok handle → world.naming.resolve url = .ok handle

theorem Shuns.trans (h : Shuns place world world') (h' : Shuns place world' world'') :
    Shuns place world world'' :=
  fun url handle hp hb => h url handle hp (h' url handle hp hb)

/-- What an operation at any place does to a runtime that is not running. -/
theorem act_retires {α : Type} {action : Action α} (hk : world.Keyed)
    (ha : Moves Fades (attempt action)) (actor : RuntimeId)
    (hr : world.runtime? place = some runtime) (hs : runtime.state ≠ .running) :
    (∃ runtime', ((act actor action).run world).2.runtime? place = some runtime' ∧
      runtime.Retires runtime') ∧ Shuns place world ((act actor action).run world).2 := by
  cases ho : world.runtime? actor with
  | none =>
    rw [act_none ho]
    exact ⟨⟨runtime, hr, .refl runtime⟩, fun _ _ _ hb => hb⟩
  | some other =>
    rcases hsite : (attempt action).run (world.site other) with ⟨result, site⟩
    have fades := ha (world.site other)
    rw [hsite] at fades
    rw [act_some ho hsite]
    have hid : site.runtime.id = actor := fades.id.trans (hk actor other ho)
    have own : other.id = actor := hk actor other ho
    constructor
    · rw [runtime?_absorb, hid]
      by_cases hp : actor = place
      · subst hp
        cases ho.symm.trans hr
        exact ⟨site.runtime, if_pos rfl, fades.retires hs⟩
      · exact ⟨runtime, (if_neg hp).trans hr, .refl runtime⟩
    · intro url handle hp hb
      rw [Naming.resolve_eq_ok_iff] at hb ⊢
      rcases fades.names url handle hb with hb | ⟨hrun, rfl⟩
      · exact hb
      · -- The binding is to the runtime at which the operation took place.
        have hpl : actor = place := own.symm.trans hp
        subst hpl
        cases ho.symm.trans hr
        exact absurd hrun hs

/-- What a runtime binds when it starts, it binds to itself. -/
theorem start_shuns {request : StartRequest} (hp : request.id ≠ place) :
    Shuns place world (world.start request).2 := by
  unfold start
  cases ho : Runtime.ofRequest request with
  | error e => exact fun _ _ _ hb => hb
  | ok started =>
    have published : Publishes (fun _ => True) (world.site started)
        ((attempt (Runtime.boot request.config)).run (world.site started)).2 :=
      Runtime.boot_publishes request.config fun _ _ _ _ _ => trivial
    intro url handle hpl hb
    rw [Naming.resolve_eq_ok_iff] at hb ⊢
    rcases published.toGains.bound url with hk | hk
    · exact hk.symm.trans hb
    · cases hk.symm.trans hb
      exact absurd ((Runtime.ofRequest_fresh ho).1.symm.trans hpl) hp

end World

namespace Fleet

variable {fleet : Fleet} {place : RuntimeId} {runtime : Runtime}

/-- Nobody else binds names to a runtime. -/
def LeavesAlone (place : RuntimeId) (fleet : Fleet) : Step → Prop
  | .naming naming => World.Shuns place fleet.world { fleet.world with naming }
  | _ => True

theorem retires_next (hk : fleet.world.Keyed) (hr : fleet.world.runtime? place = some runtime)
    (hs : runtime.state ≠ .running) (step : Step) :
    (∃ runtime', (fleet.next step).world.runtime? place = some runtime' ∧
      runtime.Retires runtime') ∧
    (LeavesAlone place fleet step → World.Shuns place fleet.world (fleet.next step).world) := by
  have changed := fleet.change_next step
  generalize (fleet.next step).world = world at changed ⊢
  have acted {α : Type} {action : Action α} (ha : Moves Fades (attempt action))
      (actor : RuntimeId) := World.act_retires hk ha actor hr hs
  cases changed with
  | idle step => exact ⟨⟨runtime, hr, .refl runtime⟩, fun _ _ _ _ hb => hb⟩
  | @started request hn =>
    have hp : request.id ≠ place := by
      rintro rfl
      cases hr.symm.trans hn
    exact ⟨⟨runtime, (World.runtime?_start_of_ne hp).trans hr, .refl runtime⟩,
      fun _ => World.start_shuns hp⟩
  | naming naming => exact ⟨⟨runtime, hr, .refl runtime⟩, fun h => h⟩
  | registries registries => exact ⟨⟨runtime, hr, .refl runtime⟩, fun _ _ _ _ hb => hb⟩
  | called actor call =>
    exact (acted (call.action_fades _) actor).imp_right fun h _ => h
  | shipped source target id node =>
    exact (acted (Runtime.beginMigration_fades id) source).imp_right fun h _ => h
  | delivered i target node body =>
    exact (acted (Runtime.receiveBody_fades node body) target).imp_right fun h _ => h
  | settled i source id left target answer =>
    exact (acted (Runtime.endMigration_fades id left target answer) source).imp_right fun h _ => h

/-- A runtime that is not running is never more than it was. -/
theorem retires_after (hk : fleet.world.Keyed) (hr : fleet.world.runtime? place = some runtime)
    (hs : runtime.state ≠ .running) (steps : List Step) :
    ∃ runtime', (fleet.after steps).world.runtime? place = some runtime' ∧
      runtime'.state ≠ .running ∧ runtime.Retires runtime' := by
  induction steps generalizing fleet runtime with
  | nil => exact ⟨runtime, hr, hs, .refl runtime⟩
  | cons step steps ih =>
    obtain ⟨result, advance⟩ := next_advance hk step
    obtain ⟨⟨middle, hm, first⟩, -⟩ := retires_next hk hr hs step
    obtain ⟨last, hl, hls, later⟩ := ih advance.keyed hm fun h => hs (first.state h)
    exact ⟨last, hl, hls, first.trans later⟩

/-- Whatever comes after a runtime is not running any more, it gains nothing, announces nothing new,
and never runs again. Unless others bind names to it, there are no new bindings to it either. -/
theorem retires_after_shutdown (hk : fleet.world.Keyed)
    (hr : fleet.world.runtime? place = some runtime) (hs : runtime.state ≠ .running)
    (steps : List Step) :
    (∃ runtime', (fleet.after steps).world.runtime? place = some runtime' ∧
      runtime'.state ≠ .running ∧ runtime.Retires runtime') ∧
    (Obeys (LeavesAlone place) fleet steps →
      World.Shuns place fleet.world (fleet.after steps).world) := by
  refine ⟨retires_after hk hr hs steps, ?_⟩
  induction steps generalizing fleet runtime with
  | nil => exact fun _ _ _ _ hb => hb
  | cons step steps ih =>
    obtain ⟨result, advance⟩ := next_advance hk step
    obtain ⟨⟨middle, hm, first⟩, names⟩ := retires_next hk hr hs step
    exact fun h => (names h.1).trans (ih advance.keyed hm (fun h => hs (first.state h)) h.2)

/-- A body is on its way out, and neither its node nor the runtime can be unbound, when the runtime
is killed. -/
def orphaning (id : BodyId) : List Step := sticky id ++ [.ship 1 2 id "n", .call 1 .kill]

/-- The migration is refused and puts the body back to service; creating is refused. -/
theorem retires_after_orphaning :
    ∃ runtime runtime',
      (({} : Fleet).after (orphaning ⟨7⟩)).world.runtime? 1 = some runtime ∧
      ((({} : Fleet).after (orphaning ⟨7⟩)).after
        [.lose 0 World.unreachable, .settle 0, .call 2 (.killNode "n"),
          .call 1 (.createLocalNode { name := "m" })]).world.runtime? 1 = some runtime' ∧
      runtime.bodies.status? ⟨7⟩ = some .migratingOut ∧
      runtime'.bodies.status? ⟨7⟩ = some .active ∧
      runtime'.state ≠ .running ∧ runtime.Retires runtime' := by
  have h : ((({} : Fleet).after (orphaning ⟨7⟩)).world.runtime? 1).any fun runtime =>
      (((({} : Fleet).after (orphaning ⟨7⟩)).after
        [.lose 0 World.unreachable, .settle 0, .call 2 (.killNode "n"),
          .call 1 (.createLocalNode { name := "m" })]).world.runtime? 1).any fun runtime' =>
        runtime.state ≠ .running ∧ runtime.bodies.status? ⟨7⟩ = some .migratingOut ∧
        runtime'.bodies.status? ⟨7⟩ = some .active := by decide +kernel
  obtain ⟨runtime, hr, h⟩ := (Option.any_eq_true _ _).1 h
  obtain ⟨runtime', hr', h⟩ := (Option.any_eq_true _ _).1 h
  obtain ⟨hs, before, after⟩ := of_decide_eq_true h
  obtain ⟨⟨last, hl, hls, retires⟩, -⟩ :=
    retires_after_shutdown (sound_after (orphaning ⟨7⟩)).world hr hs
      [.lose 0 World.unreachable, .settle 0, .call 2 (.killNode "n"),
        .call 1 (.createLocalNode { name := "m" })]
  cases hr'.symm.trans hl
  exact ⟨runtime, runtime', hr, hr', before, after, hls, retires⟩

end Fleet

end ActiveObjects

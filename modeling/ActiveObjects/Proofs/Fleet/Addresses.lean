import ActiveObjects.Proofs.Fleet.Progress

/-!
# URLs of runtimes

A runtime that is there stays, under the URL that it was started with. So the handle that a
migration has of its target tells the URL of the target at any time.
-/

namespace ActiveObjects

namespace World

variable {world : World} {id : RuntimeId} {α : Type}

/-- An action leaves the runtime at a place as it is, or it is the runtime that the action is done
at. -/
theorem runtime?_act {r : Site → Site → Prop} (hk : world.Keyed) {action : Action α}
    (ha : Moves r (attempt action))
    (hi : ∀ {runtime site}, world.runtime? id = some runtime → r (world.site runtime) site →
      site.runtime.id = runtime.id) (place : RuntimeId) :
    ((act id action).run world).2.runtime? place = world.runtime? place ∨
      ∃ runtime site, world.runtime? place = some runtime ∧ r (world.site runtime) site ∧
        ((act id action).run world).2.runtime? place = some site.runtime := by
  cases hr : world.runtime? id with
  | none =>
    rw [act_none hr]
    exact .inl rfl
  | some runtime =>
    rcases hs : (attempt action).run (world.site runtime) with ⟨result, site⟩
    have related := ha (world.site runtime)
    rw [hs] at related
    rw [act_some hr hs, runtime?_absorb, (hi hr related).trans (hk id runtime hr)]
    by_cases hp : id = place
    · subst hp
      exact .inr ⟨runtime, site, hr, related, if_pos rfl⟩
    · exact .inl (if_neg hp)

/-- What an action keeps of its runtime, it keeps of all runtimes. -/
theorem map_act {β : Type} {f : Runtime → β} (hk : world.Keyed) (id : RuntimeId)
    {parts : List Part} {action : Action α} (ha : Moves (Touches parts) (attempt action))
    (hi : .identity ∉ parts) (hf : ∀ s s', Touches parts s s' → f s'.runtime = f s.runtime)
    (place : RuntimeId) :
    ((((act id action).run world).2).runtime? place).map f = (world.runtime? place).map f := by
  have kept {runtime : Runtime} {site : Site} (ht : Touches parts (world.site runtime) site) :
      site.runtime.id = runtime.id := (ht .identity hi).1
  rcases runtime?_act hk ha (fun _ => kept) place with same | ⟨runtime, site, hr, touched, hr'⟩
  · rw [same]
  · rw [hr, hr']
    exact congrArg some (hf _ _ touched)

/-- The runtimes at other places do not notice an action. -/
theorem runtime?_act_of_ne (hk : world.Keyed) {parts : List Part} {action : Action α}
    (ha : Moves (Touches parts) (attempt action)) (hi : .identity ∉ parts) {place : RuntimeId}
    (hp : id ≠ place) :
    ((act id action).run world).2.runtime? place = world.runtime? place := by
  rcases hr : (act id action).run world with ⟨result, world'⟩
  rcases act_cases hk ha hi hr with ⟨-, -, rfl⟩ | ⟨runtime, site, -, -, rfl, hid⟩
  · rfl
  · exact (runtime?_absorb ..).trans (if_neg fun h => hp (hid.symm.trans h))

theorem url?_act (hk : world.Keyed) (id : RuntimeId) {parts : List Part} {action : Action α}
    (ha : Moves (Touches parts) (attempt action)) (hi : .identity ∉ parts) (place : RuntimeId) :
    ((((act id action).run world).2).runtime? place).map (·.url) =
      (world.runtime? place).map (·.url) :=
  map_act hk id ha hi (fun _ _ h => (h .identity hi).2.2.1) place

/-- A runtime that starts leaves the others alone. -/
theorem runtime?_start_of_ne {request : StartRequest} {place : RuntimeId}
    (hp : request.id ≠ place) :
    (world.start request).2.runtime? place = world.runtime? place := by
  unfold start
  cases ho : Runtime.ofRequest request with
  | error e => rfl
  | ok started =>
    rcases hr : (attempt (Runtime.boot request.config)).run (world.site started) with
      ⟨result, site⟩
    have ht := Runtime.boot_touches request.config (world.site started) .identity (by decide)
    rw [hr] at ht
    have hid : site.runtime.id = request.id := ht.1.trans (Runtime.ofRequest_fresh ho).1
    simp only [hr]
    rw [runtime?_absorb, hid, if_neg hp]

end World

namespace Fleet

variable {fleet : Fleet} {runtime : RuntimeId}

/-- A runtime keeps its URL. -/
theorem url?_next (hk : fleet.world.Keyed) {url : Url} (h : fleet.url? runtime = some url)
    (step : Step) : (fleet.next step).url? runtime = some url := by
  have changed := fleet.change_next step
  show ((fleet.next step).world.runtime? runtime).map (·.url) = some url
  generalize (fleet.next step).world = world at changed ⊢
  have kept {α : Type} {action : Action α} {parts : List Part} (place : RuntimeId)
      (ha : Moves (Touches parts) (attempt action)) (hi : .identity ∉ parts) :
      ((((World.act place action).run fleet.world).2).runtime? runtime).map (·.url) = some url :=
    (World.url?_act hk place ha hi runtime).trans h
  cases changed with
  | idle step => exact h
  | @started request hn =>
    have hp : request.id ≠ runtime := by
      rintro rfl
      rw [url?, hn] at h
      cases h
    rw [World.runtime?_start_of_ne hp]
    exact h
  | naming naming => exact h
  | registries registries => exact h
  | called place call => exact kept place (call.action_touches _) call.identity_notMem_footprint
  | shipped source target id node =>
    exact kept source (Runtime.beginMigration_touches id) (by decide)
  | delivered i target node body =>
    exact kept target (Runtime.receiveBody_touches node body) (by decide)
  | settled i source id left target answer =>
    exact kept source (Runtime.endMigration_touches id left target answer) (by decide)

/-- The targets of migrations are there, under the URLs that the migrations know. -/
def Directed (fleet : Fleet) : Prop :=
  ∀ shipment ∈ fleet.shipments, fleet.url? shipment.target.id = some shipment.target.url

theorem Directed.next (h : fleet.Directed) (hs : fleet.Sound) (step : Step) :
    (fleet.next step).Directed := by
  intro shipment hm
  obtain ⟨place, hplace⟩ := List.getElem?_of_mem hm
  cases origin hs hplace with
  | before hi hp => exact url?_next hs.world (h _ (List.mem_of_getElem? hi)) step
  | begins hok hpeer =>
    refine url?_next hs.world ?_ _
    rw [Runtime.handle, hs.world _ _ hpeer, url?, hpeer]
    rfl

theorem Directed.after (h : fleet.Directed) (hs : fleet.Sound) (steps : List Step) :
    (fleet.after steps).Directed :=
  invariant_after (P := Directed) hs h (fun {_ step _} hs _ h => h.next hs step) steps

theorem directed_empty : ({} : Fleet).Directed := fun _ h => nomatch h

/-- No two runtimes share a URL. -/
def Distinct (fleet : Fleet) : Prop :=
  ∀ ⦃place place' : RuntimeId⦄ ⦃url : Url⦄, fleet.url? place = some url →
    fleet.url? place' = some url → place = place'

/-- URLs that do not clash after a step did not clash before, as each runtime keeps its own. -/
theorem Distinct.of_next (hs : fleet.Sound) {step : Step} (h : (fleet.next step).Distinct) :
    fleet.Distinct :=
  fun _ _ _ hu hu' => h (url?_next hs.world hu step) (url?_next hs.world hu' step)

theorem Distinct.of_after (hs : fleet.Sound) {steps : List Step}
    (h : (fleet.after steps).Distinct) : fleet.Distinct := by
  induction steps generalizing fleet with
  | nil => exact h
  | cons step steps ih => exact (ih (hs.next step) h).of_next hs

end Fleet

end ActiveObjects

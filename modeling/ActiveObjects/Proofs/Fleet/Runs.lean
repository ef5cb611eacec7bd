import ActiveObjects.Body.Constructor
import ActiveObjects.Proofs.Fleet.Transition

/-!
# Runs of a fleet

What every step keeps, every run keeps. Of all runs from nothing it holds that runtimes and bodies
are found under their own identifiers, and that each shipment carries the body that it names.
-/

namespace ActiveObjects.Fleet

open Function (update)

variable {fleet fleet' : Fleet} {step : Step} {result : Except RuntimeError Unit}

/-! ## Worlds -/

/-- How a step changes the world: it does nothing, or acts at one place. -/
inductive Change (fleet : Fleet) : Step → World → Prop where
  | idle (step : Step) : Change fleet step fleet.world
  | started {request : StartRequest} (hn : fleet.world.runtime? request.id = none) :
    Change fleet (.start request) (fleet.world.start request).2
  | naming (naming : Naming) : Change fleet (.naming naming) { fleet.world with naming }
  | registries (registries : Std.ExtTreeMap RegistryId ConstructorRegistry) :
    Change fleet (.registries registries) { fleet.world with registries }
  | called (place : RuntimeId) (call : Call) :
    Change fleet (.call place call)
      ((World.act place (call.action (fleet.world.constructors place))).run fleet.world).2
  | shipped (source target : RuntimeId) (id : BodyId) (node : String) :
    Change fleet (.ship source target id node)
      ((World.act source (Runtime.beginMigration id)).run fleet.world).2
  | delivered (i : Nat) (target : RuntimeId) (node : String) (body : Body) :
    Change fleet (.deliver i)
      ((World.act target (Runtime.receiveBody node body)).run fleet.world).2
  | settled (i : Nat) (source : RuntimeId) (id : BodyId) (left target : Url)
    (answer : Except RuntimeError BodyHandle) :
    Change fleet (.settle i)
      ((World.act source (Runtime.endMigration id left target answer)).run fleet.world).2

theorem change_next (fleet : Fleet) (step : Step) : fleet.Change step (fleet.next step).world := by
  show fleet.Change step (fleet.outcome step).2.1
  cases step with
  | start request =>
    unfold outcome
    dsimp only
    split
    · exact .idle _
    · exact .started (by assumption)
  | naming naming => exact .naming naming
  | registries registries => exact .registries registries
  | call place call => exact .called place call
  | ship source target id node =>
    unfold outcome
    dsimp only
    split
    · exact .idle _
    · have changed : fleet.Change (.ship source target id node) _ := .shipped source target id node
      rcases hr : (World.act source (Runtime.beginMigration id)).run fleet.world with
        ⟨_ | _, world⟩
      all_goals
        rw [hr] at changed
        exact changed
  | deliver i =>
    unfold outcome
    dsimp only
    split
    · exact .delivered i _ _ _
    · exact .idle _
  | lose i e =>
    unfold outcome
    dsimp only
    split <;> exact .idle _
  | settle i =>
    unfold outcome
    dsimp only
    split
    · exact .settled i _ _ _ _ _
    · exact .idle _

/-- A call at a runtime that is there does what the operation does at its site. -/
theorem outcome_call {place : RuntimeId} {runtime : Runtime}
    (hr : fleet.world.runtime? place = some runtime) {call : Call} {site : Site}
    (hs : (attempt (call.action (fleet.world.constructors place))).run (fleet.world.site runtime) =
      (result, site)) :
    fleet.outcome (.call place call) = (result, fleet.world.absorb site, fleet.shipments) := by
  unfold outcome
  dsimp only
  rw [World.act_some hr hs]

theorem world_call {place : RuntimeId} {runtime : Runtime}
    (hr : fleet.world.runtime? place = some runtime) {call : Call} {site : Site}
    (hs : (attempt (call.action (fleet.world.constructors place))).run (fleet.world.site runtime) =
      (result, site)) :
    (fleet.next (.call place call)).world = fleet.world.absorb site := by
  show (fleet.outcome (.call place call)).2.1 = _
  rw [outcome_call hr hs]

/-! ## Induction on runs -/

theorem after_of_next {P : Fleet → Prop} (hs : ∀ fleet step, P fleet → P (fleet.next step))
    (steps : List Step) (hp : P fleet) : P (fleet.after steps) := by
  induction steps generalizing fleet with
  | nil => exact hp
  | cons step steps ih => exact ih (hs fleet step hp)

theorem Obeys.and {rule rule' : Fleet → Step → Prop} {steps : List Step}
    (h : Obeys rule fleet steps) (h' : Obeys rule' fleet steps) :
    Obeys (fun fleet step => rule fleet step ∧ rule' fleet step) fleet steps := by
  induction steps generalizing fleet with
  | nil => trivial
  | cons step steps ih => exact ⟨⟨h.1, h'.1⟩, ih h.2 h'.2⟩

theorem obeys_append {rule : Fleet → Step → Prop} {steps steps' : List Step} :
    Obeys rule fleet (steps ++ steps') ↔
      Obeys rule fleet steps ∧ Obeys rule (fleet.after steps) steps' := by
  induction steps generalizing fleet with
  | nil => exact ⟨fun h => ⟨trivial, h⟩, And.right⟩
  | cons step steps ih => exact (and_congr_right fun _ => ih).trans and_assoc.symm

theorem Obeys.of_forall {rule : Fleet → Step → Prop} {steps : List Step}
    (h : ∀ step ∈ steps, ∀ fleet, rule fleet step) : Obeys rule fleet steps := by
  induction steps generalizing fleet with
  | nil => trivial
  | cons step steps ih =>
    exact ⟨h step (by simp) fleet, ih fun other ho => h other (List.mem_cons_of_mem _ ho)⟩

theorem after_append (fleet : Fleet) (steps steps' : List Step) :
    fleet.after (steps ++ steps') = (fleet.after steps).after steps' := List.foldl_append

/-! ## Identifiers -/

/-- Runtimes and bodies are found under their own identifiers, also on the way. -/
structure Sound (fleet : Fleet) : Prop where
  world : fleet.world.Keyed
  bodies (runtime : RuntimeId) : (fleet.bodies runtime).Keyed
  shipments : ∀ shipment ∈ fleet.shipments, shipment.body.id = shipment.id

theorem sound_empty : Sound {} where
  world id runtime h := by simp [World.runtime?] at h
  bodies runtime := by
    have h : ({} : Fleet).bodies runtime = {} := World.bodies_eq_empty (by simp [World.runtime?])
    rw [h]
    exact BodyTable.keyed_empty
  shipments _ h := nomatch h

/-- All tables are as they were, but for one. -/
theorem keyed_update {tables : RuntimeId → BodyTable} (h : ∀ id, (tables id).Keyed)
    (id : RuntimeId) {table : BodyTable} (hk : table.Keyed) :
    ∀ other, (update tables id table other).Keyed := by
  intro other
  rw [Function.update_apply]
  split
  · exact hk
  · exact h other

theorem Transition.bodies_keyed {tables : RuntimeId → BodyTable} {shipments : List Shipment}
    (h : fleet.Transition step result tables shipments) (hf : fleet.Sound) :
    ∀ id, (tables id).Keyed := by
  cases h with
  | idle step result hc hs => exact hf.bodies
  | called hr he =>
    refine keyed_update hf.bodies _ (he.keyed ?_)
    rw [← World.bodies_eq hr]
    exact hf.bodies _
  | shipped hb => exact keyed_update hf.bodies _ ((hf.bodies _).setStatus _ _)
  | delivered hs hp host handle => exact keyed_update hf.bodies _ ((hf.bodies _).host _ _ _)
  | failed hs hp step hd result e => exact hf.bodies
  | returned hs hp result => exact keyed_update hf.bodies _ ((hf.bodies _).setStatus _ _)
  | dropped hs hp hr hu result =>
    exact keyed_update hf.bodies _ ((hf.bodies _).completeMigration _)
  | stayed hs hp hu result => exact hf.bodies

theorem Transition.shipments_keyed {tables : RuntimeId → BodyTable} {shipments : List Shipment}
    (h : fleet.Transition step result tables shipments) (hf : fleet.Sound) :
    ∀ shipment ∈ shipments, shipment.body.id = shipment.id := by
  have set {i : Nat} {shipment : Shipment} (hs : fleet.shipments[i]? = some shipment)
      (passage : Passage) : ∀ other ∈ fleet.shipments.set i { shipment with passage },
        other.body.id = other.id := by
    intro other ho
    rcases List.mem_or_eq_of_mem_set ho with ho | rfl
    · exact hf.shipments other ho
    · exact hf.shipments shipment (List.mem_of_getElem? hs)
  cases h with
  | idle step result hc hs => exact hf.shipments
  | called hr he => exact hf.shipments
  | shipped hb =>
    intro shipment hs
    rcases List.mem_append.1 hs with hs | hs
    · exact hf.shipments shipment hs
    · cases List.mem_singleton.1 hs
      exact hf.bodies _ _ _ hb
  | delivered hs hp host handle => exact set hs _
  | failed hs hp step hd result e => exact set hs _
  | returned hs hp result => exact set hs _
  | dropped hs hp hr hu result => exact set hs _
  | stayed hs hp hu result => exact set hs _

theorem Advance.sound (h : fleet.Advance step result fleet') (hf : fleet.Sound) : fleet'.Sound where
  world := h.keyed
  bodies := h.transition.bodies_keyed hf
  shipments := h.transition.shipments_keyed hf

theorem Sound.next (h : fleet.Sound) (step : Step) : (fleet.next step).Sound := by
  obtain ⟨result, ha⟩ := next_advance h.world step
  exact ha.sound h

theorem Sound.after (h : fleet.Sound) (steps : List Step) : (fleet.after steps).Sound :=
  after_of_next (fun _ step h => h.next step) steps h

theorem sound_after (steps : List Step) : (({} : Fleet).after steps).Sound :=
  sound_empty.after steps

/-- What every step that follows the rule keeps, every run that does keeps. -/
theorem Obeys.invariant {rule : Fleet → Step → Prop} {P : Fleet → Prop} {steps : List Step}
    (h : Obeys rule fleet steps) (hs : fleet.Sound) (hp : P fleet)
    (hstep : ∀ {fleet : Fleet} {step : Step} {result : Except RuntimeError Unit}, fleet.Sound →
      rule fleet step → fleet.Advance step result (fleet.next step) → P fleet →
      P (fleet.next step)) :
    P (fleet.after steps) := by
  induction steps generalizing fleet with
  | nil => exact hp
  | cons step steps ih =>
    obtain ⟨result, ha⟩ := next_advance hs.world step
    exact ih h.2 (ha.sound hs) (hstep hs h.1 ha hp)

theorem invariant_after {P : Fleet → Prop} (hs : fleet.Sound) (hp : P fleet)
    (hstep : ∀ {fleet : Fleet} {step : Step} {result : Except RuntimeError Unit}, fleet.Sound →
      fleet.Advance step result (fleet.next step) → P fleet → P (fleet.next step))
    (steps : List Step) : P (fleet.after steps) := by
  have h : Obeys (fun _ _ => True) fleet steps := .of_forall fun _ _ _ => trivial
  exact h.invariant hs hp fun hs _ ha hp => hstep hs ha hp

/-- A runtime that hosts a body is there. -/
theorem exists_runtime {runtime : RuntimeId} {id : BodyId} {status : BodyStatus}
    (h : fleet.status? runtime id = some status) :
    ∃ site, fleet.world.runtime? runtime = some site := by
  cases hr : fleet.world.runtime? runtime with
  | none =>
    rw [status?, bodies, World.bodies_eq_empty hr] at h
    simp [BodyTable.status?] at h
  | some site => exact ⟨site, rfl⟩

/-- What holds of the runtimes that are there, and of an absent body, holds everywhere. -/
theorem forall_status {P : Option BodyStatus → Prop} {id : BodyId} (hn : P none)
    (h : ∀ runtime ∈ fleet.world.runtimes.keys, P (fleet.status? runtime id))
    (runtime : RuntimeId) : P (fleet.status? runtime id) := by
  cases hs : fleet.status? runtime id with
  | none => exact hn
  | some status =>
    obtain ⟨site, hr⟩ := exists_runtime hs
    have hk : runtime ∈ fleet.world.runtimes.keys := by
      rw [Std.ExtTreeMap.mem_keys, ← Std.ExtTreeMap.isSome_getElem?_iff_mem]
      rw [World.runtime?] at hr
      rw [hr]
      rfl
    exact hs ▸ h runtime hk

/-! ## The record -/

theorem Advance.created_eq (h : fleet.Advance step result fleet') :
    fleet'.created = fleet.created ++ (created? (step, result)).toList := by
  rw [created, h.history, List.filterMap_append]
  cases hc : created? (step, result) <;> simp [created, hc]

theorem Advance.mem_created (h : fleet.Advance step result fleet') {id : BodyId}
    (hc : id ∈ fleet.created) : id ∈ fleet'.created := by
  rw [h.created_eq]
  exact List.mem_append_left _ hc

theorem Advance.applied_eq (h : fleet.Advance step result fleet') :
    fleet'.applied = fleet.applied ++ (applied? (step, result)).toList := by
  rw [applied, h.history, List.filterMap_append]
  cases hc : applied? (step, result) <;> simp [applied, hc]

/-! ## Two runtimes -/

/-- Starts a runtime with a node of the name `n`. -/
def opening (id : RuntimeId) (port : UInt16) : Step :=
  .start
    { id
      config := { runtime := { name := "r", port }, nodes := [{ name := "n" }] }
      resolver := .literals }

/-- The one class that there is. -/
def constructors : ConstructorRegistry := .ofList [("Empty", BodyConstructor.empty)]

/-- Two runtimes, with a body on the first. -/
def pair (id : BodyId) : List Step :=
  [.registries (.ofList [(0, constructors)]), opening 1 1099, opening 2 2099,
    .call 1 (.createBody id "n" { className := "Empty" } true)]

/-- The body is delivered to the second runtime and, before the first takes note, delivered back. -/
def comeback (id : BodyId) : List Step :=
  pair id ++ [.ship 1 2 id "n", .deliver 0, .ship 2 1 id "n", .deliver 1]

end ActiveObjects.Fleet

import ActiveObjects.Proofs.Migration.Uniqueness

/-!
# Whether migrations lose bodies

As long as no node takes bodies along, a body that was created keeps a holder until a migration is
settled that loses it. Once no migration is in progress the holder is a runtime that hosts the body
as active. In orderly runs the loss is for good.
-/

namespace ActiveObjects.Fleet

/-- Bodies arrive through migrations only, and no body goes with a killed node. -/
def Gentle (fleet : Fleet) : Step → Prop
  | .call runtime call =>
    (∀ node body, call ≠ .receiveBody node body) ∧ (call.kills = true →
      (fleet.next (.call runtime call)).bodies runtime = fleet.bodies runtime)
  | _ => True

variable {fleet fleet' : Fleet} {step : Step} {result : Except RuntimeError Unit}

/-- A body that was just created is on the runtime that created it. -/
theorem Transition.holds_created {tables : RuntimeId → BodyTable} {shipments : List Shipment}
    (h : fleet.Transition step result tables shipments) {id : BodyId}
    (hc : created? (step, result) = some id) : ∃ x, HeldBy tables shipments id x := by
  cases h with
  | idle step result hi hs =>
    unfold created? at hc
    split at hc
    · rename_i he
      cases he
      obtain ⟨e, he⟩ := hi _ _ rfl
      cases he
    · cases hc
  | @called runtime call result site table hr he =>
    refine ⟨.runtime runtime, ?_⟩
    rw [heldBy_update, if_pos rfl]
    cases he with
    | created ha hb =>
      cases hc
      rw [BodyTable.status?_host, if_pos rfl]
    | kept call result hk => cases call <;> simp [created?, Call.footprint] at hc hk
    | shed result hk hs => cases call <;> simp [created?, Call.kills] at hc hk
    | _ => simp [created?] at hc
  | failed hs hp step hd result e => rcases hd with rfl | ⟨e, rfl⟩ <;> simp [created?] at hc
  | _ => simp [created?] at hc

/-- A call concerns one runtime, and no shipments. -/
theorem Transition.of_call {runtime : RuntimeId} {call : Call} {tables : RuntimeId → BodyTable}
    {shipments : List Shipment}
    (h : fleet.Transition (.call runtime call) result tables shipments) :
    shipments = fleet.shipments ∧ ∀ other, other ≠ runtime → tables other = fleet.bodies other := by
  generalize hs : Step.call runtime call = step at h
  cases h with
  | idle step result hc hs => exact ⟨rfl, fun _ _ => rfl⟩
  | called hr he =>
    cases hs
    exact ⟨rfl, fun other ho => Function.update_of_ne ho _ _⟩
  | failed hs' hp step hd result e => rcases hd with rfl | ⟨e, rfl⟩ <;> cases hs
  | _ => cases hs

theorem next_holds_of_holds (hf : fleet.Sound) (hg : fleet.Gentle step) {id : BodyId}
    (hl : ¬ fleet.Loses id step) {x : Holder} (hx : fleet.Holds id x) :
    ∃ y, (fleet.next step).Holds id y := by
  obtain ⟨result, ha⟩ := next_advance hf.world step
  have hh := ha.transition.handover hf id
  generalize hn : HeldBy (fleet.next step).bodies (fleet.next step).shipments id = holds at hh
  change ∃ y, HeldBy (fleet.next step).bodies (fleet.next step).shipments id y
  rw [hn]
  cases hh with
  | unchanged hl result h => exact ⟨x, (h x).2 hx⟩
  | moved hl result hr hg h => exact ⟨_, (h _).2 (.inl rfl)⟩
  | entered he taker h => exact ⟨taker, (h taker).2 (.inl rfl)⟩
  | lost hl' result giver hg h => exact absurd hl' hl
  | @killed _ runtime call hk result h =>
    obtain ⟨hs, ho⟩ := ha.transition.of_call
    have hb : (fleet.next (.call runtime call)).bodies = fleet.bodies := by
      funext other
      by_cases hr : other = runtime
      · rw [hr]
        exact hg.2 hk
      · exact ho other hr
    rw [hs, hb] at hn
    exact ⟨x, hn ▸ hx⟩

/-! ## Runs -/

/-- No step of a run loses the body. -/
def Keeps (id : BodyId) : Fleet → List Step → Prop :=
  Obeys fun fleet step => ¬ fleet.Loses id step

instance (id : BodyId) (fleet : Fleet) (steps : List Step) : Decidable (Keeps id fleet steps) :=
  Obeys.decidable (fun fleet step => ¬ fleet.Loses id step) fleet steps

theorem held_of_keeps {steps : List Step} {id : BodyId} (hg : Obeys Gentle {} steps)
    (hl : Keeps id {} steps) (hc : id ∈ (({} : Fleet).after steps).created) :
    ∃ x, (({} : Fleet).after steps).Holds id x := by
  refine (hg.and hl).invariant (P := fun fleet => id ∈ fleet.created → ∃ x, fleet.Holds id x)
    sound_empty (fun h => nomatch h) ?_ hc
  intro fleet step result hs hrule ha ih hc
  rw [ha.created_eq, List.mem_append] at hc
  rcases hc with hc | hc
  · obtain ⟨x, hx⟩ := ih hc
    exact next_holds_of_holds hs hrule.1 hrule.2 hx
  · exact ha.transition.holds_created (Option.mem_toList.1 hc)

/-- A step that loses a body leaves it without a holder. -/
theorem not_held_of_loses {id : BodyId} (hs : fleet.Sound) (hh : fleet.HeldOnce)
    (hl : fleet.Loses id step) :
    id ∈ (fleet.next step).created ∧ ∀ x, ¬ (fleet.next step).Holds id x := by
  obtain ⟨result, ha⟩ := next_advance hs.world step
  have h := ha.transition.handover hs id
  generalize hn : HeldBy (fleet.next step).bodies (fleet.next step).shipments id = holds at h
  cases h with
  | unchanged hn result h => exact absurd hl hn
  | moved hn result hr hg h => exact absurd hl hn
  | entered he taker h => cases he <;> exact hl.elim
  | killed hk result h => exact hl.elim
  | lost hl result giver hg h =>
    refine ⟨ha.mem_created (hh.created id giver hg), ?_⟩
    intro x hx
    obtain ⟨hx, hne⟩ := (h x).1 (hn ▸ hx)
    exact hne (hh.unique id x giver hx hg)

/-- A body that was created and lost its last holder gets none again. -/
theorem not_held_next {id : BodyId} (ho : fleet.Orderly step) (hs : fleet.Sound)
    (hc : id ∈ fleet.created) (hn : ∀ x, ¬ fleet.Holds id x) :
    id ∈ (fleet.next step).created ∧ ∀ x, ¬ (fleet.next step).Holds id x := by
  obtain ⟨result, ha⟩ := next_advance hs.world step
  refine ⟨ha.mem_created hc, ?_⟩
  intro x hx
  have h := ha.transition.handover hs id
  generalize hd : HeldBy (fleet.next step).bodies (fleet.next step).shipments id = holds at h
  have hy : holds x := hd ▸ hx
  cases h with
  | unchanged hl result h => exact hn x ((h x).1 hy)
  | moved hl result hr hg h => exact hn _ hg
  | entered he taker h => exact (he.created_of_orderly ho).1 hc
  | killed hk result h => exact hn x (h x hy)
  | lost hl result giver hg h => exact hn giver hg

theorem not_held_after {steps : List Step} {id : BodyId} (ho : Obeys Orderly fleet steps)
    (hs : fleet.Sound) (hc : id ∈ fleet.created) (hn : ∀ x, ¬ fleet.Holds id x) (x : Holder) :
    ¬ (fleet.after steps).Holds id x := by
  induction steps generalizing fleet with
  | nil => exact hn x
  | cons step steps ih =>
    obtain ⟨hc, hn⟩ := not_held_next ho.1 hs hc hn
    exact ih ho.2 (hs.next step) hc hn

/-- A body that is still held was not lost on the way. -/
theorem keeps_of_held {steps : List Step} {id : BodyId} {x : Holder}
    (ho : Obeys Orderly fleet steps) (hs : fleet.Sound) (hh : fleet.HeldOnce)
    (hx : (fleet.after steps).Holds id x) : Keeps id fleet steps := by
  induction steps generalizing fleet with
  | nil => trivial
  | cons step steps ih =>
    refine ⟨?_, ih ho.2 (hs.next step) ?_ hx⟩
    · intro hl
      obtain ⟨hc, hn⟩ := not_held_of_loses hs hh hl
      exact not_held_after ho.2 (hs.next step) hc hn x hx
    · obtain ⟨result, ha⟩ := next_advance hs.world step
      exact ha.heldOnce hs ho.1 hh

/-- Once no migration is in progress, only runtimes hold bodies. -/
theorem active_iff_held (hq : fleet.Quiet) {id : BodyId} :
    (∃ runtime, fleet.status? runtime id = some .active) ↔ ∃ x, fleet.Holds id x := by
  constructor
  · rintro ⟨runtime, h⟩
    exact ⟨.runtime runtime, h⟩
  · rintro ⟨x, h⟩
    cases x with
    | runtime runtime => exact ⟨runtime, h⟩
    | shipment place =>
      obtain ⟨shipment, hs, -, ho⟩ := h
      have hover := hq shipment (List.mem_of_getElem? hs)
      rcases shipment with ⟨_, _, _, _, _, _, _ | _ | _⟩ <;>
        simp [Shipment.isOver, Passage.isOpen] at ho hover

/-- When no migration is in progress, a body that was created is active somewhere unless a
migration was settled that lost it. In an orderly run it is active nowhere if one was. -/
theorem active_iff_keeps {steps : List Step} (hg : Obeys Gentle {} steps)
    (hq : (({} : Fleet).after steps).Quiet) {id : BodyId}
    (hc : id ∈ (({} : Fleet).after steps).created) :
    (Keeps id {} steps →
        ∃ runtime, (({} : Fleet).after steps).status? runtime id = some .active) ∧
      (Obeys Orderly {} steps → ¬ Keeps id {} steps →
        ∀ runtime, (({} : Fleet).after steps).status? runtime id ≠ some .active) := by
  constructor
  · intro hk
    exact (active_iff_held hq).2 (held_of_keeps hg hk hc)
  · intro ho hk runtime ha
    obtain ⟨x, hx⟩ := (active_iff_held hq).1 ⟨runtime, ha⟩
    exact hk (keeps_of_held ho sound_empty heldOnce_empty hx)

/-- The body is delivered to the second runtime, and the first takes note. -/
def trip : List Step := pair ⟨7⟩ ++ [.ship 1 2 ⟨7⟩ "n", .deliver 0, .settle 0]

/-- The first runtime takes note only after the body came back. -/
def lateTrip : List Step := comeback ⟨7⟩ ++ [.settle 1, .settle 0]

/-- A migration that is settled before the next one begins keeps the body; one that is settled after
the body came back loses it. -/
theorem active_iff_keeps_comeback :
    Obeys Gentle {} trip ∧
      (∃ runtime, (({} : Fleet).after trip).status? runtime ⟨7⟩ = some .active) ∧
      Obeys Gentle {} lateTrip ∧
      ∀ runtime, (({} : Fleet).after lateTrip).status? runtime ⟨7⟩ ≠ some .active := by
  have hg : Obeys Gentle {} trip := .of_forall (by simp [trip, pair, opening, Gentle, Call.kills])
  have hg' : Obeys Gentle {} lateTrip :=
    .of_forall (by simp [lateTrip, comeback, pair, opening, Gentle, Call.kills])
  obtain ⟨hq, hc, hk⟩ : (({} : Fleet).after trip).Quiet ∧
      ⟨7⟩ ∈ (({} : Fleet).after trip).created ∧ Keeps ⟨7⟩ {} trip := by decide +kernel
  obtain ⟨hq', hc', ho', hk'⟩ : (({} : Fleet).after lateTrip).Quiet ∧
      ⟨7⟩ ∈ (({} : Fleet).after lateTrip).created ∧ Obeys Orderly {} lateTrip ∧
        ¬ Keeps ⟨7⟩ {} lateTrip := by decide +kernel
  exact ⟨hg, (active_iff_keeps hg hq hc).1 hk, hg', (active_iff_keeps hg' hq' hc').2 ho' hk'⟩

/-- Two runtimes with URLs of their own, no node killed, no migration left in progress, and yet the
body that went out and came back is active nowhere. -/
theorem comeback_lost :
    Obeys Gentle {} lateTrip ∧
      ((({} : Fleet).after lateTrip).world.runtimes.values.map (·.url)).Nodup ∧
      (({} : Fleet).after lateTrip).Quiet ∧ ⟨7⟩ ∈ (({} : Fleet).after lateTrip).created ∧
      ¬ ∃ runtime, (({} : Fleet).after lateTrip).status? runtime ⟨7⟩ = some .active := by
  obtain ⟨hu, hq, hc, hn⟩ :
      ((({} : Fleet).after lateTrip).world.runtimes.values.map (·.url)).Nodup ∧
        (({} : Fleet).after lateTrip).Quiet ∧ ⟨7⟩ ∈ (({} : Fleet).after lateTrip).created ∧
        ∀ runtime ∈ (({} : Fleet).after lateTrip).world.runtimes.keys,
          (({} : Fleet).after lateTrip).status? runtime ⟨7⟩ ≠ some .active := by decide +kernel
  refine ⟨.of_forall (by simp [lateTrip, comeback, pair, opening, Gentle, Call.kills]), hu, hq, hc,
    ?_⟩
  rintro ⟨runtime, ha⟩
  exact forall_status (P := (· ≠ some .active)) (by decide) hn runtime ha

end ActiveObjects.Fleet

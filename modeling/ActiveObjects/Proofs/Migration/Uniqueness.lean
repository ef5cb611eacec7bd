import ActiveObjects.Proofs.Migration.Holders

/-!
# No body is active twice

As long as bodies come in through migrations only, checkpoints go to runtimes that host the body
and identifiers are drawn fresh, a body has at most one holder. So it is active on one runtime at
most, and while it is on its way on none.
-/

namespace ActiveObjects.Fleet

/-- Bodies arrive through migrations only, a checkpoint goes to a runtime that hosts the body, and a
new body has a new identifier. -/
def Orderly (fleet : Fleet) : Step → Prop
  | .call _ (.receiveBody ..) => False
  | .call runtime (.receiveCheckpoint _ snapshot _) =>
    (fleet.status? runtime snapshot.bodyId).isSome
  | .call _ (.createBody fresh ..) => fresh ∉ fleet.created
  | _ => True

instance : DecidableRel Orderly := fun fleet step => by
  unfold Orderly
  split <;> infer_instance

/-- A body has at most one holder, and is held only after it was created. -/
structure HeldOnce (fleet : Fleet) : Prop where
  created (id : BodyId) (x : Holder) : fleet.Holds id x → id ∈ fleet.created
  unique (id : BodyId) (x y : Holder) : fleet.Holds id x → fleet.Holds id y → x = y

variable {fleet fleet' : Fleet} {step : Step} {result : Except RuntimeError Unit}

theorem holds_empty (id : BodyId) (x : Holder) : ¬ ({} : Fleet).Holds id x := by
  cases x with
  | runtime runtime =>
    have h : ({} : Fleet).bodies runtime = {} := World.bodies_eq_empty (by simp [World.runtime?])
    simp [Holds, HeldBy, h, BodyTable.status?]
  | shipment place => simp [Holds, HeldBy]

theorem heldOnce_empty : ({} : Fleet).HeldOnce where
  created id x h := absurd h (holds_empty id x)
  unique id x _ h := absurd h (holds_empty id x)

/-- In an orderly step only a body that is created now enters. -/
theorem Enters.created_of_orderly {id : BodyId} (h : fleet.Enters id step result)
    (ho : fleet.Orderly step) : id ∉ fleet.created ∧ created? (step, result) = some id := by
  cases h with
  | created runtime node call isLocal => exact ⟨ho, rfl⟩
  | received runtime node hid => exact ho.elim
  | restored node sequence hid hn =>
    subst hid
    rw [Orderly, hn] at ho
    cases ho

theorem Advance.heldOnce (ha : fleet.Advance step result fleet') (hf : fleet.Sound)
    (ho : fleet.Orderly step) (h : fleet.HeldOnce) : fleet'.HeldOnce where
  created id x hx := by
    rw [ha.created_eq, List.mem_append]
    cases ha.transition.handover hf id with
    | unchanged hl result hh => exact .inl (h.created id x ((hh x).1 hx))
    | moved hl result hr hg hh => exact .inl (h.created id _ hg)
    | entered he taker hh => exact .inr (by rw [(he.created_of_orderly ho).2]; simp)
    | killed hk result hh => exact .inl (h.created id x (hh x hx))
    | lost hl result giver hg hh => exact .inl (h.created id _ hg)
  unique id x y hx hy := by
    cases ha.transition.handover hf id with
    | unchanged hl result hh => exact h.unique id x y ((hh x).1 hx) ((hh y).1 hy)
    | @moved _ _ hl result giver taker hr hg hh =>
      have taken (z : Holder) (hz : fleet'.Holds id z) : z = taker := by
        rcases (hh z).1 hz with hz | ⟨hz, hne⟩
        · exact hz
        · exact absurd (h.unique id z _ hz hg) hne
      rw [taken x hx, taken y hy]
    | entered he taker hh =>
      have taken (z : Holder) (hz : fleet'.Holds id z) : z = taker := by
        rcases (hh z).1 hz with hz | hz
        · exact hz
        · exact absurd (h.created id z hz) (he.created_of_orderly ho).1
      rw [taken x hx, taken y hy]
    | killed hk result hh => exact h.unique id x y (hh x hx) (hh y hy)
    | lost hl result giver hg hh => exact h.unique id x y ((hh x).1 hx).1 ((hh y).1 hy).1

theorem heldOnce_after {steps : List Step} (h : Obeys Orderly {} steps) :
    (({} : Fleet).after steps).HeldOnce :=
  h.invariant (P := HeldOnce) sound_empty heldOnce_empty fun hs ho ha hu => ha.heldOnce hs ho hu

/-- After every orderly run, with any migrations under way, a body is active on at most one
runtime. -/
theorem active_once {steps : List Step} (h : Obeys Orderly {} steps) {id : BodyId}
    {runtime runtime' : RuntimeId}
    (ha : (({} : Fleet).after steps).status? runtime id = some .active)
    (hb : (({} : Fleet).after steps).status? runtime' id = some .active) : runtime = runtime' :=
  Holder.runtime.inj ((heldOnce_after h).unique id (.runtime runtime) (.runtime runtime') ha hb)

/-- With two migrations of it under way, the body that came back is active at home alone. -/
theorem active_once_comeback :
    Obeys Orderly {} (comeback ⟨7⟩) ∧
      (({} : Fleet).after (comeback ⟨7⟩)).status? 1 ⟨7⟩ = some .active ∧
        ∀ runtime, (({} : Fleet).after (comeback ⟨7⟩)).status? runtime ⟨7⟩ = some .active →
          runtime = 1 := by
  have ho : Obeys Orderly {} (comeback ⟨7⟩) := by decide +kernel
  have ha : (({} : Fleet).after (comeback ⟨7⟩)).status? 1 ⟨7⟩ = some .active := by decide +kernel
  exact ⟨ho, ha, fun runtime h => active_once ho h ha⟩

end ActiveObjects.Fleet

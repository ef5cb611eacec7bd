import ActiveObjects.Proofs.Fleet.Runs

/-!
# Migrations step by step

A step moves one migration on at most, or begins one. `Progress` lists what a step can make of a
migration, and `Origin` where a migration comes from that is there afterwards.
-/

namespace ActiveObjects.Fleet

variable {fleet : Fleet} {place : Nat} {shipment : Shipment}

/-- What a step makes of the migration at a place of the list. -/
inductive Progress (fleet : Fleet) (place : Nat) (shipment : Shipment) : Step → Passage → Prop where
  /-- The step is about another matter, or it is refused. To settle is not refused once there is an
  answer. -/
  | kept {step : Step}
    (hn : step = .settle place → ∀ answer, shipment.passage ≠ .answered answer) :
    Progress fleet place shipment step shipment.passage
  | taken (hp : shipment.passage = .underway) (hok : (fleet.outcome (.deliver place)).1 = .ok ())
    (handle : BodyHandle) :
    Progress fleet place shipment (.deliver place) (.answered (.ok handle))
  | refused {step : Step} (hp : shipment.passage = .underway)
    (hd : step = .deliver place ∨ ∃ e, step = .lose place e) (e : RuntimeError) :
    Progress fleet place shipment step (.answered (.error e))
  | settled {answer : Except RuntimeError BodyHandle} (hp : shipment.passage = .answered answer) :
    Progress fleet place shipment (.settle place) .settled

/-- Migrations keep their places. -/
theorem exists_progress (hs : fleet.Sound) (step : Step)
    (h : fleet.shipments[place]? = some shipment) :
    ∃ passage, fleet.Progress place shipment step passage ∧
      (fleet.next step).shipments[place]? = some { shipment with passage } := by
  obtain ⟨result, ha⟩ := next_advance hs.world step
  have hresult := ha.outcome_eq
  have ht := ha.transition
  generalize (fleet.next step).bodies = tables at ht
  generalize (fleet.next step).shipments = shipments at ht ⊢
  -- A migration gets on, which is this one or another one.
  have set {i : Nat} {other : Shipment} (ho : fleet.shipments[i]? = some other) {passage : Passage}
      (hp : fleet.Progress i other step passage) (hi : ∀ j, step = .settle j → j = i) :
      ∃ reached, fleet.Progress place shipment step reached ∧
        (fleet.shipments.set i { other with passage })[place]? =
          some { shipment with passage := reached } := by
    by_cases hplace : i = place
    · subst hplace
      cases h.symm.trans ho
      exact ⟨passage, hp, List.getElem?_set_self (List.getElem?_eq_some_iff.1 ho).1⟩
    · refine ⟨_, .kept fun hstep => absurd (hi place hstep).symm hplace, ?_⟩
      rw [List.getElem?_set_ne hplace]
      exact h
  cases ht with
  | idle step result hc hset => exact ⟨_, .kept fun hstep answer => hset _ hstep _ answer h, h⟩
  | called hr he => exact ⟨_, .kept (fun hstep => nomatch hstep), h⟩
  | shipped hb =>
    refine ⟨_, .kept (fun hstep => nomatch hstep), ?_⟩
    rw [List.getElem?_append_left (List.getElem?_eq_some_iff.1 h).1]
    exact h
  | delivered ho hp host handle =>
    exact set ho (.taken hp hresult handle) fun _ hstep => nomatch hstep
  | failed ho hp step hd result e =>
    refine set ho (.refused hp hd e) fun j hstep => ?_
    rcases hd with rfl | ⟨e', rfl⟩ <;> cases hstep
  | returned ho hp result => exact set ho (.settled hp) fun _ hstep => (Step.settle.inj hstep).symm
  | dropped ho hp hr hu result =>
    exact set ho (.settled hp) fun _ hstep => (Step.settle.inj hstep).symm
  | stayed ho hp hu result => exact set ho (.settled hp) fun _ hstep => (Step.settle.inj hstep).symm

/-- Where the migration comes from that is at a place of the list after a step. -/
inductive Origin (fleet : Fleet) : Nat → Step → Shipment → Prop where
  | before {place : Nat} {shipment : Shipment} {step : Step} {passage : Passage}
    (hi : fleet.shipments[place]? = some shipment)
    (hp : fleet.Progress place shipment step passage) :
    Origin fleet place step { shipment with passage }
  | begins {source target : RuntimeId} {id : BodyId} {node : String} {peer : Runtime} {body : Body}
    {left : Url} (hok : (fleet.outcome (.ship source target id node)).1 = .ok ())
    (hpeer : fleet.world.runtime? target = some peer) :
    Origin fleet fleet.shipments.length (.ship source target id node)
      ⟨source, peer.handle, node, id, body, left, .underway⟩

theorem origin (hs : fleet.Sound) {step : Step}
    (h : (fleet.next step).shipments[place]? = some shipment) :
    fleet.Origin place step shipment := by
  rcases hi : fleet.shipments[place]? with _ | earlier
  · obtain ⟨result, ha⟩ := next_advance hs.world step
    have hresult := ha.outcome_eq
    have ht := ha.transition
    generalize (fleet.next step).bodies = tables at ht
    generalize hn : (fleet.next step).shipments = shipments at ht h
    cases ht with
    | idle | called => cases hi.symm.trans h
    | shipped hb =>
      obtain ⟨peer, body, left, hpeer, hn'⟩ := shipments_of_ship hresult
      rw [← hn, hn', List.getElem?_append_right (List.getElem?_eq_none_iff.1 hi)] at h
      obtain ⟨hlt, rfl⟩ := List.getElem?_eq_some_iff.1 h
      obtain rfl : place = fleet.shipments.length := by
        have hle := List.getElem?_eq_none_iff.1 hi
        rw [List.length_singleton] at hlt
        omega
      simpa using Origin.begins hresult hpeer
    | delivered | failed | returned | dropped | stayed =>
      rw [List.getElem?_eq_none_iff, ← List.length_set, ← List.getElem?_eq_none_iff] at hi
      cases hi.symm.trans h
  · obtain ⟨passage, hp, hm⟩ := exists_progress hs step hi
    cases hm.symm.trans h
    exact .before hi hp

end ActiveObjects.Fleet

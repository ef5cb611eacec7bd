import ActiveObjects.Proofs.Fleet.Addresses
import ActiveObjects.Proofs.Migration.Survival
import ActiveObjects.Proofs.Migration.Window

/-!
# Bodies stuck in migration

The mark of a body is accounted for as long as a migration of the body is to be settled that takes
the mark off. There is one way to strand a body: the target is another runtime of the same URL. The
source then takes the migration for a move within itself and leaves the mark where it is.
-/

namespace ActiveObjects

/-- The target took the body, and the source has not taken note. -/
def Shipment.isTaken (shipment : Shipment) : Bool :=
  match shipment.passage with
  | .answered (.ok _) => true
  | _ => false

/-- The migration is still to take the mark off at its source. One whose target is its source put
the body into service there when it was delivered. -/
def Shipment.isPending (shipment : Shipment) : Bool :=
  match shipment.passage with
  | .underway => true
  | .answered (.error _) => true
  | .answered (.ok _) => shipment.target.id ≠ shipment.source
  | .settled => false

theorem Shipment.not_isOver_of_isPending {shipment : Shipment} (h : shipment.isPending) :
    shipment.isOver = false := by
  rcases shipment with ⟨_, _, _, _, _, _, _ | _ | _⟩
  · rfl
  · rfl
  · cases h

namespace Fleet

variable {fleet : Fleet} {step : Step} {runtime : RuntimeId} {id : BodyId}

/-- The migration at a place of the list is still to take the mark of the body off. -/
def PendingAt (fleet : Fleet) (runtime : RuntimeId) (id : BodyId) (place : Nat) : Prop :=
  ∃ shipment ∈ fleet.shipments[place]?,
    shipment.source = runtime ∧ shipment.id = id ∧ shipment.isPending

instance (fleet : Fleet) (runtime : RuntimeId) (id : BodyId) :
    DecidablePred (fleet.PendingAt runtime id) :=
  fun place => inferInstanceAs (Decidable (∃ shipment ∈ fleet.shipments[place]?, _))

/-- Every mark is accounted for. -/
def Accounted (fleet : Fleet) : Prop :=
  ∀ runtime id, fleet.Marked runtime id → ∃ place, fleet.PendingAt runtime id place

/-- The settled migration leaves a mark behind that no other migration takes off: the body was taken
by another runtime, but under the URL of the source. -/
def Strands (fleet : Fleet) : Step → Prop
  | .settle i =>
    ∃ shipment ∈ fleet.shipments[i]?,
      shipment.isTaken ∧ shipment.target.id ≠ shipment.source ∧
        fleet.url? shipment.source = some shipment.target.url ∧
        fleet.Marked shipment.source shipment.id ∧
        ∀ place < fleet.shipments.length,
          fleet.PendingAt shipment.source shipment.id place → place = i
  | _ => False

instance (fleet : Fleet) : DecidablePred fleet.Strands
  | .settle i => inferInstanceAs (Decidable (∃ shipment ∈ fleet.shipments[i]?, _))
  | .start _ | .naming _ | .registries _ | .call .. | .ship .. | .deliver _ | .lose .. =>
    isFalse fun h => h

/-! ## What becomes of pending migrations -/

/-- A migration stays pending until it is settled, or delivered to its own source. -/
theorem PendingAt.next {place : Nat} (h : fleet.PendingAt runtime id place) (hs : fleet.Sound)
    (hsettle : step = .settle place → ∀ shipment ∈ fleet.shipments[place]?,
      shipment.passage = .underway) (hplaces : ¬ fleet.Places runtime id step) :
    (fleet.next step).PendingAt runtime id place := by
  obtain ⟨shipment, hi, hsource, hid, hpending⟩ := h
  obtain ⟨passage, hp, hm⟩ := exists_progress hs step hi
  refine ⟨_, hm, hsource, hid, ?_⟩
  cases hp with
  | kept hn => exact hpending
  | taken hp hok handle =>
    refine decide_eq_true fun hself => hplaces ⟨hok, ?_⟩
    rw [arrival?, hi, ← hself.trans hsource, ← hid]
    rfl
  | refused hp hd e => rfl
  | settled hp => cases hp.symm.trans (hsettle rfl shipment hi)

/-- A migration that is pending was so before, unless it begins now. -/
theorem PendingAt.of_next {place : Nat} (h : (fleet.next step).PendingAt runtime id place)
    (hs : fleet.Sound) : fleet.PendingAt runtime id place ∨ fleet.Departs runtime id step := by
  obtain ⟨later, hm, hsource, hid, hpending⟩ := h
  cases origin hs hm with
  | begins hok hpeer => exact .inr ⟨hsource, hid, hok⟩
  | before hi hp =>
    refine .inl ⟨_, hi, hsource, hid, ?_⟩
    cases hp with
    | kept hn => exact hpending
    | taken hp | refused hp => rw [Shipment.isPending, hp]
    | settled hp => cases hpending

theorem pendingAt_of_departs (h : fleet.Departs runtime id step) :
    (fleet.next step).PendingAt runtime id fleet.shipments.length := by
  cases step with
  | ship source target shipped node =>
    obtain ⟨rfl, rfl, hok⟩ := h
    obtain ⟨peer, body, left, -, hn⟩ := shipments_of_ship hok
    rw [PendingAt, hn, List.getElem?_concat_length]
    exact ⟨_, rfl, rfl, rfl, rfl⟩
  | _ => exact h.elim

/-! ## Marks that are accounted for -/

theorem accounted_empty : ({} : Fleet).Accounted := by
  intro runtime id hm
  have h : ({} : Fleet).bodies runtime = {} := World.bodies_eq_empty (by simp [World.runtime?])
  rw [Marked, status?, h] at hm
  simp [BodyTable.status?] at hm

/-- A step that strands no body leaves every mark accounted for. -/
theorem Accounted.next (h : fleet.Accounted) (hs : fleet.Sound)
    (hh : fleet.world.Each Runtime.Housed) (hn : ¬ fleet.Strands step) :
    (fleet.next step).Accounted := by
  intro runtime id hm
  rcases (marked_next_iff hs hh).1 hm with hd | ⟨hmark, hplaces, -, hsettles⟩
  · exact ⟨_, pendingAt_of_departs hd⟩
  by_contra hnone
  -- What is pending now is not pending then, so it is settled by this step.
  have ended (place : Nat) (hp : fleet.PendingAt runtime id place) : step = .settle place := by
    by_contra hstep
    exact hnone ⟨place, hp.next hs (fun h => absurd h hstep) hplaces⟩
  obtain ⟨i, hp⟩ := h runtime id hmark
  have hstep := ended i hp
  subst hstep
  obtain ⟨shipment, hi, rfl, rfl, hpending⟩ := hp
  have hlifts : ¬ fleet.Lifts shipment := fun hc => hsettles ⟨shipment, hi, rfl, rfl, hc⟩
  cases hpassage : shipment.passage with
  | underway =>
    refine hnone ⟨i, PendingAt.next ⟨shipment, hi, rfl, rfl, hpending⟩ hs (fun _ => ?_) hplaces⟩
    intro other ho
    cases hi.symm.trans ho
    exact hpassage
  | settled => simp [Shipment.isPending, hpassage] at hpending
  | answered answer =>
    cases answer with
    | error e => simp [Lifts, hpassage] at hlifts
    | ok handle =>
      refine hn ⟨shipment, hi, by simp [Shipment.isTaken, hpassage], ?_, ?_, hmark, ?_⟩
      · simpa [Shipment.isPending, hpassage] using hpending
      · simpa [Lifts, hpassage] using hlifts
      · intro place _ hp
        exact (Step.settle.inj (ended place hp)).symm

theorem accounted_after {steps : List Step}
    (h : Obeys (fun fleet step => ¬ fleet.Strands step) {} steps) :
    (({} : Fleet).after steps).Accounted := by
  have hboth : (({} : Fleet).after steps).world.Each Runtime.Housed ∧
      (({} : Fleet).after steps).Accounted := by
    refine h.invariant (P := fun fleet => fleet.world.Each Runtime.Housed ∧ fleet.Accounted)
      sound_empty ⟨each_after lasting_housed [], accounted_empty⟩ ?_
    rintro fleet step result hs hn - ⟨hh, ha⟩
    exact ⟨each_next lasting_housed hh step, ha.next hs hh hn⟩
  exact hboth.2

/-- Once no migration is in progress, a body whose mark is accounted for has none. -/
theorem Accounted.active (h : fleet.Accounted) (hq : fleet.Quiet) {status : BodyStatus}
    (hs : fleet.status? runtime id = some status) : status = .active := by
  cases status with
  | active => rfl
  | migratingOut =>
    obtain ⟨place, shipment, hm, -, -, hp⟩ := h runtime id hs
    have hover := hq shipment (List.mem_of_getElem? hm)
    rw [shipment.not_isOver_of_isPending hp] at hover
    cases hover

/-! ## Runtimes with URLs of their own -/

theorem Distinct.not_strands (h : fleet.Distinct) (hd : fleet.Directed) :
    ¬ fleet.Strands step := by
  cases step with
  | settle i =>
    rintro ⟨shipment, hi, -, hother, hurl, -⟩
    exact hother (h (hd shipment (List.mem_of_getElem? hi)) hurl)
  | _ => exact fun hn => hn

theorem Distinct.obeys (hs : fleet.Sound) (hd : fleet.Directed) {steps : List Step}
    (h : (fleet.after steps).Distinct) :
    Obeys (fun fleet step => ¬ fleet.Strands step) fleet steps := by
  induction steps generalizing fleet with
  | nil => trivial
  | cons step steps ih =>
    exact ⟨(Distinct.of_after hs h).not_strands hd, ih (hs.next step) (hd.next hs step) h⟩

/-- No body is stuck in a run in which no two runtimes share a URL. -/
theorem active_of_distinct {steps : List Step} (h : (({} : Fleet).after steps).Distinct)
    (hq : (({} : Fleet).after steps).Quiet) {status : BodyStatus}
    (hs : (({} : Fleet).after steps).status? runtime id = some status) : status = .active :=
  (accounted_after (Distinct.obeys sound_empty directed_empty h)).active hq hs

/-! ## Stranded bodies -/

/-- The body is marked, and no migration is going to take the mark off. -/
structure Stranded (fleet : Fleet) (runtime : RuntimeId) (id : BodyId) : Prop where
  marked : fleet.Marked runtime id
  not_pending (place : Nat) : ¬ fleet.PendingAt runtime id place

/-- The step puts the body on the runtime anew, or kills its node. -/
def Frees (runtime : RuntimeId) (id : BodyId) (fleet : Fleet) (step : Step) : Prop :=
  fleet.Places runtime id step ∨ fleet.Drops runtime id step

instance (runtime : RuntimeId) (id : BodyId) : DecidableRel (Frees runtime id) :=
  fun _ _ => inferInstanceAs (Decidable (_ ∨ _))

theorem stranded_of_strands (hs : fleet.Sound) (hh : fleet.world.Each Runtime.Housed) {i : Nat}
    {shipment : Shipment} (hi : fleet.shipments[i]? = some shipment)
    (h : fleet.Strands (.settle i)) :
    (fleet.next (.settle i)).Stranded shipment.source shipment.id := by
  obtain ⟨other, ho, htaken, hother, hurl, hmark, honly⟩ := h
  cases hi.symm.trans ho
  obtain ⟨handle, hpassage⟩ : ∃ handle, shipment.passage = .answered (.ok handle) := by
    unfold Shipment.isTaken at htaken
    split at htaken
    · exact ⟨_, by assumption⟩
    · cases htaken
  constructor
  · refine (marked_next_iff hs hh).2 (.inr ⟨hmark, not_places_of_none rfl, fun h => h, ?_⟩)
    rintro ⟨other, ho, -, -, hlifts⟩
    cases hi.symm.trans ho
    rw [Lifts, hpassage] at hlifts
    exact hlifts hurl
  · rintro place ⟨later, hm, hsource, hid, hpending⟩
    cases origin hs hm with
    | before hi' hp =>
      cases hp with
      | kept hn =>
        have hlt := (List.getElem?_eq_some_iff.1 hi').1
        obtain rfl : place = i := honly place hlt ⟨_, hi', hsource, hid, hpending⟩
        cases hi.symm.trans hi'
        exact hn rfl _ hpassage
      | refused hp hd e => rcases hd with hd | ⟨e', hd⟩ <;> cases hd
      | settled hp => cases hpending

/-- Only what puts the body on the runtime anew, or kills its node, sets a stranded body free. -/
theorem Stranded.next (h : fleet.Stranded runtime id) (hs : fleet.Sound)
    (hh : fleet.world.Each Runtime.Housed) (hd : fleet.Directed)
    (hn : ¬ Frees runtime id fleet step) : (fleet.next step).Stranded runtime id := by
  constructor
  · refine (marked_next_iff hs hh).2 (.inr ⟨h.marked, fun hp => hn (.inl hp),
      fun hd => hn (.inr hd), ?_⟩)
    intro hset
    cases step with
    | settle i =>
      obtain ⟨shipment, hi, rfl, rfl, hlifts⟩ := hset
      have hpending := h.not_pending i
      cases hpassage : shipment.passage with
      | answered answer =>
        cases answer with
        | error e => exact hpending ⟨shipment, hi, rfl, rfl, by simp [Shipment.isPending, hpassage]⟩
        | ok handle =>
          rw [Lifts, hpassage] at hlifts
          by_cases hself : shipment.target.id = shipment.source
          · exact hlifts (hself ▸ hd shipment (List.mem_of_getElem? hi))
          · exact hpending
              ⟨shipment, hi, rfl, rfl, by simp [Shipment.isPending, hpassage, hself]⟩
      | _ => simp [Lifts, hpassage] at hlifts
    | _ => exact hset
  · intro place hp
    rcases hp.of_next hs with hp | hdeparts
    · exact h.not_pending place hp
    · exact h.marked.not_departs hs.world hdeparts

theorem Obeys.stranded {later : List Step}
    (h : Obeys (fun fleet step => ¬ Frees runtime id fleet step) fleet later)
    (hst : fleet.Stranded runtime id) (hs : fleet.Sound) (hh : fleet.world.Each Runtime.Housed)
    (hd : fleet.Directed) : (fleet.after later).Stranded runtime id := by
  have hall : (fleet.after later).world.Each Runtime.Housed ∧ (fleet.after later).Directed ∧
      (fleet.after later).Stranded runtime id := by
    refine h.invariant (P := fun fleet => fleet.world.Each Runtime.Housed ∧ fleet.Directed ∧
      fleet.Stranded runtime id) hs ⟨hh, hd, hst⟩ ?_
    rintro fleet step result hs hn - ⟨hh, hd, hst⟩
    exact ⟨each_next lasting_housed hh step, hd.next hs step, hst.next hs hh hd hn⟩
  exact hall.2.2

/-- After every run that strands no body, once no migration is in progress, every hosted body is
active: it can be migrated to any runtime that is there, and each new checkpoint is applied. A step
that strands a body settles a migration to another runtime of the same URL. The body is then marked
for good, and refused to migrations and checkpoints, unless it is put on the runtime anew or its
node is killed. -/
theorem active_unless_stranded (steps : List Step) :
    let fleet := ({} : Fleet).after steps
    (Obeys (fun fleet step => ¬ fleet.Strands step) {} steps → fleet.Quiet →
      ∀ runtime id status, fleet.status? runtime id = some status →
        status = .active ∧
          (∀ site target peer node, fleet.world.runtime? runtime = some site →
            site.state = .running → fleet.world.runtime? target = some peer →
            (fleet.outcome (.ship runtime target id node)).1 = .ok ()) ∧
          ∀ node snapshot sequence, snapshot.bodyId = id → fleet.world.Admits runtime node →
            ¬ fleet.HasSeen runtime id sequence →
            (fleet.outcome (.call runtime (.receiveCheckpoint node snapshot sequence))).1 =
              .ok ()) ∧
    ∀ i shipment, fleet.shipments[i]? = some shipment → fleet.Strands (.settle i) →
      shipment.target.id ≠ shipment.source ∧
        fleet.url? shipment.target.id = fleet.url? shipment.source ∧
        ∀ later, Obeys (fun fleet step => ¬ Frees shipment.source shipment.id fleet step)
            (fleet.next (.settle i)) later →
          let after := (fleet.next (.settle i)).after later
          after.Marked shipment.source shipment.id ∧
            (∀ target node,
              (after.outcome (.ship shipment.source target shipment.id node)).1 ≠ .ok ()) ∧
            ∀ node snapshot sequence, snapshot.bodyId = shipment.id →
              after.Refuses shipment.source node snapshot sequence := by
  intro fleet
  have hs : fleet.Sound := sound_after steps
  have hh : fleet.world.Each Runtime.Housed := each_after lasting_housed steps
  have hd : fleet.Directed := directed_empty.after sound_empty steps
  constructor
  · intro hn hq runtime id status hstatus
    obtain rfl : status = .active := (accounted_after hn).active hq hstatus
    refine ⟨rfl, ?_, ?_⟩
    · intro site target peer node hsite hrun hpeer
      exact (ship_eq_ok_iff hs.world).2 ⟨⟨peer, hpeer⟩, ⟨site, hsite, hrun⟩, hstatus⟩
    · rintro node snapshot sequence rfl hadmits hnew
      refine applied_of_not_hasSeen hs (inOrder_empty.after sound_empty steps) hadmits snapshot ?_
        hnew
      rw [hstatus]
      simp
  · intro i shipment hi hstrands
    have hst := stranded_of_strands hs hh hi hstrands
    obtain ⟨other, ho, -, hother, hurl, -⟩ := hstrands
    cases hi.symm.trans ho
    refine ⟨hother, (hd shipment (List.mem_of_getElem? hi)).trans hurl.symm, ?_⟩
    intro later hlater after
    have hs' := hs.next (.settle i)
    have hafter := hlater.stranded hst hs' (each_next lasting_housed hh _) (hd.next hs _)
    have hs'' : after.Sound := hs'.after later
    refine ⟨hafter.marked, ?_, ?_⟩
    · intro target node hok
      have hdeparts : after.Departs shipment.source shipment.id
          (.ship shipment.source target shipment.id node) := ⟨rfl, rfl, hok⟩
      exact hafter.marked.not_departs hs''.world hdeparts
    · rintro node snapshot sequence hid
      exact refuses_of_marked hs'' (hid ▸ hafter.marked) node sequence

/-- Two runtimes of the same URL, with a body on the first. -/
def twins (id : BodyId) : List Step :=
  [.registries (.ofList [(0, constructors)]), opening 1 1099, opening 2 1099,
    .call 1 (.createBody id "n" { className := "Empty" } true)]

/-- A body that arrived at a runtime of another URL can go on from there. One that arrived at a
runtime of the same URL cannot leave its source a second time. -/
theorem active_unless_twin :
    ((({} : Fleet).after trip).outcome (.ship 2 1 ⟨7⟩ "n")).1 = .ok () ∧
      ((({} : Fleet).after (twins ⟨7⟩ ++ [.ship 1 2 ⟨7⟩ "n", .deliver 0])).next
        (.settle 0)).Marked 1 ⟨7⟩ := by
  constructor
  · obtain ⟨hn, hq, hactive, h₁, h₂⟩ :
        Obeys (fun fleet step => ¬ fleet.Strands step) {} trip ∧
          (({} : Fleet).after trip).Quiet ∧
          (({} : Fleet).after trip).status? 2 ⟨7⟩ = some .active ∧
          ((({} : Fleet).after trip).world.runtime? 1).any (fun _ => true) ∧
          ((({} : Fleet).after trip).world.runtime? 2).any (·.state = .running) := by
      decide +kernel
    obtain ⟨peer, hpeer, -⟩ := (Option.any_eq_true _ _).1 h₁
    obtain ⟨site, hsite, hrun⟩ := (Option.any_eq_true _ _).1 h₂
    have h := (active_unless_stranded trip).1 hn hq 2 ⟨7⟩ .active hactive
    exact h.2.1 site 1 peer "n" hsite (of_decide_eq_true hrun) hpeer
  · obtain ⟨hstrands, hshipment⟩ :
        (({} : Fleet).after (twins ⟨7⟩ ++ [.ship 1 2 ⟨7⟩ "n", .deliver 0])).Strands (.settle 0) ∧
          ((({} : Fleet).after (twins ⟨7⟩ ++
            [.ship 1 2 ⟨7⟩ "n", .deliver 0])).shipments[0]?).any fun shipment =>
              shipment.source = 1 ∧ shipment.id = ⟨7⟩ := by
      decide +kernel
    obtain ⟨shipment, hi, hshipment⟩ := (Option.any_eq_true _ _).1 hshipment
    obtain ⟨hsource, hid⟩ := of_decide_eq_true hshipment
    have h := ((active_unless_stranded _).2 0 shipment hi hstrands).2.2 [] trivial
    rw [hsource, hid] at h
    exact h.1

/-- Nothing is left in progress, and yet the first of two runtimes of the same URL has the body
marked, and refuses a new checkpoint of it on the node that it is on. -/
theorem twin_stranded :
    let fleet := ({} : Fleet).after
      (twins ⟨7⟩ ++ [.ship 1 2 ⟨7⟩ "n", .deliver 0, .settle 0])
    (∀ entry ∈ fleet.history, entry.2 = .ok ()) ∧ fleet.Quiet ∧
      fleet.status? 1 ⟨7⟩ = some .migratingOut ∧ fleet.status? 2 ⟨7⟩ = some .active ∧
      (fleet.outcome (.ship 1 2 ⟨7⟩ "n")).1 = .error (.migrationInProgress ⟨7⟩) ∧
      (fleet.outcome (.call 1 (.receiveCheckpoint "n" ⟨⟨7⟩, "Empty", [1]⟩ 1))).1 =
        .error (.migrationInProgress ⟨7⟩) := by
  decide +kernel

end Fleet

end ActiveObjects

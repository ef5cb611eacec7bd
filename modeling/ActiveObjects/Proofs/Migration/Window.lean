import ActiveObjects.Proofs.Checkpoint.HandOver
import ActiveObjects.Proofs.Fleet.Progress
import ActiveObjects.Proofs.Migration.Marks
import ActiveObjects.Proofs.Runtime.Roster

/-!
# Checkpoints while a body is shipped

Between the begin of a migration and its end the source refuses the checkpoints of the body for as
long as the mark is there. A node that is killed takes the mark along with the entry, and a
migration of the body that began before takes it off when it is settled. From then on the source
restores the body under the shipment.
-/

namespace ActiveObjects.Fleet

variable {fleet : Fleet} {step : Step} {runtime : RuntimeId} {id : BodyId}

/-! ## Checkpoints of marked bodies -/

/-- The runtime refuses the checkpoint, and neither its bodies nor what it tells of them change. -/
structure Refuses (fleet : Fleet) (runtime : RuntimeId) (node : String) (snapshot : Checkpoint)
    (sequence : UInt64) : Prop where
  error : ∃ e, (fleet.outcome (.call runtime (.receiveCheckpoint node snapshot sequence))).1 =
    .error e
  bodies : (fleet.next (.call runtime (.receiveCheckpoint node snapshot sequence))).bodies =
    fleet.bodies
  listed (name : String) :
    (fleet.next (.call runtime (.receiveCheckpoint node snapshot sequence))).world.answer runtime
        (Runtime.activeObjects name) =
      fleet.world.answer runtime (Runtime.activeObjects name)

/-- A call that is not about nodes and leaves the bodies alone leaves the listings alone. -/
theorem answer_activeObjects_next (hs : fleet.Sound) {call : Call} (hn : .nodes ∉ call.footprint)
    (hb : (fleet.next (.call runtime call)).bodies = fleet.bodies) (name : String) :
    (fleet.next (.call runtime call)).world.answer runtime (Runtime.activeObjects name) =
      fleet.world.answer runtime (Runtime.activeObjects name) := by
  rcases hr : (World.act runtime (call.action (fleet.world.constructors runtime))).run
    fleet.world with ⟨result, world⟩
  have hw : (fleet.next (.call runtime call)).world = world := by simp only [next, outcome, hr]
  have hsame : world.bodies = fleet.world.bodies := by
    rw [← hw]
    exact hb
  rw [hw]
  rcases World.act_cases hs.world (call.action_touches _) call.identity_notMem_footprint hr with
    ⟨-, -, rfl⟩ | ⟨site, site', hf, hrun, rfl, hid⟩
  · rfl
  have ht := call.action_touches (fleet.world.constructors runtime) (fleet.world.site site)
  rw [hrun] at ht
  have hf' : (fleet.world.absorb site').runtime? runtime = some site'.runtime := by
    rw [World.runtime?_absorb, if_pos hid]
  have hurl : site'.runtime.url = site.url := (ht .identity call.identity_notMem_footprint).2.2.1
  have hnodes : site'.runtime.nodes = site.nodes := ht .nodes hn
  have hbodies : site'.runtime.bodies = site.bodies := by
    rw [← World.bodies_eq hf', hsame, World.bodies_eq hf]
  rw [Runtime.activeObjects, World.answer_ask hf', World.answer_ask hf]
  simp only [Runtime.node, Runtime.nodeUrl, hurl, hnodes, hbodies]

theorem refuses_of_marked (hs : fleet.Sound) {snapshot : Checkpoint}
    (hm : fleet.Marked runtime snapshot.bodyId) (node : String) (sequence : UInt64) :
    fleet.Refuses runtime node snapshot sequence := by
  rcases receiveCheckpoint_cases hs runtime node snapshot sequence with
    ⟨site, host, handle, table, -, -, hc, -, -⟩ | ⟨e, he, hb, -⟩
  · obtain ⟨hfault, -⟩ := BodyTable.checkpoint_eq_ok_iff.1 hc
    exact absurd hm (BodyTable.checkpointFault?_eq_none_iff.1 hfault).2
  · exact ⟨⟨e, he⟩, hb, answer_activeObjects_next hs (by simp [Call.footprint]) hb⟩

/-- A checkpoint that is applied puts the body into service. -/
theorem active_of_applied (hs : fleet.Sound) {node : String} {snapshot : Checkpoint}
    {sequence : UInt64}
    (hok : (fleet.outcome (.call runtime (.receiveCheckpoint node snapshot sequence))).1 = .ok ()) :
    (fleet.next (.call runtime (.receiveCheckpoint node snapshot sequence))).status? runtime
      snapshot.bodyId = some .active := by
  rcases receiveCheckpoint_cases hs runtime node snapshot sequence with
    ⟨site, host, handle, table, -, -, hc, -, hb⟩ | ⟨e, he, -, -⟩
  · rw [status?, hb, Function.update_self, BodyTable.status?_checkpoint hc, if_pos rfl]
  · cases he.symm.trans hok

/-! ## Inside a migration -/

/-- The step is the end of the migration. -/
def Ends (place : Nat) : Step → Prop
  | .settle i => i = place
  | _ => False

/-- The step is taken while the migration is in progress, and does not put the body on its source
anew. -/
def Inside (place : Nat) (runtime : RuntimeId) (id : BodyId) (fleet : Fleet) (step : Step) : Prop :=
  ¬ Ends place step ∧ ¬ fleet.Places runtime id step

/-- The step takes the mark off: it kills the node of the body, or it settles a migration of the
body, which is one that began before when it is not the end of this one. -/
def Unmarks (runtime : RuntimeId) (id : BodyId) (fleet : Fleet) (step : Step) : Prop :=
  fleet.Drops runtime id step ∨ fleet.Settles runtime id step

instance (place : Nat) : DecidablePred (Ends place)
  | .settle i => inferInstanceAs (Decidable (i = place))
  | .start _ | .naming _ | .registries _ | .call .. | .ship .. | .deliver _ | .lose .. =>
    isFalse fun h => h

instance (place : Nat) (runtime : RuntimeId) (id : BodyId) :
    DecidableRel (Inside place runtime id) :=
  fun _ _ => inferInstanceAs (Decidable (_ ∧ _))

instance (runtime : RuntimeId) (id : BodyId) : DecidableRel (Unmarks runtime id) :=
  fun _ _ => inferInstanceAs (Decidable (_ ∨ _))

theorem Unmarks.not_departs (h : Unmarks runtime id fleet step) :
    ¬ fleet.Departs runtime id step := by
  cases step with
  | ship source target shipped node =>
    rcases h with hd | hset
    · exact hd.elim
    · exact hset.elim
  | _ => exact fun hd => hd

/-- The migration at a place of the list has not been settled. -/
def Underway (fleet : Fleet) (place : Nat) (runtime : RuntimeId) (id : BodyId) : Prop :=
  ∃ shipment ∈ fleet.shipments[place]?,
    shipment.source = runtime ∧ shipment.id = id ∧ shipment.isOver = false

/-- A migration is in progress until it is settled itself. -/
theorem Underway.next {place : Nat} (h : fleet.Underway place runtime id) (hs : fleet.Sound)
    (he : ¬ Ends place step) : (fleet.next step).Underway place runtime id := by
  obtain ⟨shipment, hi, hsource, hid, hover⟩ := h
  obtain ⟨passage, hp, hm⟩ := exists_progress hs step hi
  refine ⟨_, hm, hsource, hid, ?_⟩
  cases hp with
  | kept hn => exact hover
  | taken | refused => rfl
  | settled hp => exact absurd rfl he

/-- A migration that was just begun is in progress, and the body is marked. -/
theorem underway_of_ship (hs : fleet.Sound) (hh : fleet.world.Each Runtime.Housed)
    {target : RuntimeId} {node : String}
    (hok : (fleet.outcome (.ship runtime target id node)).1 = .ok ()) :
    (fleet.next (.ship runtime target id node)).Underway fleet.shipments.length runtime id ∧
      (fleet.next (.ship runtime target id node)).Marked runtime id := by
  constructor
  · obtain ⟨peer, body, left, -, hn⟩ := shipments_of_ship hok
    rw [Underway, hn, List.getElem?_concat_length]
    exact ⟨_, rfl, rfl, rfl, rfl⟩
  · exact (marked_next_iff hs hh).2 (.inl ⟨rfl, rfl, hok⟩)

theorem Obeys.underway {place : Nat} {window : List Step}
    (h : Obeys (Inside place runtime id) fleet window) (hs : fleet.Sound)
    (hu : fleet.Underway place runtime id) : (fleet.after window).Underway place runtime id :=
  h.invariant (P := fun fleet => fleet.Underway place runtime id) hs hu
    fun hs hin _ hu => hu.next hs hin.1

/-- The mark stays as long as no step takes it off. -/
theorem Obeys.marked {place : Nat} {window : List Step}
    (h : Obeys (Inside place runtime id) fleet window)
    (hk : Obeys (fun fleet step => ¬ Unmarks runtime id fleet step) fleet window)
    (hs : fleet.Sound) (hh : fleet.world.Each Runtime.Housed) (hm : fleet.Marked runtime id) :
    (fleet.after window).world.Each Runtime.Housed ∧ (fleet.after window).Marked runtime id := by
  refine (h.and hk).invariant
    (P := fun fleet => fleet.world.Each Runtime.Housed ∧ fleet.Marked runtime id) hs ⟨hh, hm⟩ ?_
  rintro fleet step result hs ⟨hin, hkeep⟩ - ⟨hh, hm⟩
  refine ⟨each_next lasting_housed hh step, (marked_next_iff hs hh).2 (.inr ⟨hm, hin.2, ?_⟩)⟩
  exact ⟨fun hd => hkeep (.inl hd), fun hset => hkeep (.inr hset)⟩

/-- Once it is off, the mark does not come back before the body migrates again. -/
theorem Obeys.not_marked {window : List Step}
    (h : Obeys (fun fleet step => ¬ fleet.Departs runtime id step) fleet window)
    (hs : fleet.Sound) (hh : fleet.world.Each Runtime.Housed) (hm : ¬ fleet.Marked runtime id) :
    ¬ (fleet.after window).Marked runtime id := by
  have hboth : (fleet.after window).world.Each Runtime.Housed ∧
      ¬ (fleet.after window).Marked runtime id := by
    refine h.invariant
      (P := fun fleet => fleet.world.Each Runtime.Housed ∧ ¬ fleet.Marked runtime id) hs ⟨hh, hm⟩ ?_
    rintro fleet step result hs hstay - ⟨hh, hm⟩
    refine ⟨each_next lasting_housed hh step, fun hmark => ?_⟩
    rcases (marked_next_iff hs hh).1 hmark with hd | ⟨hold, -⟩
    · exact hstay hd
    · exact hm hold
  exact hboth.2

/-- From the begin of a migration on, the source refuses all checkpoints of the body and stays as it
is, exactly until the node of the body is killed or a migration of the body that began before is
settled. From then on it applies every new one on a node that it admits bodies to, and the body is
active while it is still shipped. -/
theorem refused_until_unmarked (steps : List Step) :
    let fleet := ({} : Fleet).after steps
    ∀ (source target : RuntimeId) (id : BodyId) (node : String) (window : List Step),
      let place := fleet.shipments.length
      let ship := Step.ship source target id node
      (fleet.outcome ship).1 = .ok () →
      Obeys (Inside place source id) (fleet.next ship) window →
      Obeys (fun fleet step => ¬ Unmarks source id fleet step) (fleet.next ship) window →
      let inside := (fleet.next ship).after window
      (∀ node snapshot sequence, snapshot.bodyId = id →
        inside.Refuses source node snapshot sequence) ∧
      ∀ step later, Inside place source id inside step → Unmarks source id inside step →
        Obeys (Inside place source id) (inside.next step) later →
        Obeys (fun fleet step => ¬ fleet.Departs source id step) (inside.next step) later →
        let after := (inside.next step).after later
        after.Underway place source id ∧
          ∀ node snapshot sequence, snapshot.bodyId = id → after.world.Admits source node →
            ¬ after.HasSeen source id sequence →
            let revival := Step.call source (.receiveCheckpoint node snapshot sequence)
            (after.outcome revival).1 = .ok () ∧
              (after.next revival).status? source id = some .active := by
  intro fleet source target id node window place ship hok hin hkeep inside
  have hs : fleet.Sound := sound_after steps
  have hh : fleet.world.Each Runtime.Housed := each_after lasting_housed steps
  have hs₁ : (fleet.next ship).Sound := hs.next ship
  have hh₁ := each_next lasting_housed hh ship
  obtain ⟨hunder, hmark⟩ := underway_of_ship hs hh hok
  have hs₂ : inside.Sound := hs₁.after window
  obtain ⟨hh₂, hmark₂⟩ := hin.marked hkeep hs₁ hh₁ hmark
  refine ⟨?_, ?_⟩
  · rintro node snapshot sequence rfl
    exact refuses_of_marked hs₂ hmark₂ node sequence
  intro step later hstep hoff hlater hstay after
  have hs₃ : (inside.next step).Sound := hs₂.next step
  have hmark₃ : ¬ (inside.next step).Marked source id := by
    intro hmark
    rcases (marked_next_iff hs₂ hh₂).1 hmark with hd | ⟨-, -, hd, hset⟩
    · exact hoff.not_departs hd
    · exact hoff.elim hd hset
  have hunder₃ := (hin.underway hs₁ hunder).next hs₂ hstep.1
  refine ⟨hlater.underway hs₃ hunder₃, ?_⟩
  rintro node snapshot sequence rfl hadmits hnew revival
  have hfree := hstay.not_marked hs₃ (each_next lasting_housed hh₂ step) hmark₃
  have hs₄ : after.Sound := hs₃.after later
  have ho : after.InOrder := ((((inOrder_empty.after sound_empty steps).after hs [ship]).after hs₁
    window).after hs₂ [step]).after hs₃ later
  have happlied := applied_of_not_hasSeen hs₄ ho hadmits snapshot hfree hnew
  exact ⟨happlied, active_of_applied hs₄ happlied⟩

/-- The body is shipped from a runtime with a second node. While it is, the first node is killed and
created again. -/
theorem refused_until_killed :
    let fleet := ({} : Fleet).after (pair ⟨7⟩)
    let inside := (fleet.next (.ship 1 2 ⟨7⟩ "n")).after
      [.call 1 (.createLocalNode { name := "m" })]
    let after := (inside.next (.call 1 (.killNode "n"))).after
      [.call 1 (.createLocalNode { name := "n" })]
    inside.Refuses 1 "m" ⟨⟨7⟩, "Empty", [1]⟩ 1 ∧
      (after.next (.call 1 (.receiveCheckpoint "n" ⟨⟨7⟩, "Empty", [1]⟩ 1))).status? 1 ⟨7⟩ =
        some .active := by
  intro fleet inside after
  obtain ⟨hok, hin, hkeep, hstep, hoff, hlater, hstay, hadmits, hnew⟩ :
      (fleet.outcome (.ship 1 2 ⟨7⟩ "n")).1 = .ok () ∧
        Obeys (Inside 0 1 ⟨7⟩) (fleet.next (.ship 1 2 ⟨7⟩ "n"))
          [.call 1 (.createLocalNode { name := "m" })] ∧
        Obeys (fun fleet step => ¬ Unmarks 1 ⟨7⟩ fleet step) (fleet.next (.ship 1 2 ⟨7⟩ "n"))
          [.call 1 (.createLocalNode { name := "m" })] ∧
        Inside 0 1 ⟨7⟩ inside (.call 1 (.killNode "n")) ∧
        Unmarks 1 ⟨7⟩ inside (.call 1 (.killNode "n")) ∧
        Obeys (Inside 0 1 ⟨7⟩) (inside.next (.call 1 (.killNode "n")))
          [.call 1 (.createLocalNode { name := "n" })] ∧
        Obeys (fun fleet step => ¬ fleet.Departs 1 ⟨7⟩ step) (inside.next (.call 1 (.killNode "n")))
          [.call 1 (.createLocalNode { name := "n" })] ∧
        ((after.world.runtime? 1).any fun site => (site.admission "n").isOk) ∧
        ¬ after.HasSeen 1 ⟨7⟩ 1 := by decide +kernel
  have h := refused_until_unmarked (pair ⟨7⟩) 1 2 ⟨7⟩ "n" _ hok hin hkeep
  refine ⟨h.1 "m" _ 1 rfl, ?_⟩
  obtain ⟨site, hsite, hadmits⟩ := (Option.any_eq_true _ _).1 hadmits
  cases ha : site.admission "n" with
  | error e =>
    rw [ha] at hadmits
    cases hadmits
  | ok host =>
    obtain ⟨-, hrevived⟩ := h.2 _ _ hstep hoff hlater hstay
    exact (hrevived "n" ⟨⟨7⟩, "Empty", [1]⟩ 1 rfl ⟨site, host, hsite, ha⟩ hnew).2

/-- Nothing takes the body in again while it is shipped, and yet the source applies a checkpoint of
it once its node was killed and created anew. -/
theorem revived_in_transit :
    let fleet := ({} : Fleet).after (pair ⟨7⟩)
    let ship := Step.ship 1 2 ⟨7⟩ "n"
    let window := [Step.call 1 (.killNode "n"), .call 1 (.createLocalNode { name := "n" })]
    let revival := Step.call 1 (.receiveCheckpoint "n" ⟨⟨7⟩, "Empty", [1]⟩ 1)
    let inside := (fleet.next ship).after window
    (∀ entry ∈ (inside.next revival).history, entry.2 = .ok ()) ∧
      Obeys (Inside 0 1 ⟨7⟩) (fleet.next ship) (window ++ [revival]) ∧
      inside.status? 1 ⟨7⟩ = none ∧ (inside.next revival).status? 1 ⟨7⟩ = some .active ∧
      (inside.bodies 1).lastCheckpoint? ⟨7⟩ ≠
        ((inside.next revival).bodies 1).lastCheckpoint? ⟨7⟩ := by
  decide +kernel

end ActiveObjects.Fleet

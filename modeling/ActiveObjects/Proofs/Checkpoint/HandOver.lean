import ActiveObjects.Proofs.Checkpoint.Order
import ActiveObjects.Proofs.Migration.Uniqueness
import ActiveObjects.Proofs.Migration.Whole

/-!
# Checkpoints across migrations

Sequence numbers stay behind when a body migrates: the target goes by the checkpoints that it
applied itself. So it refuses what is stale for the source exactly as far as it had seen it before,
and over a run the sequence numbers are increasing if each target had seen as much as the source.
-/

namespace ActiveObjects.Fleet

variable {fleet fleet' : Fleet} {step : Step} {result : Except RuntimeError Unit}
  {runtime : RuntimeId} {id : BodyId} {sequence : UInt64}

/-- The runtime applied a checkpoint of the body that is at least as new. -/
def HasSeen (fleet : Fleet) (runtime : RuntimeId) (id : BodyId) (sequence : UInt64) : Prop :=
  ∃ last ∈ fleet.appliedAt runtime id, sequence ≤ last

instance (fleet : Fleet) (runtime : RuntimeId) (id : BodyId) :
    DecidablePred (fleet.HasSeen runtime id) :=
  fun sequence => inferInstanceAs (Decidable (∃ last ∈ _, sequence ≤ last))

/-- The runtime refuses the checkpoints of the body up to this one as stale, on every node that it
admits bodies to, and keeps its bodies. -/
def Outdated (fleet : Fleet) (runtime : RuntimeId) (id : BodyId) (newest : UInt64) : Prop :=
  ∀ node snapshot sequence, snapshot.bodyId = id → sequence ≤ newest →
    fleet.world.Admits runtime node →
    (∃ last, (fleet.outcome (.call runtime (.receiveCheckpoint node snapshot sequence))).1 =
        .error (.staleCheckpoint id sequence last)) ∧
      (fleet.next (.call runtime (.receiveCheckpoint node snapshot sequence))).bodies =
        fleet.bodies

/-! ## What a runtime has seen -/

theorem InOrder.hasSeen_iff (ho : fleet.InOrder) :
    fleet.HasSeen runtime id sequence ↔
      ∃ last, (fleet.bodies runtime).lastCheckpoint? id = some last ∧ sequence ≤ last := by
  rw [← ho.last]
  constructor
  · rintro ⟨seen, hm, hle⟩
    cases hl : (fleet.appliedAt runtime id).getLast? with
    | none =>
      rw [List.getLast?_eq_none_iff.1 hl] at hm
      cases hm
    | some last =>
      exact ⟨last, rfl, UInt64.le_trans hle (le_getLast (ho.pairwise runtime id) hm hl)⟩
  · rintro ⟨last, hl, hle⟩
    exact ⟨last, List.mem_of_getLast? hl, hle⟩

theorem Advance.hasSeen (h : fleet.Advance step result fleet')
    (hs : fleet.HasSeen runtime id sequence) : fleet'.HasSeen runtime id sequence := by
  obtain ⟨last, hm, hle⟩ := hs
  refine ⟨last, ?_, hle⟩
  rw [appliedAt, h.applied_eq, List.filterMap_append]
  exact List.mem_append_left _ hm

theorem HasSeen.after (h : fleet.HasSeen runtime id sequence) (hs : fleet.Sound)
    (steps : List Step) : (fleet.after steps).HasSeen runtime id sequence :=
  invariant_after (P := fun fleet => fleet.HasSeen runtime id sequence) hs h
    (fun _ ha h => ha.hasSeen h) steps

/-- Checkpoints that a runtime has seen are stale there. -/
theorem HasSeen.outdated (h : fleet.HasSeen runtime id sequence) (hs : fleet.Sound)
    (ho : fleet.InOrder) : fleet.Outdated runtime id sequence := by
  rintro node snapshot received rfl hle ⟨site, host, hf, ha⟩
  obtain ⟨last, hl, hlast⟩ := ho.hasSeen_iff.1 h
  have hc (url : Url) : (fleet.bodies runtime).checkpoint url snapshot received =
      .error (.staleCheckpoint snapshot.bodyId received last) :=
    BodyTable.checkpoint_of_stale hl (UInt64.le_trans hle hlast)
  rcases receiveCheckpoint_cases hs runtime node snapshot received with
    ⟨site', host', handle, table, -, -, hc', -, -⟩ | ⟨e, he, hb, hspec⟩
  · rw [hc] at hc'
    cases hc'
  · have hstale := hspec site hf
    rw [ha] at hstale
    cases (hc host.url).symm.trans hstale
    exact ⟨⟨last, he⟩, hb⟩

theorem not_outdated_of_applied (hs : fleet.Sound) {node : String} {snapshot : Checkpoint}
    {newest : UInt64} (hle : sequence ≤ newest)
    (hok : (fleet.outcome (.call runtime (.receiveCheckpoint node snapshot sequence))).1 = .ok ()) :
    ¬ fleet.Outdated runtime snapshot.bodyId newest := by
  intro h
  rcases receiveCheckpoint_cases hs runtime node snapshot sequence with
    ⟨site, host, _, _, hf, ha, -, -, -⟩ | ⟨e, he, -, -⟩
  · obtain ⟨⟨last, he⟩, -⟩ := h node snapshot sequence rfl hle ⟨site, host, hf, ha⟩
    cases he.symm.trans hok
  · cases he.symm.trans hok

/-- A checkpoint that is new to a runtime is applied there. -/
theorem applied_of_not_hasSeen (hs : fleet.Sound) (ho : fleet.InOrder) {node : String}
    (ha : fleet.world.Admits runtime node) (snapshot : Checkpoint)
    (hm : fleet.status? runtime snapshot.bodyId ≠ some .migratingOut)
    (hn : ¬ fleet.HasSeen runtime snapshot.bodyId sequence) :
    (fleet.outcome (.call runtime (.receiveCheckpoint node snapshot sequence))).1 = .ok () := by
  obtain ⟨site, host, hf, ha⟩ := ha
  rcases receiveCheckpoint_cases hs runtime node snapshot sequence with
    ⟨_, _, _, _, -, -, -, hok, -⟩ | ⟨e, -, -, hspec⟩
  · exact hok
  · have hfault : (fleet.bodies runtime).checkpointFault? snapshot.bodyId sequence = none := by
      refine BodyTable.checkpointFault?_eq_none_iff.2 ⟨?_, hm⟩
      intro last hl
      refine UInt64.not_le.1 fun hle => hn ?_
      exact ho.hasSeen_iff.2 ⟨last, hl, hle⟩
    have he := hspec site hf
    simp [ha, BodyTable.checkpoint, hfault, bind, Except.bind] at he

/-! ## One migration -/

theorem appliedAt_after (hs : fleet.Sound) {steps : List Step}
    (h : ∀ step ∈ steps, ∀ result, applied? (step, result) = none) :
    (fleet.after steps).appliedAt runtime id = fleet.appliedAt runtime id := by
  induction steps generalizing fleet with
  | nil => rfl
  | cons step steps ih =>
    obtain ⟨result, ha⟩ := next_advance hs.world step
    calc ((fleet.next step).after steps).appliedAt runtime id
      _ = (fleet.next step).appliedAt runtime id :=
        ih (ha.sound hs) fun other ho => h other (List.mem_cons_of_mem _ ho)
      _ = fleet.appliedAt runtime id := ha.appliedAt_of_none (h step (by simp) result) _ _

theorem hasSeen_after_migration (hs : fleet.Sound) (source target : RuntimeId) (moved : BodyId)
    (node : String) :
    (fleet.after (fleet.migration source target moved node)).HasSeen runtime id sequence ↔
      fleet.HasSeen runtime id sequence := by
  rw [HasSeen, HasSeen, appliedAt_after hs]
  simp [migration, applied?]

/-- After a migration, checkpoints are stale at the target for good exactly if it had seen them
before the migration. -/
theorem outdated_after_migration (hs : fleet.Sound) (ho : fleet.InOrder) {source : RuntimeHandle}
    {target : RuntimeId} {peer : Runtime} {node : String} {handle : BodyHandle} {world : World}
    (ht : fleet.world.runtime? target = some peer)
    (hr : (World.migrateBody source peer.handle id node).run fleet.world = (.ok handle, world)) :
    (∀ later, ((fleet.after (fleet.migration source.id target id node)).after later).Outdated
        target id sequence) ↔
      fleet.HasSeen target id sequence := by
  have hs' := hs.after (fleet.migration source.id target id node)
  have ho' := ho.after hs (fleet.migration source.id target id node)
  constructor
  · intro h
    by_contra hn
    have hw : _ = world := (after_migration ht source id node).trans (congrArg Prod.snd hr)
    obtain ⟨ha, hm⟩ := World.migrateBody_arrives hs.world hs.bodies hr
    rw [← hw, Runtime.handle, hs.world target peer ht] at ha hm
    have hnew (h : (fleet.after (fleet.migration source.id target id node)).HasSeen target id
        sequence) : False := hn ((hasSeen_after_migration hs source.id target id node).1 h)
    have hok := applied_of_not_hasSeen hs' ho' ha ⟨id, "", []⟩ hm hnew
    exact not_outdated_of_applied hs' (UInt64.le_refl _) hok (h [])
  · intro h later
    have hseen := (hasSeen_after_migration hs source.id target id node).2 h
    exact (hseen.after hs' later).outdated (hs'.after later) (ho'.after hs' later)

/-! ## Runs -/

/-- A body is delivered only to a runtime that has seen the checkpoints that its source applied. -/
def Abreast (fleet : Fleet) : Step → Prop
  | .deliver i =>
    ∀ shipment ∈ fleet.shipments[i]?, ∀ sequence ∈ fleet.appliedAt shipment.source shipment.id,
      fleet.HasSeen shipment.target.id shipment.id sequence
  | _ => True

instance : DecidableRel Abreast
  | fleet, .deliver i =>
    inferInstanceAs (Decidable (∀ shipment ∈ fleet.shipments[i]?,
      ∀ sequence ∈ fleet.appliedAt shipment.source shipment.id,
        fleet.HasSeen shipment.target.id shipment.id sequence))
  | _, .start _ | _, .naming _ | _, .registries _ | _, .call .. | _, .ship .. | _, .lose ..
  | _, .settle _ => isTrue trivial

/-- The checkpoints of a body are in order, and whoever holds the body has seen them all. -/
structure Followed (fleet : Fleet) : Prop where
  created (id : BodyId) : fleet.appliedTo id ≠ [] → id ∈ fleet.created
  pairwise (id : BodyId) : (fleet.appliedTo id).Pairwise (· < ·)
  seen (id : BodyId) (x : Holder) (runtime : RuntimeId) : fleet.Holds id x →
    home fleet.shipments x = some runtime →
    ∀ sequence ∈ fleet.appliedTo id, fleet.HasSeen runtime id sequence

theorem followed_empty : ({} : Fleet).Followed where
  created id h := absurd rfl h
  pairwise id := by simp [appliedTo, applied]
  seen id x runtime hx := absurd hx (holds_empty id x)

theorem Advance.appliedTo_of_none (h : fleet.Advance step result fleet')
    (hn : applied? (step, result) = none) (id : BodyId) :
    fleet'.appliedTo id = fleet.appliedTo id := by
  rw [appliedTo, h.applied_eq, hn]
  simp [appliedTo]

theorem Advance.appliedTo_of_some (h : fleet.Advance step result fleet') {place : RuntimeId}
    {snapshot : Checkpoint} (ha : applied? (step, result) = some (place, snapshot, sequence))
    (id : BodyId) :
    fleet'.appliedTo id =
      if snapshot.bodyId = id then fleet.appliedTo id ++ [sequence] else fleet.appliedTo id := by
  rw [appliedTo, h.applied_eq, ha, List.filterMap_append]
  split <;> simp [appliedTo, *]

/-- A checkpoint that is applied finds or puts the body on the runtime. -/
theorem Advance.holds_of_applied (h : fleet.Advance step result fleet') {place : RuntimeId}
    {snapshot : Checkpoint} (ha : applied? (step, result) = some (place, snapshot, sequence)) :
    fleet'.Holds snapshot.bodyId (.runtime place) := by
  obtain ⟨host, handle, table, hc, ht⟩ := h.transition.checkpoint_of_applied ha
  rw [Holds, ht, heldBy_update, if_pos rfl, BodyTable.status?_checkpoint hc, if_pos rfl]

/-- Whoever holds a body next has seen all checkpoints of it that were applied so far. -/
theorem Advance.seen (h : fleet.Advance step result fleet') (hs : fleet.Sound)
    (ho : fleet.Orderly step) (hb : fleet.Abreast step) (hf : fleet.Followed) {x : Holder}
    (hx : fleet'.Holds id x) (hh : home fleet'.shipments x = some runtime) :
    ∀ sequence ∈ fleet.appliedTo id, fleet.HasSeen runtime id sequence := by
  have stays (hx : fleet.Holds id x) :
      ∀ sequence ∈ fleet.appliedTo id, fleet.HasSeen runtime id sequence :=
    hf.seen id x runtime hx ((h.transition.home_eq hx).symm.trans hh)
  cases h.transition.handover hs id with
  | unchanged hl result hiff => exact stays ((hiff x).1 hx)
  | @moved _ _ hl result giver taker hr hg hiff =>
    rcases (hiff x).1 hx with rfl | ⟨hx, -⟩
    · rcases h.transition.home_of_route hr hx with same | ⟨i, shipment, rfl, hi, rfl, rfl⟩
      · exact hf.seen id giver runtime hg (same.symm.trans hh)
      · cases hh
        have ⟨other, hi', hid, _⟩ := hg
        cases hi.symm.trans hi'
        subst hid
        intro sequence hm
        obtain ⟨last, hl, hle⟩ := hf.seen shipment.id (.shipment i) shipment.source hg
          (by simp [home, hi]) sequence hm
        obtain ⟨newer, hn, hle'⟩ := hb shipment hi last hl
        exact ⟨newer, hn, UInt64.le_trans hle hle'⟩
    · exact stays hx
  | entered he taker hiff =>
    have hnone : fleet.appliedTo id = [] := by
      by_contra hne
      exact (he.created_of_orderly ho).1 (hf.created id hne)
    intro sequence hm
    rw [hnone] at hm
    cases hm
  | killed hk result hiff => exact stays (hiff x hx)
  | lost hl result giver hg hiff => exact stays ((hiff x).1 hx).1

theorem Advance.followed (h : fleet.Advance step result fleet') (hs : fleet.Sound)
    (ho : fleet.Orderly step) (hb : fleet.Abreast step) (hi : fleet'.InOrder)
    (hu : fleet'.HeldOnce) (hf : fleet.Followed) : fleet'.Followed := by
  cases ha : applied? (step, result) with
  | none =>
    constructor
    · intro id hne
      rw [h.appliedTo_of_none ha] at hne
      exact h.mem_created (hf.created id hne)
    · intro id
      rw [h.appliedTo_of_none ha]
      exact hf.pairwise id
    · intro id x runtime hx hh sequence hm
      rw [h.appliedTo_of_none ha] at hm
      exact h.hasSeen (h.seen hs ho hb hf hx hh sequence hm)
  | some entry =>
    obtain ⟨place, snapshot, newest⟩ := entry
    have hplace := h.holds_of_applied ha
    have hto := h.appliedTo_of_some ha snapshot.bodyId
    have hat := h.appliedAt_of_some ha place snapshot.bodyId
    rw [if_pos rfl] at hto
    rw [if_pos ⟨rfl, rfl⟩] at hat
    have hnew : ∀ sequence ∈ fleet.appliedTo snapshot.bodyId, sequence < newest := by
      intro sequence hm
      obtain ⟨last, hl, hle⟩ := h.seen hs ho hb hf hplace rfl sequence hm
      have hp := hi.pairwise place snapshot.bodyId
      rw [hat] at hp
      exact UInt64.lt_of_le_of_lt hle ((List.pairwise_append.1 hp).2.2 last hl newest (by simp))
    constructor
    · intro id hne
      by_cases hid : snapshot.bodyId = id
      · exact hid ▸ hu.created _ _ hplace
      · rw [h.appliedTo_of_some ha, if_neg hid] at hne
        exact h.mem_created (hf.created id hne)
    · intro id
      rw [h.appliedTo_of_some ha]
      split
      · rename_i hid
        subst hid
        apply pairwise_concat (hf.pairwise _)
        intro last hl
        exact hnew last (List.mem_of_getLast? hl)
      · exact hf.pairwise id
    · intro id x runtime hx hh sequence hm
      have hold (hm : sequence ∈ fleet.appliedTo id) : fleet'.HasSeen runtime id sequence :=
        h.hasSeen (h.seen hs ho hb hf hx hh sequence hm)
      by_cases hid : snapshot.bodyId = id
      · subst hid
        rw [hto, List.mem_append, List.mem_singleton] at hm
        rcases hm with hm | rfl
        · exact hold hm
        · cases hu.unique _ _ _ hx hplace
          cases hh
          exact ⟨sequence, by simp [hat], UInt64.le_refl _⟩
      · rw [h.appliedTo_of_some ha, if_neg hid] at hm
        exact hold hm

theorem followed_after {steps : List Step} (ho : Obeys Orderly {} steps)
    (hb : Obeys Abreast {} steps) : (({} : Fleet).after steps).Followed := by
  have hp : (({} : Fleet).after steps).InOrder ∧ (({} : Fleet).after steps).HeldOnce ∧
      (({} : Fleet).after steps).Followed := by
    refine (ho.and hb).invariant
      (P := fun fleet => fleet.InOrder ∧ fleet.HeldOnce ∧ fleet.Followed) sound_empty
      ⟨inOrder_empty, heldOnce_empty, followed_empty⟩ ?_
    rintro fleet step result hs ⟨ho, hb⟩ ha ⟨hi, hu, hf⟩
    have hi' := ha.inOrder hi
    have hu' := ha.heldOnce hs ho hu
    exact ⟨hi', hu', ha.followed hs ho hb hi' hu' hf⟩
  exact hp.2.2

/-- After every run: when a body migrated, its checkpoints up to a sequence number are stale at the
target for good if and only if the target itself had applied one at least as new before. And the
checkpoints of a body are in order, wherever it was, if the run is orderly and bodies were delivered
only to runtimes that had seen the checkpoints that the source applied. -/
theorem outdated_iff_hasSeen (steps : List Step) :
    let fleet := ({} : Fleet).after steps
    (∀ (source : RuntimeHandle) target peer id node handle world,
        fleet.world.runtime? target = some peer →
        (World.migrateBody source peer.handle id node).run fleet.world = (.ok handle, world) →
        let fleet' := fleet.after (fleet.migration source.id target id node)
        fleet'.world = world ∧
          ∀ sequence, (∀ later, (fleet'.after later).Outdated target id sequence) ↔
            fleet.HasSeen target id sequence) ∧
      (Obeys Orderly {} steps → Obeys Abreast {} steps →
        ∀ id, (fleet.appliedTo id).Pairwise (· < ·)) := by
  intro fleet
  have hs : fleet.Sound := sound_after steps
  have ho : fleet.InOrder := inOrder_empty.after sound_empty steps
  constructor
  · intro source target peer id node handle world ht hr
    refine ⟨(after_migration ht source id node).trans (congrArg Prod.snd hr), ?_⟩
    intro sequence
    exact outdated_after_migration hs ho ht hr
  · intro ho hb
    exact (followed_after ho hb).pairwise

/-- The first of two runtimes applies a checkpoint of its body. -/
def marked (id : BodyId) : List Step :=
  pair id ++ [.call 1 (.receiveCheckpoint "n" ⟨id, "Empty", [1]⟩ 5)]

/-- Once the body migrated, the second runtime applies an older checkpoint. -/
theorem older_checkpoint_applied :
    let fleet := ({} : Fleet).after (marked ⟨7⟩)
    let fleet' := fleet.after (fleet.migration 1 2 ⟨7⟩ "n")
    let step := Step.call 2 (.receiveCheckpoint "n" ⟨⟨7⟩, "Empty", [2]⟩ 3)
    Obeys Orderly {} (marked ⟨7⟩ ++ fleet.migration 1 2 ⟨7⟩ "n" ++ [step]) ∧
      (∀ entry ∈ (fleet'.next step).history, entry.2 = .ok ()) ∧
      5 ∈ fleet.appliedAt 1 ⟨7⟩ ∧ ¬ fleet'.Outdated 2 ⟨7⟩ 5 ∧
      (fleet'.next step).appliedTo ⟨7⟩ = [5, 3] := by
  intro fleet fleet' step
  have hrun : Obeys Orderly {} (marked ⟨7⟩ ++ fleet.migration 1 2 ⟨7⟩ "n" ++ [step]) ∧
      (∀ entry ∈ (fleet'.next step).history, entry.2 = .ok ()) ∧ 5 ∈ fleet.appliedAt 1 ⟨7⟩ ∧
      (fleet'.outcome step).1 = .ok () ∧ (fleet'.next step).appliedTo ⟨7⟩ = [5, 3] := by
    decide +kernel
  obtain ⟨ho, hall, hm, hok, hto⟩ := hrun
  have hs : fleet'.Sound := (sound_after (marked ⟨7⟩)).after (fleet.migration 1 2 ⟨7⟩ "n")
  exact ⟨ho, hall, hm, not_outdated_of_applied hs (by decide) hok, hto⟩

/-- The way back home: there the checkpoint that was applied first stays stale. -/
theorem outdated_at_home :
    let fleet := ({} : Fleet).after (marked ⟨7⟩ ++ [.ship 1 2 ⟨7⟩ "n", .deliver 0, .settle 0])
    (∀ later, ((fleet.after (fleet.migration 2 1 ⟨7⟩ "n")).after later).Outdated 1 ⟨7⟩ 5) ∧
      ((({} : Fleet).after (marked ⟨7⟩)).appliedTo ⟨7⟩).Pairwise (· < ·) := by
  intro fleet
  obtain ⟨hok, hseen, ho, hb⟩ :
      ((fleet.world.runtime? 2).any fun source => (fleet.world.runtime? 1).any fun peer =>
          ((World.migrateBody source.handle peer.handle ⟨7⟩ "n").run fleet.world).1.isOk) ∧
        fleet.HasSeen 1 ⟨7⟩ 5 ∧ Obeys Orderly {} (marked ⟨7⟩) ∧ Obeys Abreast {} (marked ⟨7⟩) := by
    decide +kernel
  refine ⟨?_, (outdated_iff_hasSeen (marked ⟨7⟩)).2 ho hb ⟨7⟩⟩
  obtain ⟨source, hsource, hok⟩ := (Option.any_eq_true _ _).1 hok
  obtain ⟨peer, hpeer, hok⟩ := (Option.any_eq_true _ _).1 hok
  rcases hr : (World.migrateBody source.handle peer.handle ⟨7⟩ "n").run fleet.world with
    ⟨_ | handle, world⟩
  · rw [hr] at hok
    cases hok
  · have h := (outdated_iff_hasSeen _).1 source.handle 1 peer ⟨7⟩ "n" handle world hpeer hr
    rw [Runtime.handle, (sound_after _).world 2 source hsource] at h
    exact (h.2 5).2 hseen

end ActiveObjects.Fleet

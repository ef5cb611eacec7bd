import ActiveObjects.Proofs.Fleet.Invariant

/-!
# Checkpoints on one runtime

The sequence numbers of the checkpoints of a body that a runtime applies are increasing, for the
table of the last ones outlives the body. A checkpoint that is applied puts the body on the
addressed node as it was saved; one that is refused changes no body.
-/

namespace ActiveObjects.Fleet

open Function (update)

variable {fleet fleet' : Fleet} {step : Step} {result : Except RuntimeError Unit}

theorem le_getLast {xs : List UInt64} {x last : UInt64} (h : xs.Pairwise (· < ·)) (hx : x ∈ xs)
    (hl : xs.getLast? = some last) : x ≤ last := by
  obtain ⟨front, rfl⟩ := List.getLast?_eq_some_iff.1 hl
  rcases List.mem_append.1 hx with hx | hx
  · exact UInt64.le_of_lt ((List.pairwise_append.1 h).2.2 x hx last (by simp))
  · rw [List.mem_singleton.1 hx]
    exact UInt64.le_refl last

theorem pairwise_concat {xs : List UInt64} {x : UInt64} (h : xs.Pairwise (· < ·))
    (hl : ∀ last, xs.getLast? = some last → last < x) : (xs ++ [x]).Pairwise (· < ·) := by
  refine List.pairwise_append.2 ⟨h, by simp, ?_⟩
  intro a ha b hb
  rw [List.mem_singleton.1 hb]
  cases hlast : xs.getLast? with
  | none =>
    rw [List.getLast?_eq_none_iff.1 hlast] at ha
    cases ha
  | some last => exact UInt64.lt_of_le_of_lt (le_getLast h ha hlast) (hl last hlast)

/-! ## What steps do to sequence numbers -/

/-- A step that applies no checkpoint leaves the last sequence numbers as they are. -/
theorem Transition.lastCheckpoint?_eq {tables : RuntimeId → BodyTable} {shipments : List Shipment}
    (h : fleet.Transition step result tables shipments) (hn : applied? (step, result) = none)
    (runtime : RuntimeId) (id : BodyId) :
    (tables runtime).lastCheckpoint? id = (fleet.bodies runtime).lastCheckpoint? id := by
  cases h with
  | idle step result hc hs => rfl
  | called hr he =>
    refine World.lastCheckpoint?_update ?_ runtime
    rw [bodies, World.bodies_eq hr]
    cases he with
    | kept call result hk => rfl
    | refused call e => rfl
    | shed result hk hs => exact hs.lastCheckpoint? id
    | created ha hc => rfl
    | received ha => rfl
    | restored ha hc => cases hn
  | shipped hb => exact World.lastCheckpoint?_update (by rfl) runtime
  | delivered hs hp host handle => exact World.lastCheckpoint?_update (by rfl) runtime
  | failed hs hp step hd result e => rfl
  | returned hs hp result => exact World.lastCheckpoint?_update (by rfl) runtime
  | dropped hs hp hr hu result => exact World.lastCheckpoint?_update (by rfl) runtime
  | stayed hs hp hu result => rfl

/-- A step that applies a checkpoint does so at one runtime. -/
theorem Transition.checkpoint_of_applied {tables : RuntimeId → BodyTable}
    {shipments : List Shipment} (h : fleet.Transition step result tables shipments)
    {runtime : RuntimeId} {snapshot : Checkpoint} {sequence : UInt64}
    (ha : applied? (step, result) = some (runtime, snapshot, sequence)) :
    ∃ host handle table,
      (fleet.bodies runtime).checkpoint host snapshot sequence = .ok (handle, table) ∧
        tables = update fleet.bodies runtime table := by
  cases h with
  | idle step result hc hs =>
    unfold applied? at ha
    split at ha
    · rename_i he
      cases he
      obtain ⟨e, he⟩ := hc _ _ rfl
      cases he
    · cases ha
  | @called place call result site table hr he =>
    cases he with
    | kept call result hk => cases call <;> simp [applied?, Call.footprint] at ha hk
    | shed result hk hs => cases call <;> simp [applied?, Call.kills] at ha hk
    | restored _ hc =>
      cases ha
      rw [← World.bodies_eq hr] at hc
      exact ⟨_, _, _, hc, rfl⟩
    | _ => simp [applied?] at ha
  | failed hs hp step hd result e => rcases hd with rfl | ⟨e, rfl⟩ <;> simp [applied?] at ha
  | _ => simp [applied?] at ha

/-! ## Order -/

/-- The table of a runtime knows the last checkpoint that it applied, and all of them are in
order. -/
structure InOrder (fleet : Fleet) : Prop where
  last (runtime : RuntimeId) (id : BodyId) :
    (fleet.appliedAt runtime id).getLast? = (fleet.bodies runtime).lastCheckpoint? id
  pairwise (runtime : RuntimeId) (id : BodyId) : (fleet.appliedAt runtime id).Pairwise (· < ·)

theorem inOrder_empty : ({} : Fleet).InOrder where
  last runtime id := by
    have h : ({} : Fleet).bodies runtime = {} := World.bodies_eq_empty (by simp [World.runtime?])
    simp [h, appliedAt, applied]
  pairwise runtime id := by simp [appliedAt, applied]

theorem Advance.appliedAt_of_none (h : fleet.Advance step result fleet')
    (hn : applied? (step, result) = none) (runtime : RuntimeId) (id : BodyId) :
    fleet'.appliedAt runtime id = fleet.appliedAt runtime id := by
  rw [appliedAt, h.applied_eq, hn]
  simp [appliedAt]

theorem Advance.appliedAt_of_some (h : fleet.Advance step result fleet') {place : RuntimeId}
    {snapshot : Checkpoint} {sequence : UInt64}
    (ha : applied? (step, result) = some (place, snapshot, sequence)) (runtime : RuntimeId)
    (id : BodyId) :
    fleet'.appliedAt runtime id =
      if place = runtime ∧ snapshot.bodyId = id then fleet.appliedAt runtime id ++ [sequence]
      else fleet.appliedAt runtime id := by
  rw [appliedAt, h.applied_eq, ha, List.filterMap_append]
  split <;> simp [appliedAt, *]

theorem Advance.inOrder (h : fleet.Advance step result fleet') (hf : fleet.InOrder) :
    fleet'.InOrder := by
  cases ha : applied? (step, result) with
  | none =>
    constructor
    · intro runtime id
      rw [h.appliedAt_of_none ha, hf.last, h.transition.lastCheckpoint?_eq ha]
    · intro runtime id
      rw [h.appliedAt_of_none ha]
      exact hf.pairwise runtime id
  | some entry =>
    obtain ⟨place, snapshot, sequence⟩ := entry
    obtain ⟨host, handle, table, hc, ht⟩ := h.transition.checkpoint_of_applied ha
    constructor
    · intro runtime id
      rw [h.appliedAt_of_some ha, ht, Function.update_apply]
      by_cases hp : place = runtime
      · subst hp
        rw [if_pos rfl, BodyTable.lastCheckpoint?_checkpoint hc]
        by_cases hi : snapshot.bodyId = id
        · simp [hi]
        · simp [hi, hf.last]
      · simp [hp, Ne.symm hp, hf.last]
    · intro runtime id
      rw [h.appliedAt_of_some ha]
      split
      · rename_i hp
        obtain ⟨rfl, rfl⟩ := hp
        apply pairwise_concat (hf.pairwise _ _)
        intro last hl
        rw [hf.last] at hl
        obtain ⟨hfault, -⟩ := BodyTable.checkpoint_eq_ok_iff.1 hc
        exact (BodyTable.checkpointFault?_eq_none_iff.1 hfault).1 last hl
      · exact hf.pairwise runtime id

theorem InOrder.after (ho : fleet.InOrder) (hs : fleet.Sound) (steps : List Step) :
    (fleet.after steps).InOrder :=
  invariant_after (P := InOrder) hs ho (fun _ ha ho => ha.inOrder ho) steps

/-! ## One checkpoint -/

/-- A checkpoint is applied by a runtime that is there and admits bodies to the node, or it is
refused and no bodies change. -/
theorem receiveCheckpoint_cases (hs : fleet.Sound) (runtime : RuntimeId) (node : String)
    (snapshot : Checkpoint) (sequence : UInt64) :
    (∃ site host handle table, fleet.world.runtime? runtime = some site ∧
        site.admission node = .ok host ∧
        (fleet.bodies runtime).checkpoint host.url snapshot sequence = .ok (handle, table) ∧
        (fleet.outcome (.call runtime (.receiveCheckpoint node snapshot sequence))).1 = .ok () ∧
        (fleet.next (.call runtime (.receiveCheckpoint node snapshot sequence))).bodies =
          update fleet.bodies runtime table) ∨
      ∃ e, (fleet.outcome (.call runtime (.receiveCheckpoint node snapshot sequence))).1 =
          .error e ∧
        (fleet.next (.call runtime (.receiveCheckpoint node snapshot sequence))).bodies =
          fleet.bodies ∧
        ∀ site, fleet.world.runtime? runtime = some site →
          (site.admission node >>= fun host =>
            (fleet.bodies runtime).checkpoint host.url snapshot sequence) = .error e := by
  rcases hr : (World.act runtime (Call.action (fleet.world.constructors runtime)
    (.receiveCheckpoint node snapshot sequence))).run fleet.world with ⟨result, world⟩
  have ho : (fleet.outcome (.call runtime (.receiveCheckpoint node snapshot sequence))).1 =
      result := by simp only [outcome, hr]
  have hb : (fleet.next (.call runtime (.receiveCheckpoint node snapshot sequence))).bodies =
      world.bodies := by
    unfold next outcome
    simp only [hr]
    rfl
  rw [ho, hb]
  rcases World.act_cases hs.world (Call.action_touches _ _) (Call.identity_notMem_footprint _) hr
    with ⟨hn, rfl, rfl⟩ | ⟨site, site', hf, hrun, rfl, hi⟩
  · refine .inr ⟨_, rfl, rfl, ?_⟩
    intro site hf
    rw [hn] at hf
    cases hf
  · have hown : fleet.bodies runtime = site.bodies := World.bodies_eq hf
    rw [World.bodies_absorb hi, hown]
    rcases (performs_receiveCheckpoint node snapshot sequence).cases hrun with
      ⟨handle, rfl, hspec⟩ | ⟨e, rfl, hspec, hsame⟩
    · obtain ⟨host, ha, hc⟩ := bind_eq_ok_iff.1 hspec
      exact .inl ⟨site, host, handle, _, hf, ha, hc, rfl, rfl⟩
    · refine .inr ⟨e, rfl, ?_, ?_⟩
      · rw [hsame]
        exact (congrArg (update _ runtime) hown.symm).trans (Function.update_eq_self _ _)
      · intro other ho
        rw [hf] at ho
        cases ho
        exact hspec

/-- Why a checkpoint that is new can be refused. -/
theorem refusal_of_newer {site : Runtime} {node : String} {table : BodyTable}
    {snapshot : Checkpoint} {sequence : UInt64} {e : RuntimeError}
    (h : (site.admission node >>= fun host => table.checkpoint host.url snapshot sequence) =
      .error e)
    (hl : ∀ last, table.lastCheckpoint? snapshot.bodyId = some last → last < sequence) :
    site.state ≠ .running ∨ (∃ e, site.nodeUrl node = .error e) ∨
      (∃ url, site.nodeUrl node = .ok url ∧ url ∉ site.nodes) ∨
      table.status? snapshot.bodyId = some .migratingOut := by
  by_cases hr : site.state = .running
  · cases hu : site.nodeUrl node with
    | error e => exact .inr (.inl ⟨e, rfl⟩)
    | ok url =>
      by_cases hn : url ∈ site.nodes
      · obtain ⟨host, hh⟩ := Option.isSome_iff_exists.1
          (Std.ExtTreeMap.isSome_getElem?_iff_mem.2 hn)
        have ha := Runtime.admission_eq_ok_iff.2 ⟨hr, url, hu, hh⟩
        by_cases hm : table.status? snapshot.bodyId = some .migratingOut
        · exact .inr (.inr (.inr hm))
        · have hc := BodyTable.checkpointFault?_eq_none_iff.2 ⟨hl, hm⟩
          simp [ha, BodyTable.checkpoint, hc, bind, Except.bind] at h
      · exact .inr (.inr (.inl ⟨url, rfl, hn⟩))
  · exact .inl hr

/-- On every runtime and after every run, the sequence numbers of the checkpoints of a body that
were applied are increasing. A checkpoint that is applied now puts the body on the addressed node,
active and as it was saved. One that is refused changes no bodies, and if it is new it is refused
only because the runtime is not running, the name of the node is invalid or unknown, or the body
migrates out. -/
theorem checkpoints_in_order (steps : List Step) (runtime : RuntimeId) :
    let fleet := ({} : Fleet).after steps
    (∀ id, (fleet.appliedAt runtime id).Pairwise (· < ·)) ∧
      ∀ node snapshot sequence,
        let step := Step.call runtime (.receiveCheckpoint node snapshot sequence)
        ((fleet.outcome step).1 = .ok () →
          ∃ site url isLocal, fleet.world.runtime? runtime = some site ∧
            site.nodeUrl node = .ok url ∧ url ∈ site.nodes ∧
            ((fleet.next step).bodies runtime).hosted? snapshot.bodyId =
              some ⟨⟨snapshot.bodyId, snapshot.className, snapshot.state⟩, url, isLocal,
                .active⟩) ∧
        ∀ e, (fleet.outcome step).1 = .error e →
          (fleet.next step).bodies runtime = fleet.bodies runtime ∧
          ∀ site, fleet.world.runtime? runtime = some site →
            (∀ last, (fleet.appliedAt runtime snapshot.bodyId).getLast? = some last →
              last < sequence) →
            site.state ≠ .running ∨ (∃ e, site.nodeUrl node = .error e) ∨
              (∃ url, site.nodeUrl node = .ok url ∧ url ∉ site.nodes) ∨
              fleet.status? runtime snapshot.bodyId = some .migratingOut := by
  intro fleet
  have hs : fleet.Sound := sound_after steps
  have hi : fleet.InOrder := inOrder_empty.after sound_empty steps
  have hn : fleet.world.Each Runtime.NodesKeyed := each_after lasting_nodesKeyed steps
  refine ⟨hi.pairwise runtime, ?_⟩
  intro node snapshot sequence step
  rcases receiveCheckpoint_cases hs runtime node snapshot sequence with
    ⟨site, host, handle, table, hf, ha, hc, ho, hb⟩ | ⟨e, ho, hb, hspec⟩
  · constructor
    · intro _
      obtain ⟨-, url, hu, hh⟩ := Runtime.admission_eq_ok_iff.1 ha
      have hk : host.url = url := hn runtime site hf url host hh
      have hmem : url ∈ site.nodes := by
        rw [← Std.ExtTreeMap.isSome_getElem?_iff_mem, hh]
        rfl
      obtain ⟨isLocal, hr⟩ := (hs.bodies runtime).restored_eq host.url snapshot
      refine ⟨site, url, isLocal, hf, hu, hmem, ?_⟩
      rw [hb, Function.update_self, BodyTable.hosted?_checkpoint hc, if_pos rfl, hr, hk]
    · intro e he
      rw [ho] at he
      cases he
  · constructor
    · intro he
      rw [ho] at he
      cases he
    · intro e' he
      refine ⟨congrFun hb runtime, ?_⟩
      intro site hf hl
      exact refusal_of_newer (hspec site hf) fun last h => hl last ((hi.last _ _).trans h)

/-- A checkpoint that the first runtime applies to the body after it came back. -/
theorem checkpoints_in_order_comeback :
    ∃ url isLocal,
      ((({} : Fleet).after (comeback ⟨7⟩ ++
        [.call 1 (.receiveCheckpoint "n" ⟨⟨7⟩, "Empty", [1]⟩ 5)])).bodies 1).hosted? ⟨7⟩ =
        some ⟨⟨⟨7⟩, "Empty", [1]⟩, url, isLocal, .active⟩ := by
  have h := (checkpoints_in_order (comeback ⟨7⟩) 1).2 "n" ⟨⟨7⟩, "Empty", [1]⟩ 5
  obtain ⟨site, url, isLocal, -, -, -, hh⟩ := h.1 (by decide +kernel)
  rw [after_append]
  exact ⟨url, isLocal, hh⟩

end ActiveObjects.Fleet

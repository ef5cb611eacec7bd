import ActiveObjects.Body.Table

/-! # Look-ups in a changed body table -/

namespace ActiveObjects.BodyTable

variable {table : BodyTable} {id id' : BodyId} {node : Url}

@[simp] theorem hosted?_empty (id : BodyId) : ({} : BodyTable).hosted? id = none := by
  simp [hosted?]

@[simp] theorem lastCheckpoint?_empty (id : BodyId) :
    ({} : BodyTable).lastCheckpoint? id = none := by
  simp [lastCheckpoint?]

@[ext] theorem ext {table table' : BodyTable} (hb : ∀ id, table.hosted? id = table'.hosted? id)
    (hs : ∀ id, table.lastCheckpoint? id = table'.lastCheckpoint? id) : table = table' := by
  cases table
  cases table'
  congr
  · exact Std.ExtTreeMap.ext_getElem? hb
  · exact Std.ExtTreeMap.ext_getElem? hs

/-! ## Hosting -/

theorem hosted?_host (table : BodyTable) (node : Url) (body : Body) (isLocal : Bool) (id : BodyId) :
    (table.host node body isLocal).hosted? id =
      if body.id = id then some ⟨body, node, isLocal, .active⟩ else table.hosted? id := by
  simp [hosted?, host, Std.ExtTreeMap.getElem?_insert]

@[simp] theorem lastCheckpoint?_host (body : Body) (isLocal : Bool) :
    (table.host node body isLocal).lastCheckpoint? id = table.lastCheckpoint? id := rfl

theorem status?_host (table : BodyTable) (node : Url) (body : Body) (isLocal : Bool) (id : BodyId) :
    (table.host node body isLocal).status? id =
      if body.id = id then some .active else table.status? id := by
  rw [status?, hosted?_host]
  split <;> rfl

/-! ## Migration -/

theorem hosted?_setStatus (table : BodyTable) (id : BodyId) (status : BodyStatus) (id' : BodyId) :
    (table.setStatus id status).hosted? id' =
      if id = id' then (table.hosted? id').map ({ · with status }) else table.hosted? id' := by
  by_cases h : id = id'
  · subst h
    simp [hosted?, setStatus]
  · simp [hosted?, setStatus, Std.ExtTreeMap.getElem?_modify, h]

@[simp] theorem lastCheckpoint?_setStatus (status : BodyStatus) :
    (table.setStatus id status).lastCheckpoint? id' = table.lastCheckpoint? id' := rfl

@[simp] theorem setStatus_empty (id : BodyId) (status : BodyStatus) :
    ({} : BodyTable).setStatus id status = {} := by
  ext <;> simp [hosted?_setStatus]

theorem status?_setStatus (table : BodyTable) (id : BodyId) (status : BodyStatus) (id' : BodyId) :
    (table.setStatus id status).status? id' =
      if id = id' then (table.status? id').map fun _ => status else table.status? id' := by
  rw [status?, hosted?_setStatus]
  split
  · rw [status?, Option.map_map, Option.map_map]
    rfl
  · rfl

theorem hosted?_completeMigration (table : BodyTable) (id id' : BodyId) :
    (table.completeMigration id).hosted? id' = if id = id' then none else table.hosted? id' := by
  simp [hosted?, completeMigration, Std.ExtTreeMap.getElem?_erase]

@[simp] theorem lastCheckpoint?_completeMigration :
    (table.completeMigration id).lastCheckpoint? id' = table.lastCheckpoint? id' := rfl

theorem status?_completeMigration (table : BodyTable) (id id' : BodyId) :
    (table.completeMigration id).status? id' = if id = id' then none else table.status? id' := by
  rw [status?, hosted?_completeMigration]
  split <;> rfl

/-- A migration begins with a body that is active, and marks it. -/
theorem beginMigration_eq_ok_iff {body : Body} {left : Url} {table' : BodyTable} :
    table.beginMigration id = .ok ((body, left), table') ↔
      ∃ isLocal, table.hosted? id = some ⟨body, left, isLocal, .active⟩ ∧
        table' = table.setStatus id .migratingOut := by
  unfold beginMigration
  cases h : table.hosted? id with
  | none => simp
  | some hosted =>
    obtain ⟨body', left', isLocal, status⟩ := hosted
    cases status with
    | migratingOut => simp
    | active =>
      simp only [Except.ok.injEq, Prod.mk.injEq, Option.some.injEq, HostedBody.mk.injEq, and_true]
      constructor
      · rintro ⟨⟨rfl, rfl⟩, rfl⟩
        exact ⟨isLocal, ⟨rfl, rfl, rfl⟩, rfl⟩
      · rintro ⟨_, ⟨rfl, rfl, _⟩, rfl⟩
        exact ⟨⟨rfl, rfl⟩, rfl⟩

/-! ## Eviction -/

theorem hosted?_evict (table : BodyTable) (node : Url) (id : BodyId) :
    (table.evict node).hosted? id =
      if id ∈ table.hostedOn node then none else table.hosted? id := by
  have erased (ids : List BodyId) (bodies : Std.ExtTreeMap BodyId HostedBody) :
      (ids.foldl (fun bodies id => bodies.erase id) bodies)[id]? =
        if id ∈ ids then none else bodies[id]? := by
    induction ids generalizing bodies with
    | nil => simp
    | cons x xs ih =>
      rw [List.foldl_cons, ih, Std.ExtTreeMap.getElem?_erase]
      by_cases hx : x = id
      · simp [hx]
      · simp [hx, Ne.symm hx]
  exact erased _ _

@[simp] theorem lastCheckpoint?_evict :
    (table.evict node).lastCheckpoint? id = table.lastCheckpoint? id := rfl

/-! ## Checkpoints -/

/-- A checkpoint is refused when it is not newer than the last one, and else only while the body
migrates out. -/
theorem checkpointFault?_eq_none_iff {sequence : UInt64} :
    table.checkpointFault? id sequence = none ↔
      (∀ last, table.lastCheckpoint? id = some last → last < sequence) ∧
        table.status? id ≠ some .migratingOut := by
  unfold checkpointFault?
  cases h : table.lastCheckpoint? id with
  | none => simp
  | some last =>
    by_cases hs : sequence ≤ last
    · simp [hs, UInt64.not_lt.2 hs]
    · simp [hs, UInt64.not_le.1 hs]

theorem checkpoint_eq_ok_iff {snapshot : Checkpoint} {sequence : UInt64} {handle : BodyHandle}
    {table' : BodyTable} :
    table.checkpoint node snapshot sequence = .ok (handle, table') ↔
      table.checkpointFault? snapshot.bodyId sequence = none ∧
        handle = (table.restored node snapshot).handle ∧
        table' = ⟨table.bodies.insert snapshot.bodyId (table.restored node snapshot),
          table.sequences.insert snapshot.bodyId sequence⟩ := by
  unfold checkpoint
  cases h : table.checkpointFault? snapshot.bodyId sequence with
  | some e => simp
  | none => simp [eq_comm]

theorem checkpoint_of_stale {snapshot : Checkpoint} {sequence last : UInt64}
    (h : table.lastCheckpoint? snapshot.bodyId = some last) (hs : sequence ≤ last) :
    table.checkpoint node snapshot sequence =
      .error (.staleCheckpoint snapshot.bodyId sequence last) := by
  simp [checkpoint, checkpointFault?, h, hs]

section

variable {snapshot : Checkpoint} {sequence : UInt64} {handle : BodyHandle} {table' : BodyTable}

theorem hosted?_checkpoint (h : table.checkpoint node snapshot sequence = .ok (handle, table'))
    (id : BodyId) :
    table'.hosted? id =
      if snapshot.bodyId = id then some (table.restored node snapshot) else table.hosted? id := by
  obtain ⟨-, -, rfl⟩ := checkpoint_eq_ok_iff.1 h
  simp [hosted?, Std.ExtTreeMap.getElem?_insert]

theorem lastCheckpoint?_checkpoint
    (h : table.checkpoint node snapshot sequence = .ok (handle, table')) (id : BodyId) :
    table'.lastCheckpoint? id =
      if snapshot.bodyId = id then some sequence else table.lastCheckpoint? id := by
  obtain ⟨-, -, rfl⟩ := checkpoint_eq_ok_iff.1 h
  simp [lastCheckpoint?, Std.ExtTreeMap.getElem?_insert]

theorem status_restored (table : BodyTable) (node : Url) (snapshot : Checkpoint) :
    (table.restored node snapshot).status = .active := by
  unfold restored
  split <;> rfl

theorem status?_checkpoint (h : table.checkpoint node snapshot sequence = .ok (handle, table'))
    (id : BodyId) :
    table'.status? id = if snapshot.bodyId = id then some .active else table.status? id := by
  rw [status?, hosted?_checkpoint h]
  split
  · exact congrArg some (status_restored table node snapshot)
  · rfl

end

/-! ## Keys -/

/-- Each body is found under its own identifier. -/
def Keyed (table : BodyTable) : Prop :=
  ∀ id hosted, table.hosted? id = some hosted → hosted.body.id = id

theorem keyed_empty : ({} : BodyTable).Keyed := by
  intro id hosted h
  simp at h

theorem Keyed.host (h : table.Keyed) (node : Url) (body : Body) (isLocal : Bool) :
    (table.host node body isLocal).Keyed := by
  intro id hosted hh
  rw [hosted?_host] at hh
  split at hh
  · cases hh
    assumption
  · exact h id hosted hh

theorem Keyed.setStatus (h : table.Keyed) (id : BodyId) (status : BodyStatus) :
    (table.setStatus id status).Keyed := by
  intro id' hosted hh
  rw [hosted?_setStatus] at hh
  split at hh
  · obtain ⟨before, hb, rfl⟩ := Option.map_eq_some_iff.1 hh
    exact h id' before hb
  · exact h id' hosted hh

theorem Keyed.completeMigration (h : table.Keyed) (id : BodyId) :
    (table.completeMigration id).Keyed := by
  intro id' hosted hh
  rw [hosted?_completeMigration] at hh
  split at hh
  · cases hh
  · exact h id' hosted hh

/-- A body that is restored has what the checkpoint holds. -/
theorem Keyed.restored_eq (h : table.Keyed) (node : Url) (snapshot : Checkpoint) :
    ∃ isLocal, table.restored node snapshot =
      ⟨⟨snapshot.bodyId, snapshot.className, snapshot.state⟩, node, isLocal, .active⟩ := by
  unfold restored
  split
  · rename_i hosted hh
    rw [h _ hosted hh]
    exact ⟨hosted.isLocal, rfl⟩
  · exact ⟨true, rfl⟩

theorem Keyed.checkpoint (h : table.Keyed) {snapshot : Checkpoint} {sequence : UInt64}
    {handle : BodyHandle} {table' : BodyTable}
    (hc : table.checkpoint node snapshot sequence = .ok (handle, table')) : table'.Keyed := by
  intro id hosted hh
  rw [hosted?_checkpoint hc] at hh
  split at hh
  · obtain ⟨isLocal, hr⟩ := h.restored_eq node snapshot
    rw [hr] at hh
    cases hh
    assumption
  · exact h id hosted hh

end ActiveObjects.BodyTable

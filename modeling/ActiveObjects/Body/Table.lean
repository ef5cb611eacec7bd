import ActiveObjects.Body.Basic

/-!
# The bodies of one runtime

The table holds the hosted bodies and, apart from them, the sequence number of the last checkpoint
applied to each body. The latter stays when the body goes.

```text
        create, receive           begin
absent ----------------> active ---------> migratingOut
                          ^   ^              |      |
                          |   +--- abort ----+      +--- complete --> absent
                          +--- checkpoint (from absent or active)
```
-/

namespace ActiveObjects

structure BodyTable where
  bodies : Std.ExtTreeMap BodyId HostedBody := ∅
  sequences : Std.ExtTreeMap BodyId UInt64 := ∅

namespace BodyTable

/-! ## Look-ups -/

def hosted? (table : BodyTable) (id : BodyId) : Option HostedBody := table.bodies[id]?

def status? (table : BodyTable) (id : BodyId) : Option BodyStatus :=
  (table.hosted? id).map (·.status)

def body? (table : BodyTable) (id : BodyId) : Option Body := (table.hosted? id).map (·.body)

/-- The place of a hosted body, also while it migrates out. -/
def locate? (table : BodyTable) (id : BodyId) : Option BodyHandle :=
  (table.hosted? id).map (·.handle)

def lastCheckpoint? (table : BodyTable) (id : BodyId) : Option UInt64 := table.sequences[id]?

/-- The handles of the active bodies with a property, in the order of identifiers. -/
def collect (table : BodyTable) (p : HostedBody → Bool) : List BodyHandle :=
  (table.bodies.values.filter fun hosted => hosted.status = .active && p hosted).map (·.handle)

def activeObjects (table : BodyTable) (node : Url) : List BodyHandle :=
  table.collect (·.nodeUrl = node)

def activeObjectsOfClass (table : BodyTable) (node : Url) (className : String) : List BodyHandle :=
  table.collect fun hosted => hosted.nodeUrl = node && hosted.body.className = className

/-- The bodies on a node, in any status. -/
def hostedOn (table : BodyTable) (node : Url) : List BodyId :=
  (table.bodies.values.filter (·.nodeUrl = node)).map (·.body.id)

/-! ## Changes -/

/-- Puts a body on a node as active, in place of one that is there. -/
def host (table : BodyTable) (node : Url) (body : Body) (isLocal : Bool) : BodyTable :=
  { table with bodies := table.bodies.insert body.id ⟨body, node, isLocal, .active⟩ }

/-- Why a checkpoint is refused: it is not newer than the last one, or the body migrates out. -/
def checkpointFault? (table : BodyTable) (id : BodyId) (sequence : UInt64) : Option RuntimeError :=
  match table.lastCheckpoint? id with
  | some last =>
    if sequence ≤ last then some (.staleCheckpoint id sequence last)
    else if table.status? id = some .migratingOut then some (.migrationInProgress id)
    else none
  | none => if table.status? id = some .migratingOut then some (.migrationInProgress id) else none

/-- The body after a checkpoint. Restored anew it is local, else it stays as local as it was. -/
def restored (table : BodyTable) (node : Url) (checkpoint : Checkpoint) : HostedBody :=
  let body : Body := ⟨checkpoint.bodyId, checkpoint.className, checkpoint.state⟩
  match table.hosted? checkpoint.bodyId with
  | some hosted => ⟨{ body with id := hosted.body.id }, node, hosted.isLocal, .active⟩
  | none => ⟨body, node, true, .active⟩

/-- Applies a checkpoint. -/
def checkpoint (table : BodyTable) (node : Url) (checkpoint : Checkpoint) (sequence : UInt64) :
    Except RuntimeError (BodyHandle × BodyTable) :=
  match table.checkpointFault? checkpoint.bodyId sequence with
  | some e => .error e
  | none =>
    let hosted := table.restored node checkpoint
    .ok (hosted.handle,
      ⟨table.bodies.insert checkpoint.bodyId hosted,
        table.sequences.insert checkpoint.bodyId sequence⟩)

/-- Changes the status of a hosted body. -/
def setStatus (table : BodyTable) (id : BodyId) (status : BodyStatus) : BodyTable :=
  { table with bodies := table.bodies.modify id fun hosted => { hosted with status } }

/-- Marks an active body as migrating out; gives the copy to ship and the node it leaves. -/
def beginMigration (table : BodyTable) (id : BodyId) :
    Except RuntimeError ((Body × Url) × BodyTable) :=
  match table.hosted? id with
  | none => .error (.unknownBody id)
  | some hosted =>
    match hosted.status with
    | .migratingOut => .error (.migrationInProgress id)
    | .active => .ok ((hosted.body, hosted.nodeUrl), table.setStatus id .migratingOut)

/-- Drops the local copy. -/
def completeMigration (table : BodyTable) (id : BodyId) : BodyTable :=
  { table with bodies := table.bodies.erase id }

/-- Returns a body to service. -/
def abortMigration (table : BodyTable) (id : BodyId) : BodyTable := table.setStatus id .active

/-- Drops the bodies on a node. -/
def evict (table : BodyTable) (node : Url) : BodyTable :=
  { table with
    bodies := (table.hostedOn node).foldl (fun bodies id => bodies.erase id) table.bodies }

end BodyTable

end ActiveObjects

import ActiveObjects.Body.Basic
import ActiveObjects.Wire.Scalar

/-! # Bodies in JSON -/

namespace ActiveObjects

open Json

namespace Body

def toJson (body : Body) : Json :=
  .object [("id", body.id.toJson), ("class_name", .string body.className),
    ("state", ofOctets body.state)]

def read? (t : Tree) : Option Body := do
  let r ← t.record? ["id", "class_name", "state"]
  return ⟨← r.required "id" BodyId.read?, ← r.required "class_name" Tree.text?,
    ← r.required "state" Tree.octets?⟩

end Body

namespace Checkpoint

def toJson (checkpoint : Checkpoint) : Json :=
  .object [("body_id", checkpoint.bodyId.toJson), ("class_name", .string checkpoint.className),
    ("state", ofOctets checkpoint.state)]

def read? (t : Tree) : Option Checkpoint := do
  let r ← t.record? ["body_id", "class_name", "state"]
  return ⟨← r.required "body_id" BodyId.read?, ← r.required "class_name" Tree.text?,
    ← r.required "state" Tree.octets?⟩

end Checkpoint

namespace BodyHandle

def toJson (handle : BodyHandle) : Json :=
  .object [("id", handle.id.toJson), ("node_url", handle.nodeUrl.toJson),
    ("is_local", .bool handle.isLocal)]

def read? (t : Tree) : Option BodyHandle := do
  let r ← t.record? ["id", "node_url", "is_local"]
  return ⟨← r.required "id" BodyId.read?, ← r.required "node_url" Url.read?,
    ← r.required "is_local" Tree.bool?⟩

end BodyHandle

namespace BodyStatus

def toJson (status : BodyStatus) : Json := .string status.name

def read? (t : Tree) : Option BodyStatus :=
  match t.case? with
  | some "Active" => some .active
  | some "MigratingOut" => some .migratingOut
  | _ => none

end BodyStatus

namespace ConstructorCall

def toJson (call : ConstructorCall) : Json :=
  .object [("class_name", .string call.className), ("args", call.args)]

/-- Arguments nest one level less deep than the whole text may. -/
def read? (t : Tree) : Option ConstructorCall := do
  let r ← t.record? ["class_name", "args"]
  return ⟨← r.required "class_name" Tree.text?,
    ← r.defaulted "args" .null (Tree.value? (Tree.maxDepth - 1))⟩

end ConstructorCall

end ActiveObjects

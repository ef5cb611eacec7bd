import ActiveObjects.Event.Basic
import ActiveObjects.Wire.Scalar

/-! # Events in JSON -/

namespace ActiveObjects

open Json

namespace MigrationDirection

def name : MigrationDirection → String
  | inbound => "inbound"
  | outbound => "outbound"

def ofName? : String → Option MigrationDirection
  | "inbound" => some .inbound
  | "outbound" => some .outbound
  | _ => none

def toJson (direction : MigrationDirection) : Json := .string direction.name

def read? (t : Tree) : Option MigrationDirection := t.case?.bind ofName?

end MigrationDirection

namespace RuntimeEvent

/-- The name of the kind of an event. -/
def kind : RuntimeEvent → String
  | runtimeStarted _ => "runtime_started"
  | runtimeStopped _ => "runtime_stopped"
  | peerRegistered _ _ => "peer_registered"
  | peerUnregistered _ _ => "peer_unregistered"
  | nodeCreated _ _ _ _ => "node_created"
  | nodeKilled _ _ => "node_killed"
  | virtualNodeRegistered _ _ _ => "virtual_node_registered"
  | virtualNodeUnregistered _ _ => "virtual_node_unregistered"
  | bodyCreated _ _ _ => "body_created"
  | bodyMigrated _ _ _ => "body_migrated"
  | checkpointApplied _ _ _ => "checkpoint_applied"

def fields : RuntimeEvent → List (String × Json)
  | runtimeStarted url | runtimeStopped url => [("runtime_url", url.toJson)]
  | peerRegistered url peer | peerUnregistered url peer =>
    [("runtime_url", url.toJson), ("peer_name", .string peer)]
  | nodeCreated url node jobId virtualNode =>
    [("runtime_url", url.toJson), ("node_url", node.toJson), ("job_id", .string jobId),
      ("virtual_node", Json.ofOption Json.string virtualNode)]
  | nodeKilled url node => [("runtime_url", url.toJson), ("node_url", node.toJson)]
  | virtualNodeRegistered url name group =>
    [("runtime_url", url.toJson), ("name", .string name), ("url", group.toJson)]
  | virtualNodeUnregistered url name => [("runtime_url", url.toJson), ("name", .string name)]
  | bodyCreated id node className =>
    [("body_id", id.toJson), ("node_url", node.toJson), ("class_name", .string className)]
  | bodyMigrated id node direction =>
    [("body_id", id.toJson), ("node_url", node.toJson), ("direction", direction.toJson)]
  | checkpointApplied id node sequence =>
    [("body_id", id.toJson), ("node_url", node.toJson), ("sequence", Json.ofNat sequence.toNat)]

def toJson (event : RuntimeEvent) : Json :=
  .object (("event", .string event.kind) :: event.fields)

/-- Reads the fields of an event of a given kind. -/
def ofFields? (kind : String) (fields? : List String → Option (Record Tree)) :
    Option RuntimeEvent :=
  match kind with
  | "runtime_started" => do
    let r ← fields? ["runtime_url"]
    return .runtimeStarted (← r.required "runtime_url" Url.read?)
  | "runtime_stopped" => do
    let r ← fields? ["runtime_url"]
    return .runtimeStopped (← r.required "runtime_url" Url.read?)
  | "peer_registered" => do
    let r ← fields? ["runtime_url", "peer_name"]
    return .peerRegistered (← r.required "runtime_url" Url.read?)
      (← r.required "peer_name" Tree.text?)
  | "peer_unregistered" => do
    let r ← fields? ["runtime_url", "peer_name"]
    return .peerUnregistered (← r.required "runtime_url" Url.read?)
      (← r.required "peer_name" Tree.text?)
  | "node_created" => do
    let r ← fields? ["runtime_url", "node_url", "job_id", "virtual_node"]
    return .nodeCreated (← r.required "runtime_url" Url.read?) (← r.required "node_url" Url.read?)
      (← r.required "job_id" Tree.text?) (← r.optional "virtual_node" Tree.text?)
  | "node_killed" => do
    let r ← fields? ["runtime_url", "node_url"]
    return .nodeKilled (← r.required "runtime_url" Url.read?) (← r.required "node_url" Url.read?)
  | "virtual_node_registered" => do
    let r ← fields? ["runtime_url", "name", "url"]
    return .virtualNodeRegistered (← r.required "runtime_url" Url.read?)
      (← r.required "name" Tree.text?) (← r.required "url" Url.read?)
  | "virtual_node_unregistered" => do
    let r ← fields? ["runtime_url", "name"]
    return .virtualNodeUnregistered (← r.required "runtime_url" Url.read?)
      (← r.required "name" Tree.text?)
  | "body_created" => do
    let r ← fields? ["body_id", "node_url", "class_name"]
    return .bodyCreated (← r.required "body_id" BodyId.read?) (← r.required "node_url" Url.read?)
      (← r.required "class_name" Tree.text?)
  | "body_migrated" => do
    let r ← fields? ["body_id", "node_url", "direction"]
    return .bodyMigrated (← r.required "body_id" BodyId.read?) (← r.required "node_url" Url.read?)
      (← r.required "direction" fun t => t.looseCase?.bind MigrationDirection.ofName?)
  | "checkpoint_applied" => do
    let r ← fields? ["body_id", "node_url", "sequence"]
    return .checkpointApplied (← r.required "body_id" BodyId.read?)
      (← r.required "node_url" Url.read?) (← r.required "sequence" readWord?)
  | _ => none

def read? (t : Tree) : Option RuntimeEvent := do
  let (kind, fields?) ← t.tagged? "event" Tree.maxDepth
  ofFields? kind fields?

end RuntimeEvent

end ActiveObjects

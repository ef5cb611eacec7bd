import ActiveObjects.Inspect
import ActiveObjects.Json.Access
import ActiveObjects.Runtime.Operations
import ActiveObjects.Wire.Body
import ActiveObjects.Wire.Event
import ActiveObjects.Wire.Node
import ActiveObjects.Word

/-! # Errors and reports in JSON -/

namespace ActiveObjects

open Json

namespace RuntimeError

/-- The name of the kind of an error. -/
def kind : RuntimeError → String
  | nameConflict _ => "NameConflict"
  | notBound _ => "NotBound"
  | hostResolution _ _ => "HostResolution"
  | constructionFailed _ _ => "ConstructionFailed"
  | unknownNode _ => "UnknownNode"
  | unknownBody _ => "UnknownBody"
  | migrationInProgress _ => "MigrationInProgress"
  | staleCheckpoint _ _ _ => "StaleCheckpoint"
  | securityUnavailable _ => "SecurityUnavailable"
  | securityRejected _ => "SecurityRejected"
  | invalidUrl _ _ => "InvalidUrl"
  | config _ => "Config"
  | shutDown _ => "ShutDown"
  | transportFailure _ _ => "TransportFailure"

def fields (e : RuntimeError) : List (String × Json) :=
  [("error", .string e.kind), ("message", .string e.message)] ++
    (e.source?.map fun s => ("source", Json.string s)).toList

def toJson (e : RuntimeError) : Json := .object e.fields

/-- The error that an object with a kind and its data describes; `id?` reads identifiers of bodies.
What is missing is empty, and an unknown kind is a failure of transport. -/
def ofJson (id? : String → Option BodyId) (j : Json) : RuntimeError :=
  let id := (id? (j.text "body_id")).getD BodyId.nil
  let word (key : String) := UInt64.ofNat ((j.nat? key maxWord).getD 0)
  match j.text "kind" with
  | "NameConflict" => .nameConflict (j.text "url")
  | "NotBound" => .notBound (j.text "url")
  | "HostResolution" => .hostResolution (j.text "url") (j.text "message")
  | "ConstructionFailed" => .constructionFailed (j.text "class_name") (j.text "source")
  | "UnknownNode" => .unknownNode (j.text "node")
  | "UnknownBody" => .unknownBody id
  | "MigrationInProgress" => .migrationInProgress id
  | "StaleCheckpoint" => .staleCheckpoint id (word "received") (word "last_applied")
  | "SecurityUnavailable" => .securityUnavailable (j.text "message")
  | "SecurityRejected" => .securityRejected (j.text "message")
  | "InvalidUrl" => .invalidUrl (j.text "url") (j.text "reason")
  | "Config" => .config (j.text "message")
  | "ShutDown" => .shutDown (j.text "url")
  | _ => .transportFailure (j.text "message") (j.text? "source")

end RuntimeError

/-- The parts of a URL. -/
def Url.partsJson (u : Url) : Json :=
  .object [("transport_tag", .string u.tag), ("host", .string u.host),
    ("port", Json.ofNat u.port.toNat), ("name", .string u.name),
    ("authority", .string u.authority), ("display", .string u.display)]

def SweepFailure.toJson (failure : SweepFailure) : Json :=
  .object [("target", .string failure.target), ("cause", failure.cause.toJson)]

def SweepReport.toJson (report : SweepReport) : Json :=
  .object [("attempted", Json.ofNat report.attempted),
    ("succeeded", Json.ofList Json.string report.succeeded),
    ("failures", Json.ofList SweepFailure.toJson report.failures),
    ("clean", .bool report.isClean), ("failure_count", Json.ofNat report.failureCount),
    ("display", .string report.display)]

def ShutdownReport.toJson (report : ShutdownReport) : Json :=
  .object [("nodes", report.nodes.toJson), ("virtual_nodes", report.virtualNodes.toJson),
    ("runtime", match report.runtime with
      | .ok outcome => .string outcome.name
      | .error e => e.toJson),
    ("clean", .bool report.isClean), ("display", .string report.display)]

def Node.toJson (node : Node) : Json := .object node.fields

/-- A peer; `runtime` is what stands for the runtime behind it. -/
def PeerRuntime.toJson (runtime : RuntimeHandle → Json) (peer : PeerRuntime) : Json :=
  .object [("name", .string peer.name), ("runtime", runtime peer.handle),
    ("url", peer.handle.url.toJson), ("creator_id", .string peer.creatorId),
    ("creation_protocol", .string peer.creationProtocol), ("vm_name", .string peer.vmName),
    ("debug", .string peer.inspect)]

def RuntimeSummary.toJson (summary : RuntimeSummary) : Json :=
  .object [("name", .string summary.name), ("url", summary.url.toJson),
    ("host", .string summary.host), ("parent", Json.ofOption Url.toJson summary.parent)]

/-- What a receiver finds: the number of events it missed, if any, and the events. -/
def EventBacklog.items (backlog : EventBacklog) : List Json :=
  (if backlog.missed = 0 then [] else [.object [("lagged", Json.ofNat backlog.missed)]]) ++
    backlog.events.map RuntimeEvent.toJson

def LogLine.toJson (line : LogLine) : Json :=
  .array [.string line.level.name, .string line.message]

/-- All that a body table tells of one body. -/
def BodyTable.entryJson (table : BodyTable) (id : BodyId) : Json :=
  .object [("status", Json.ofOption BodyStatus.toJson (table.status? id)),
    ("body", Json.ofOption Body.toJson (table.body? id)),
    ("handle", Json.ofOption BodyHandle.toJson (table.locate? id)),
    ("sequence", Json.ofOption (fun n => Json.ofNat n.toNat) (table.lastCheckpoint? id)),
    ("display", .string id.display)]

end ActiveObjects

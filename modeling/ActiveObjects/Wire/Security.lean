import ActiveObjects.Json.Access
import ActiveObjects.Security.Basic
import ActiveObjects.Wire.Scalar

/-! # Security data in JSON -/

namespace ActiveObjects

open Json

namespace Certificate

def toJson (certificate : Certificate) : Json :=
  .object [("subject", .string certificate.subject), ("issuer", .string certificate.issuer),
    ("der", ofOctets certificate.der)]

def read? (t : Tree) : Option Certificate := do
  let r ← t.record? ["subject", "issuer", "der"]
  return ⟨← r.required "subject" Tree.text?, ← r.required "issuer" Tree.text?,
    ← r.required "der" Tree.octets?⟩

end Certificate

namespace PolicyServerRef

def toJson (server : PolicyServerRef) : Json := .object [("name", .string server.name)]

def read? (t : Tree) : Option PolicyServerRef := do
  let r ← t.record? ["name"]
  return ⟨← r.required "name" Tree.text?⟩

end PolicyServerRef

namespace ResolvedPolicy

def toJson (policy : ResolvedPolicy) : Json :=
  .object [("communication_allowed", .bool policy.communicationAllowed),
    ("migration_allowed", .bool policy.migrationAllowed),
    ("authentication", .bool policy.authentication), ("integrity", .bool policy.integrity),
    ("confidentiality", .bool policy.confidentiality)]

def read? (t : Tree) : Option ResolvedPolicy := do
  let r ← t.record? ["communication_allowed", "migration_allowed", "authentication", "integrity",
    "confidentiality"]
  return ⟨← r.required "communication_allowed" Tree.bool?,
    ← r.required "migration_allowed" Tree.bool?, ← r.required "authentication" Tree.bool?,
    ← r.required "integrity" Tree.bool?, ← r.required "confidentiality" Tree.bool?⟩

end ResolvedPolicy

namespace Entity

def toJson : Entity → Json
  | .runtime url => .object [("kind", .string "runtime"), ("url", url.toJson)]
  | .virtualNode name => .object [("kind", .string "virtual_node"), ("name", .string name)]
  | .node url jobId =>
    .object [("kind", .string "node"), ("url", url.toJson), ("job_id", .string jobId)]

/-- Reads an entity that may nest `room` levels deep. -/
def readWithin? (room : Nat) (t : Tree) : Option Entity := do
  let (kind, fields?) ← t.tagged? "kind" room
  match kind with
  | "runtime" => do
    let r ← fields? ["url"]
    return .runtime (← r.required "url" Url.read?)
  | "virtual_node" => do
    let r ← fields? ["name"]
    return .virtualNode (← r.required "name" Tree.text?)
  | "node" => do
    let r ← fields? ["url", "job_id"]
    return .node (← r.required "url" Url.read?) (← r.required "job_id" Tree.text?)
  | _ => none

def read? (t : Tree) : Option Entity := readWithin? Tree.maxDepth t

end Entity

namespace SecurityContext

def toJson (context : SecurityContext) : Json :=
  .object [("from", Json.ofList Entity.toJson context.sources),
    ("to", Json.ofList Entity.toJson context.targets),
    ("policy", Json.ofOption ResolvedPolicy.toJson context.policy)]

def read? (t : Tree) : Option SecurityContext := do
  let r ← t.record? ["from", "to", "policy"]
  let entities? := Tree.list? (Entity.readWithin? (Tree.maxDepth - 2))
  return ⟨← r.required "from" entities?, ← r.required "to" entities?,
    ← r.optional "policy" ResolvedPolicy.read?⟩

end SecurityContext

/-- The evaluator that an object describes: one that refuses with a text, one that gives a policy,
or one that gives every question back. -/
def PolicyEvaluator.ofJson? (j : Json) : Option PolicyEvaluator := do
  if j.flag "bare" false then return .unchanged
  let certificate ← j.typed? "certificate" Certificate.read?
  let server := (j.text? "policy_server").map PolicyServerRef.mk
  match j.text? "deny" with
  | some reason => return .denying reason certificate server
  | none => return .granting (← j.typed? "policy" ResolvedPolicy.read?) certificate server

end ActiveObjects

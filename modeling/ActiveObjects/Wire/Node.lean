import ActiveObjects.Node.Basic
import ActiveObjects.Resolver
import ActiveObjects.Wire.Security

/-! # Nodes, virtual nodes and runtimes in JSON -/

namespace ActiveObjects

open Json

/-- The table that an object from hosts to addresses describes. -/
def Resolver.ofJson? (fields : List (String × Json)) : Option Resolver := do
  let pairs ← fields.mapM fun (host, j) =>
    match j with
    | .string s => (Address.parse? s).map (host, ·)
    | _ => none
  return .ofList pairs

namespace NodeSpec

def toJson (spec : NodeSpec) : Json :=
  .object [("name", .string spec.name), ("replace_if_bound", .bool spec.replaceIfBound),
    ("policy_server", Json.ofOption PolicyServerRef.toJson spec.policyServer),
    ("virtual_node", Json.ofOption Json.string spec.virtualNode), ("job_id", .string spec.jobId)]

def read? (t : Tree) : Option NodeSpec := do
  let r ← t.record? ["name", "replace_if_bound", "policy_server", "virtual_node", "job_id"]
  return ⟨← r.required "name" Tree.text?, ← r.required "replace_if_bound" Tree.bool?,
    ← r.optional "policy_server" PolicyServerRef.read?, ← r.optional "virtual_node" Tree.text?,
    ← r.required "job_id" Tree.text?⟩

/-- The request that an object describes, with the defaults for what is missing. -/
def ofJson (j : Json) : NodeSpec :=
  { name := j.text "name"
    replaceIfBound := j.flag "replace" true
    policyServer := (j.text? "policy_server").map PolicyServerRef.mk
    virtualNode := j.text? "virtual_node"
    jobId := (j.text? "job_id").getD "-" }

end NodeSpec

/-- The fields of a node. -/
def Node.fields (node : Node) : List (String × Json) :=
  [("name", .string node.name), ("url", node.url.toJson), ("owner", node.owner.toJson),
    ("job_id", .string node.jobId),
    ("policy_server", Json.ofOption PolicyServerRef.toJson node.policyServer),
    ("virtual_node", Json.ofOption Json.string node.virtualNode)]

/-- A node as it is told to others, with the instant of its creation. -/
structure NodeHandle where
  node : Node
  createdAt : Timestamp
deriving DecidableEq

namespace NodeHandle

def toJson (handle : NodeHandle) : Json :=
  .object (handle.node.fields ++ [("created_at", handle.createdAt.toJson)])

def read? (t : Tree) : Option NodeHandle := do
  let r ← t.record? ["name", "url", "owner", "job_id", "policy_server", "virtual_node",
    "created_at"]
  return ⟨⟨← r.required "name" Tree.text?, ← r.required "url" Url.read?,
    ← r.required "owner" Url.read?, ← r.required "job_id" Tree.text?,
    ← r.optional "policy_server" PolicyServerRef.read?, ← r.optional "virtual_node" Tree.text?⟩,
    ← r.required "created_at" Timestamp.read?⟩

end NodeHandle

namespace VirtualNodeGroup

def toJson (group : VirtualNodeGroup) : Json :=
  .object [("name", .string group.name), ("url", group.url.toJson),
    ("members", Json.ofList Url.toJson group.members)]

def read? (t : Tree) : Option VirtualNodeGroup := do
  let r ← t.record? ["name", "url", "members"]
  return ⟨← r.required "name" Tree.text?, ← r.required "url" Url.read?,
    ← r.required "members" (Tree.list? Url.read?)⟩

end VirtualNodeGroup

/-- A runtime process as it is told to others. -/
structure RuntimeInfo where
  name : String
  url : Url
  host : String
  pid : UInt32
  startedAt : Timestamp
  parent : Option Url
deriving DecidableEq

namespace RuntimeInfo

def toJson (info : RuntimeInfo) : Json :=
  .object [("name", .string info.name), ("url", info.url.toJson), ("host", .string info.host),
    ("pid", Json.ofNat info.pid.toNat), ("started_at", info.startedAt.toJson),
    ("parent", Json.ofOption Url.toJson info.parent)]

def read? (t : Tree) : Option RuntimeInfo := do
  let r ← t.record? ["name", "url", "host", "pid", "started_at", "parent"]
  return ⟨← r.required "name" Tree.text?, ← r.required "url" Url.read?,
    ← r.required "host" Tree.text?,
    ← r.required "pid" fun t => (t.nat? 0xFFFFFFFF).map UInt32.ofNat,
    ← r.required "started_at" Timestamp.read?, ← r.optional "parent" Url.read?⟩

end RuntimeInfo

end ActiveObjects

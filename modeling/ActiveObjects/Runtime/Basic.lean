import ActiveObjects.Acquaintance
import ActiveObjects.Body.Table
import ActiveObjects.Event.Bus
import ActiveObjects.Node.Basic
import ActiveObjects.Resolver
import ActiveObjects.Url.Parse

/-!
# Runtimes

A runtime is one process with an identity. It owns the tables of its nodes, virtual nodes and
bodies, its peers, its security relay and its event bus.
-/

namespace ActiveObjects

inductive LifecycleState where
  | running
  | stopping
  | stopped
deriving DecidableEq, Repr

def LifecycleState.name : LifecycleState → String
  | running => "Running"
  | stopping => "Stopping"
  | stopped => "Stopped"

/-- The public identity of a process, in the letter case in which it was given. -/
structure RuntimeIdentity where
  host : String
  processName : String
  transportTag : String
  port : UInt16
deriving DecidableEq, Repr

/-- The canonical URL of a process. -/
def RuntimeIdentity.url (identity : RuntimeIdentity) : Except Url.Invalid Url :=
  Url.new identity.transportTag identity.host identity.port identity.processName

/-- Identifies a registry of constructors among all of a world. -/
abbrev RegistryId := Nat

structure Runtime where
  id : RuntimeId
  identity : RuntimeIdentity
  url : Url
  /-- Conflicts are errors. -/
  strict : Bool
  resolver : Resolver
  state : LifecycleState := .running
  parent : Option Url := none
  nodes : NodeTable := ∅
  /-- The tag of nodes that are created without one. -/
  defaultTag : Option String := none
  groups : GroupTable := ∅
  bodies : BodyTable := {}
  directory : AcquaintanceDirectory := {}
  security : SecurityRelay := {}
  events : EventBus
  /-- Where the constructors are, which runtimes may share. -/
  constructors : RegistryId := 0

namespace Runtime

/-- The runtime as others see it. -/
def handle (runtime : Runtime) : RuntimeHandle := ⟨runtime.id, runtime.url⟩

/-- The URL that a name of a node or virtual node stands for: under the endpoint of the runtime if
it is bare, itself if it has a slash. -/
def nodeUrl (runtime : Runtime) (name : String) : Except RuntimeError Url :=
  (if name.toList.contains '/' then Url.parse name else runtime.url.withName name).mapError
    RuntimeError.ofInvalid

/-- Checks that the host of a URL has an address. -/
def resolveHost (runtime : Runtime) (url : Url) : Except RuntimeError Address :=
  match runtime.resolver.resolve url.host with
  | .error (.hostResolution _ message) => .error (.hostResolution url.display message)
  | result => result

/-- The node that a name addresses. -/
def node (runtime : Runtime) (name : String) : Except RuntimeError Node := do
  let url ← runtime.nodeUrl name
  match runtime.nodes[url]? with
  | some node => return node
  | none => throw (.unknownNode url.display)

/-- Runtime, virtual node if there is one, and node. -/
def nodeEntities (runtime : Runtime) (node : Node) : List Entity :=
  [.runtime runtime.url] ++ (node.virtualNode.map Entity.virtualNode).toList ++
    [.node node.url node.jobId]

/-- The entities of the node that hosts a body. -/
def bodyEntities (runtime : Runtime) (id : BodyId) : Except RuntimeError (List Entity) :=
  match runtime.bodies.locate? id with
  | none => .error (.unknownBody id)
  | some handle =>
    match runtime.nodes[handle.nodeUrl]? with
    | none => .error (.unknownNode handle.nodeUrl.display)
    | some node => .ok (runtime.nodeEntities node)

/-- The current copy of a hosted body. -/
def bodyState (runtime : Runtime) (id : BodyId) : Except RuntimeError Body :=
  match runtime.bodies.body? id with
  | some body => .ok body
  | none => .error (.unknownBody id)

end Runtime

end ActiveObjects

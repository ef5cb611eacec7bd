import ActiveObjects.Error
import ActiveObjects.Json.Basic

/-!
# Bodies

A body is an active object as data: a class name and a state under an identifier that never
changes. A runtime hosts bodies on its nodes; they are built there, migrate in, or are restored
from a checkpoint.
-/

namespace ActiveObjects

/-- What travels when a body migrates. -/
structure Body where
  id : BodyId
  className : String
  state : List UInt8
deriving DecidableEq

/-- A snapshot of a body. -/
structure Checkpoint where
  bodyId : BodyId
  className : String
  state : List UInt8
deriving DecidableEq

/-- The snapshot of a body as it is. -/
def Checkpoint.of (body : Body) : Checkpoint := ⟨body.id, body.className, body.state⟩

/-- Where a body lives. -/
structure BodyHandle where
  id : BodyId
  nodeUrl : Url
  isLocal : Bool
deriving DecidableEq

inductive BodyStatus where
  | active
  /-- A copy is on its way to another runtime. -/
  | migratingOut
deriving DecidableEq, Repr

def BodyStatus.name : BodyStatus → String
  | active => "Active"
  | migratingOut => "MigratingOut"

/-- A body on a node. -/
structure HostedBody where
  body : Body
  nodeUrl : Url
  isLocal : Bool
  status : BodyStatus
deriving DecidableEq

def HostedBody.handle (hosted : HostedBody) : BodyHandle :=
  ⟨hosted.body.id, hosted.nodeUrl, hosted.isLocal⟩

/-! ## Constructors -/

/-- A request to build a body. -/
structure ConstructorCall where
  className : String
  args : Json := .null

/-- Builds the state of a new body from arguments, or says why not. -/
abbrev BodyConstructor := Json → Except String (List UInt8)

/-- Constructors by class name. -/
abbrev ConstructorRegistry := Std.ExtTreeMap String BodyConstructor

/-- The class names in order. -/
def ConstructorRegistry.classes (constructors : ConstructorRegistry) : List String :=
  constructors.keys

end ActiveObjects

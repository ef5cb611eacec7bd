import ActiveObjects.Runtime.Shutdown

/-!
# The operations of a runtime

What peers may ask of a runtime. Operations that create something are refused once the runtime is
shut down; look-ups and cleaning up are not.
-/

namespace ActiveObjects

/-- What a runtime tells of itself. -/
structure RuntimeSummary where
  name : String
  url : Url
  host : String
  parent : Option Url
deriving DecidableEq

namespace Runtime

open Site

/-- Refuses when the runtime is shut down. -/
def ensureRunning : Action Unit :=
  ask fun runtime =>
    if runtime.state = .running then .ok () else .error (.shutDown runtime.url.display)

def summary (runtime : Runtime) : RuntimeSummary :=
  ⟨runtime.identity.processName, runtime.url, runtime.identity.host, runtime.parent⟩

/-! ## Names -/

def register (url : Url) (replaceIfBound : Bool) : Action RegisterOutcome := do
  ensureRunning
  Registry.register url (← get).runtime.handle replaceIfBound

def unregister (url : Url) : Action UnregisterOutcome := Registry.unregister url

/-! ## Nodes and virtual nodes -/

def createLocalNode (spec : NodeSpec) : Action Url := do
  ensureRunning
  return (← Node.create spec (← get).runtime.handle).url

def killNode (name : String) : Action Unit := do
  let _ ← Node.kill name

def setDefaultTag (tag : String) : Action Unit := do
  ensureRunning
  Node.setDefaultTag tag

/-- The nodes that are tagged with the group already are its members from the start. -/
def registerVirtualNode (name : String) (replaceIfBound : Bool) : Action Url := do
  ensureRunning
  let runtime := (← get).runtime
  return (← VirtualNode.register name replaceIfBound runtime.handle
    (runtime.nodes.taggedWith name)).url

def unregisterVirtualNode (name : String) : Action Unit := do
  let _ ← VirtualNode.unregister name

/-! ## Peers and acquaintances -/

/-- A change of the peers and acquaintances. -/
def modifyDirectory (f : AcquaintanceDirectory → AcquaintanceDirectory) : Work Unit :=
  modifyRuntime fun runtime => { runtime with directory := f runtime.directory }

/-- Puts a peer in place of the one of the same name, which is given back. -/
def enterPeer (peer : PeerRuntime) : Work (Option PeerRuntime) := do
  let previous := (← get).runtime.directory.peer? peer.name
  logLine .debug "Registering peer runtime"
  modifyDirectory (·.register peer)
  return previous

def registerRuntime (peer : PeerRuntime) : Action Unit := do
  ensureRunning
  let previous ← enterPeer peer
  if previous.isSome then logLine .debug "Peer runtime replaced"
  publish (.peerRegistered (← get).runtime.url peer.name)

def unregisterRuntime (name : String) : Work Unit := do
  let runtime := (← get).runtime
  if (runtime.directory.peer? name).isSome then
    modifyDirectory (·.unregister name)
    publish (.peerUnregistered runtime.url name)

/-- Tells whether the name is new. -/
def addAcquaintance (name : String) : Work Bool := do
  let known := (← get).runtime.directory.knows name
  if !known then logLine .debug "Adding acquaintance"
  modifyDirectory (·.add name)
  return !known

/-- Tells whether the name was known. -/
def removeAcquaintance (name : String) : Work Bool := do
  let known := (← get).runtime.directory.knows name
  modifyDirectory (·.remove name)
  return known

def setParent (parent : Url) : Work Unit := do
  logLine .debug "Parent runtime set"
  modifyRuntime fun runtime => { runtime with parent := some parent }

/-! ## Bodies -/

def createBody (constructors : ConstructorRegistry) (fresh : BodyId) (node : String)
    (call : ConstructorCall) (isLocal : Bool) : Action BodyHandle := do
  ensureRunning
  let host ← ask (·.node node)
  let (handle, body) ← BodyTable.create constructors fresh host.url call isLocal
  publish (.bodyCreated handle.id handle.nodeUrl body.className)
  return handle

def receiveBody (node : String) (body : Body) : Action BodyHandle := do
  ensureRunning
  let host ← ask (·.node node)
  let handle ← BodyTable.receive host.url body
  publish (.bodyMigrated handle.id handle.nodeUrl .inbound)
  return handle

def receiveCheckpoint (node : String) (checkpoint : Checkpoint) (sequence : UInt64) :
    Action BodyHandle := do
  ensureRunning
  let host ← ask (·.node node)
  let handle ← BodyTable.receiveCheckpoint host.url checkpoint sequence
  publish (.checkpointApplied handle.id handle.nodeUrl sequence)
  return handle

/-- The first part of a migration: the body is marked, and the copy to ship and the node that it
leaves are given out. -/
def beginMigration (id : BodyId) : Action (Body × Url) := do
  ensureRunning
  changeBodies (·.beginMigration id)

/-- The last part of a migration, after the target answered. If the target took the body, the local
copy is dropped, unless the target is the runtime itself; else the body returns to service. -/
def endMigration (id : BodyId) (source target : Url) (answer : Except RuntimeError BodyHandle) :
    Action BodyHandle := do
  match answer with
  | .ok handle =>
    if target ≠ (← get).runtime.url then modifyBodies (·.completeMigration id)
    logLine .info "Body migrated"
    publish (.bodyMigrated id source .outbound)
    return handle
  | .error e =>
    logLine .warn "Migration failed, body restored"
    modifyBodies (·.abortMigration id)
    throw e

def activeObjects (node : String) : Action (List BodyHandle) :=
  ask fun runtime => do return runtime.bodies.activeObjects (← runtime.node node).url

def activeObjectsOfClass (node className : String) : Action (List BodyHandle) :=
  ask fun runtime => do
    return runtime.bodies.activeObjectsOfClass (← runtime.node node).url className

/-! ## Security -/

/-- Puts an evaluator in place of the one before. -/
def setSecurityManager (evaluator : PolicyEvaluator) : Work Unit := do
  logLine .debug "Security manager installed"
  modifyRuntime fun runtime =>
    { runtime with security := { runtime.security with evaluator := some evaluator } }

def nodeCertificate (node : String) : Action (Option Certificate) :=
  ask fun runtime => do
    let _ ← runtime.node node
    return runtime.security.certificate

def entities (node : String) : Action (List Entity) :=
  ask fun runtime => do return runtime.nodeEntities (← runtime.node node)

end Runtime

end ActiveObjects

import ActiveObjects.Runtime.Site

/-! # Hosting bodies on nodes -/

namespace ActiveObjects.BodyTable

open Site

/-- Builds a body with a constructor and hosts it on a node. The identifier is a fresh one. -/
def create (constructors : ConstructorRegistry) (fresh : BodyId) (node : Url)
    (call : ConstructorCall) (isLocal : Bool) : Action (BodyHandle × Body) := do
  match constructors[call.className]? with
  | none => throw (.constructionFailed call.className "no constructor registered for class")
  | some build =>
    match build call.args with
    | .error reason =>
      logLine .warn s!"Constructor call failed: {reason}"
      throw (.constructionFailed call.className reason)
    | .ok state =>
      let body : Body := ⟨fresh, call.className, state⟩
      modifyBodies (·.host node body isLocal)
      logLine .debug "Body created"
      return (⟨fresh, node, isLocal⟩, body)

/-- Takes in a body from another runtime. -/
def receive (node : Url) (body : Body) : Work BodyHandle := do
  let replaces := ((← get).runtime.bodies.hosted? body.id).isSome
  modifyBodies (·.host node body true)
  if replaces then logLine .debug "Received body replaces a local copy"
  logLine .info "Body received"
  return ⟨body.id, node, true⟩

/-- Applies a checkpoint that is newer than the last one. -/
def receiveCheckpoint (node : Url) (snapshot : Checkpoint) (sequence : UInt64) :
    Action BodyHandle := do
  match (← get).runtime.bodies.checkpointFault? snapshot.bodyId sequence with
  | some (.migrationInProgress _) => logLine .warn "Rejecting checkpoint for body in migration"
  | some _ => logLine .warn "Rejecting stale checkpoint"
  | none => pure ()
  let handle ← changeBodies (·.checkpoint node snapshot sequence)
  logLine .debug "Checkpoint applied"
  return handle

/-- Drops the bodies on a killed node; gives their identifiers. -/
def evictFrom (node : Url) : Work (List BodyId) := do
  let evicted := (← get).runtime.bodies.hostedOn node
  modifyBodies (·.evict node)
  if !evicted.isEmpty then logLine .debug "Evicted bodies of killed node"
  return evicted

end ActiveObjects.BodyTable

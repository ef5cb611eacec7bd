import ActiveObjects.Config.Basic
import ActiveObjects.Runtime.Operations

/-!
# Starting a runtime

A runtime binds its own URL, then registers the virtual nodes and creates the nodes that its
configuration names.
-/

namespace ActiveObjects

/-- What a runtime is started with. -/
structure StartRequest where
  id : RuntimeId
  config : RuntimeConfig
  resolver : Resolver
  constructors : RegistryId := 0
  evaluator : Option PolicyEvaluator := none
  certificate : Option Certificate := none

/-- The identity that settings give to a process. -/
def RuntimeIdentity.ofSettings (settings : RuntimeSettings) : RuntimeIdentity :=
  ⟨settings.host, settings.name, settings.transportTag, settings.port⟩

/-- The request that a configured node stands for. -/
def NodeSpec.ofSettings (settings : NodeSettings) : NodeSpec :=
  { name := settings.name
    replaceIfBound := settings.replace
    virtualNode := settings.virtualNode
    jobId := settings.jobId }

namespace Runtime

open Site

/-- The runtime that a request describes, before it has bound anything. -/
def ofRequest (request : StartRequest) : Except RuntimeError Runtime := do
  let config := request.config
  match config.fault? with
  | some fault => throw (.config fault.message)
  | none => pure ()
  let identity := RuntimeIdentity.ofSettings config.runtime
  let url ← identity.url.mapError RuntimeError.ofInvalid
  let parent ← match config.runtime.parent with
    | none => pure none
    | some text => (some <$> Url.parse text).mapError RuntimeError.ofInvalid
  return {
    id := request.id
    identity, url, parent
    strict := config.naming.strictRegistration
    resolver := request.resolver
    security :=
      { evaluator := request.evaluator
        creatorCertificate := request.certificate
        configuredServer := config.security.policyServer.map PolicyServerRef.mk }
    events := { capacity := config.events.channelCapacity.toNat }
    constructors := request.constructors }

/-- Binds the runtime and sets up what its configuration names. -/
def boot (config : RuntimeConfig) : Action Unit := do
  let runtime := (← get).runtime
  let _ ← Registry.register runtime.url runtime.handle false
  logLine .info "Runtime started"
  publish (.runtimeStarted runtime.url)
  config.virtualNodes.forM fun name => do let _ ← registerVirtualNode name true
  config.nodes.forM fun settings => do let _ ← createLocalNode (NodeSpec.ofSettings settings)

end Runtime

end ActiveObjects

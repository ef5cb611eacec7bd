import ActiveObjects.Node.Lifecycle

/-!
# Shutting a runtime down

All nodes are killed, all virtual nodes are unregistered, and the URL of the runtime is unbound.
Every stage runs, whatever the ones before it reported.
-/

namespace ActiveObjects

/-- What the three stages reported. -/
structure ShutdownReport where
  nodes : SweepReport
  virtualNodes : SweepReport
  runtime : Except RuntimeError UnregisterOutcome

namespace ShutdownReport

def isClean (report : ShutdownReport) : Bool :=
  report.nodes.isClean && report.virtualNodes.isClean && report.runtime.toOption.isSome

def display (report : ShutdownReport) : String :=
  let own := match report.runtime with
    | .ok outcome => s!"runtime: {outcome.name}"
    | .error e => s!"runtime unbind failed: {e.message}"
  s!"nodes: {report.nodes.display}; virtual nodes: {report.virtualNodes.display}; {own}"

end ShutdownReport

namespace Runtime

open Site

/-- Leaves the running state. -/
def beginShutdown (runtime : Runtime) : Runtime :=
  if runtime.state = .running then { runtime with state := .stopping } else runtime

/-- Shuts the runtime down. A runtime that is stopped already goes through the stages again, but is
not announced as stopped a second time. -/
def kill : Work ShutdownReport := do
  modifyRuntime beginShutdown
  logLine .info "Killing runtime"
  let nodes ← Node.killAll
  let virtualNodes ← VirtualNode.unregisterAll
  let own ← attempt (Registry.unregister (← get).runtime.url)
  if let .error _ := own then logLine .warn "Failed to unbind runtime"
  let wasStopped := (← get).runtime.state = .stopped
  modifyRuntime fun runtime => { runtime with state := .stopped }
  let report : ShutdownReport := ⟨nodes, virtualNodes, own⟩
  if !wasStopped then
    if report.isClean then logLine .info "Runtime stopped"
    else logLine .warn "Runtime stopped with cleanup failures"
    publish (.runtimeStopped (← get).runtime.url)
  return report

end Runtime

end ActiveObjects

import ActiveObjects.Runtime.Registry
import ActiveObjects.Sweep

/-!
# Registration of virtual nodes

A group is bound under a URL of its own and tracked under its key.
-/

namespace ActiveObjects.VirtualNode

open Site

/-- Binds a group and tracks it with the given members, which join those it has. -/
def register (name : String) (replaceIfBound : Bool) (owner : RuntimeHandle) (members : List Url) :
    Action VirtualNodeGroup := do
  let url ← ask (·.nodeUrl name)
  let _ ← ask (·.resolveHost url)
  let _ ← Registry.register url owner replaceIfBound
  modifyGroups (·.enroll (key name) url members)
  logLine .info "Virtual node registered"
  let runtime := (← get).runtime
  publish (.virtualNodeRegistered runtime.url (key name) url)
  return (runtime.groups[key name]?).getD ⟨key name, url, []⟩

/-- Unbinds a group and forgets it. A group that is not tracked is unbound at the URL that its name
stands for. -/
def unregister (name : String) : Action UnregisterOutcome := do
  let runtime := (← get).runtime
  let tracked := runtime.groups.find? name
  let url ← match tracked with
    | some group => pure group.url
    | none => ask (·.nodeUrl name)
  let outcome ← Registry.unregister url
  if tracked.isSome then
    modifyGroups (·.erase (key name))
    logLine .info "Virtual node unregistered"
    publish (.virtualNodeUnregistered runtime.url (key name))
  else logLine .debug "Unregister of untracked virtual node"
  return outcome

/-- One step of the sweep over all groups. -/
def sweepOne (report : SweepReport) (name : String) (url : Url) : Work SweepReport := do
  match ← attempt (unregister name) with
  | .ok .unbound => return report.recordSuccess name
  | .ok .wasAbsent =>
    logLine .warn "Tracked virtual node was not bound"
    return report.recordFailure name (.notBound url.display)
  | .error e =>
    logLine .warn "Failed to unregister virtual node"
    return report.recordFailure name e

/-- Unregisters every group, in the order of their keys. -/
def unregisterAll : Work SweepReport := do
  (← get).runtime.groups.toList.foldlM
    (fun report (name, group) => sweepOne report name group.url) {}

/-- Adds a node to a group that is tracked; tells whether it joined. -/
def attach (name : String) (node : Url) : Work Bool := do
  let joins := (← get).runtime.groups.admits name node
  if joins then
    logLine .debug "Node joined virtual node"
    modifyGroups (·.attach name node)
  return joins

/-- Removes a node from all groups. -/
def detach (node : Url) : Work Unit := modifyGroups (·.detach node)

end ActiveObjects.VirtualNode

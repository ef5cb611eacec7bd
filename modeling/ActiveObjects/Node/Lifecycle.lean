import ActiveObjects.Body.Hosting
import ActiveObjects.VirtualNode.Registration

/-!
# Creating and killing nodes

A node is bound under its URL before it is tracked, and unbound before it is forgotten. Its place
in virtual nodes and the bodies on it go with it.
-/

namespace ActiveObjects.Node

open Site

/-- Puts a node into the table. A node that changes its tag leaves its groups, then joins the group
of the new tag. -/
def install (node : Node) : Work Unit := do
  let previous := (← get).runtime.nodes[node.url]?
  modifyNodes (·.insert node.url node)
  if previous.isSome then logLine .debug "Replaced local node state"
  if previous.any (·.virtualNode ≠ node.virtualNode) then VirtualNode.detach node.url
  match node.virtualNode with
  | some tag => let _ ← VirtualNode.attach tag node.url
  | none => pure ()

/-- Creates a node and binds its URL to the owner. Unless it is to be replaced, a node that is
there is kept as it is. -/
def create (spec : NodeSpec) (owner : RuntimeHandle) : Action Node := do
  let url ← ask (·.nodeUrl spec.name)
  let _ ← ask (·.resolveHost url)
  let tracked := (← get).runtime.nodes[url]?
  match tracked, spec.replaceIfBound with
  | some node, false =>
    logLine .warn "Node already exists locally, keeping it"
    return node
  | _, _ =>
    let outcome ← Registry.register url owner spec.replaceIfBound
    if outcome = .alreadyBound then logLine .debug "Tracking node whose URL is bound elsewhere"
    let runtime := (← get).runtime
    let node : Node :=
      { name := url.name, url, owner := runtime.url, jobId := spec.jobId
        policyServer := spec.policyServer
        virtualNode := spec.virtualNode.or runtime.defaultTag }
    install node
    logLine .info "Node created"
    publish (.nodeCreated runtime.url url node.jobId node.virtualNode)
    return node

/-- Forgets the node at a URL, once this is unbound. -/
def tearDown (url : Url) : Work Unit := do
  modifyNodes (·.erase url)
  VirtualNode.detach url
  let _ ← BodyTable.evictFrom url
  logLine .info "Node killed"
  publish (.nodeKilled (← get).runtime.url url)

/-- Kills a node, if there is one of that name. -/
def kill (name : String) : Action (Option Node) := do
  let url ← ask (·.nodeUrl name)
  match (← get).runtime.nodes[url]? with
  | none =>
    logLine .debug "Kill of unknown node ignored"
    return none
  | some node =>
    let _ ← Registry.unregister url
    tearDown url
    return some node

/-- One step of the sweep over all nodes. A node that was not bound is torn down all the same. -/
def sweepOne (report : SweepReport) (url : Url) : Work SweepReport := do
  match (← get).runtime.nodes[url]? with
  | none => return report
  | some _ =>
    match ← attempt (Registry.unregister url) with
    | .ok .unbound =>
      tearDown url
      return report.recordSuccess url.display
    | .ok .wasAbsent =>
      logLine .warn "Tracked node was not bound"
      tearDown url
      return report.recordFailure url.display (.notBound url.display)
    | .error e =>
      logLine .warn "Failed to kill node"
      return report.recordFailure url.display e

/-- Kills every node, in the order of their URLs. -/
def killAll : Work SweepReport := do
  let report ← (← get).runtime.nodes.keys.foldlM sweepOne {}
  if !report.isClean then logLine .warn "Node sweep finished with failures"
  return report

/-- Sets the tag of all nodes that have none, and of those to come. -/
def setDefaultTag (tag : String) : Work Unit := do
  let untagged := (← get).runtime.nodes.untagged
  modifyRuntime fun runtime => { runtime with defaultTag := some tag }
  modifyNodes (·.tagUntagged tag)
  untagged.forM fun node => do let _ ← VirtualNode.attach tag node.url
  logLine .debug "Default virtual node name set"

end ActiveObjects.Node

import ActiveObjects.Security.Basic
import ActiveObjects.VirtualNode.Basic

/-!
# Nodes

A node is a place for bodies on one runtime. The table of a runtime holds them by URL.
-/

namespace ActiveObjects

/-- A request to create a node. The name may be a full URL. -/
structure NodeSpec where
  name : String
  replaceIfBound : Bool := true
  policyServer : Option PolicyServerRef := none
  virtualNode : Option String := none
  jobId : String := "-"
deriving DecidableEq

/-- A node with the tag that puts it in a virtual node. -/
structure Node where
  name : String
  url : Url
  owner : Url
  jobId : String
  policyServer : Option PolicyServerRef
  virtualNode : Option String
deriving DecidableEq

/-- The nodes of one runtime. -/
abbrev NodeTable := Std.ExtTreeMap Url Node

namespace NodeTable

/-- The URLs of the nodes whose tag names the given virtual node, in order. -/
def taggedWith (table : NodeTable) (virtualNode : String) : List Url :=
  (table.values.filter fun node =>
    node.virtualNode.any fun tag => VirtualNode.key tag = VirtualNode.key virtualNode).map (·.url)

/-- The names of the nodes in the order of their URLs. -/
def names (table : NodeTable) : List String := table.values.map (·.name)

/-- The nodes without a tag, in the order of their URLs. -/
def untagged (table : NodeTable) : List Node := table.values.filter (·.virtualNode.isNone)

/-- Gives a tag to every node that has none. -/
def tagUntagged (table : NodeTable) (tag : String) : NodeTable :=
  table.map fun _ node =>
    if node.virtualNode.isNone then { node with virtualNode := some tag } else node

end NodeTable

end ActiveObjects

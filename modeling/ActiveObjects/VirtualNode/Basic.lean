import ActiveObjects.Url.Basic
import ActiveObjects.Text.Split

/-!
# Virtual nodes

A virtual node is a named group of nodes. Several spellings of a name, with or without a URL in
front and one suffix `_VN`, have the same key.
-/

namespace ActiveObjects

namespace VirtualNode

open Text

/-- The suffix that a name may have. -/
def nameSuffix : String := "_VN"

/-- What stands after the last slash, without one suffix. -/
def key (name : String) : String :=
  let last := ((pieces (· == '/') name.toList).getLast?).getD []
  match after? nameSuffix.toList.reverse last.reverse with
  | some rest => String.ofList rest.reverse
  | none => String.ofList last

end VirtualNode

/-- A group with the URLs of its members in the order in which they joined. -/
structure VirtualNodeGroup where
  name : String
  url : Url
  members : List Url
deriving DecidableEq

/-- The groups of one runtime by key. -/
abbrev GroupTable := Std.ExtTreeMap String VirtualNodeGroup

namespace VirtualNodeGroup

/-- Adds a member at the end unless it is one already. -/
def join (group : VirtualNodeGroup) (node : Url) : VirtualNodeGroup :=
  if node ∈ group.members then group else { group with members := group.members ++ [node] }

/-- Removes a member. -/
def leave (group : VirtualNodeGroup) (node : Url) : VirtualNodeGroup :=
  { group with members := group.members.filter (· ≠ node) }

end VirtualNodeGroup

namespace GroupTable

/-- The group that a name in any spelling addresses. -/
def find? (groups : GroupTable) (name : String) : Option VirtualNodeGroup :=
  groups[VirtualNode.key name]?

/-- Puts a group under a URL, with further members. A group that is there keeps its members. -/
def enroll (groups : GroupTable) (key : String) (url : Url) (members : List Url) : GroupTable :=
  let group := match groups[key]? with
    | some group => { group with url }
    | none => ⟨key, url, []⟩
  groups.insert key (members.foldl VirtualNodeGroup.join group)

/-- The node may join the group of a given name: the group is there and the node is not in it. -/
def admits (groups : GroupTable) (name : String) (node : Url) : Bool :=
  (groups.find? name).any fun group => node ∉ group.members

/-- Adds a node to the group of a given name, if there is one. -/
def attach (groups : GroupTable) (name : String) (node : Url) : GroupTable :=
  groups.modify (VirtualNode.key name) (·.join node)

/-- Removes a node from all groups. -/
def detach (groups : GroupTable) (node : Url) : GroupTable :=
  groups.map fun _ group => group.leave node

end GroupTable

end ActiveObjects

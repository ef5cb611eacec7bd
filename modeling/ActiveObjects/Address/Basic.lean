import ActiveObjects.Address.Ipv6

/-! # Network addresses of either family -/

namespace ActiveObjects

inductive Address where
  | v4 (address : Ipv4)
  | v6 (address : Ipv6)
deriving DecidableEq

namespace Address

/-- Reads a dotted quad or eight groups. -/
def parse? (text : String) : Option Address :=
  match Ipv4.parse? text.toList with
  | some x => some (.v4 x)
  | none => (Ipv6.parse? text.toList).map .v6

def render : Address → String
  | .v4 x => x.render
  | .v6 x => x.render

/-- The address that a host has for itself. -/
def loopback : Address := .v4 ⟨127, 0, 0, 1⟩

end Address

end ActiveObjects

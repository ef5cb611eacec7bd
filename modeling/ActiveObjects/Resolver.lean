import ActiveObjects.Address.Basic
import ActiveObjects.Error

/-!
# Host resolution

A host has to resolve before a URL under it is published.
-/

namespace ActiveObjects

/-- Where the addresses of hosts come from. -/
inductive Resolver where
  /-- A fixed table; hosts are looked up in lower case. -/
  | table (hosts : Std.ExtTreeMap String Address)
  /-- Address literals and the local host. -/
  | literals

namespace Resolver

/-- A table from pairs; a later pair for a host replaces an earlier one. -/
def ofList (hosts : List (String × Address)) : Resolver :=
  .table (hosts.foldl (fun table (host, address) => table.insert (lowerCase host) address) ∅)

/-- The literal between any number of square brackets. -/
def literal? (host : String) : Option Address :=
  Address.parse? (String.ofList (Text.trimBoth (fun c => c == '[' || c == ']') host.toList))

def resolve (resolver : Resolver) (host : String) : Except RuntimeError Address :=
  match resolver with
  | .table hosts =>
    match hosts[lowerCase host]? with
    | some address => .ok address
    | none => .error (.hostResolution host "host not in static table")
  | .literals =>
    match literal? host with
    | some address => .ok address
    | none =>
      if lowerCase host = "localhost" then .ok Address.loopback
      else .error (.hostResolution host
        "failed to lookup address information: Name or service not known")

end Resolver

end ActiveObjects

import ActiveObjects.Text.Blank
import ActiveObjects.Address.Ipv6

/-!
# The parts of a canonical URL

Which transport tags, hosts and names a URL may hold, and what is wrong with the others.
-/

namespace ActiveObjects

namespace Url

open Text

/-- What can be wrong with a URL. -/
inductive Fault where
  | tagStart
  | tagCharacter
  | emptyHost
  | ipv6Literal
  | hostCharacter
  | emptyName
  | relativeName
  | reservedCharacter
  | relativeReference
  | port
  | ipv6Host
  | ipv4Host
  | domainCharacter
  | internationalDomain
  | missingHost
  | missingPort
  | queryOrFragment
  | nameEncoding
deriving DecidableEq, Repr

/-- The wording of a fault. -/
def Fault.reason : Fault → String
  | tagStart => "transport tag must start with a letter"
  | tagCharacter => "transport tag contains invalid characters"
  | emptyHost => "empty host"
  | ipv6Literal => "invalid IPv6 literal"
  | hostCharacter => "host contains invalid characters"
  | emptyName => "empty name"
  | relativeName => "relative path names are not allowed"
  | reservedCharacter => "name contains reserved characters"
  | relativeReference => "relative URL without a base"
  | port => "invalid port number"
  | ipv6Host => "invalid IPv6 address"
  | ipv4Host => "invalid IPv4 address"
  | domainCharacter => "invalid domain character"
  | internationalDomain => "invalid international domain name"
  | missingHost => "missing host"
  | missingPort => "missing port"
  | queryOrFragment => "query and fragment not allowed"
  | nameEncoding => "name is not valid UTF-8"

/-- Characters of a tag after its first letter. -/
def isTagChar (c : Char) : Bool := c.isAlphanum || c == '+' || c == '-' || c == '.'

/-- A tag is a letter followed by letters, digits and `+`, `-`, `.`. -/
def tagFault? (tag : String) : Option Fault :=
  match tag.toList with
  | [] => some .tagStart
  | c :: rest =>
    if !c.isAlpha then some .tagStart
    else if rest.all isTagChar then none else some .tagCharacter

/-- What stands between square brackets, if the whole text does. -/
def bracketed? (cs : List Char) : Option (List Char) := do
  beforeLast? ']' (← after? ['['] cs)

/-- A host is a bracketed IPv6 address, or letters, digits, hyphens and dots. -/
def hostFault? (host : String) : Option Fault :=
  if host.toList = [] then some .emptyHost
  else match bracketed? host.toList with
    | some literal => if (Ipv6.parse? literal).isSome then none else some .ipv6Literal
    | none =>
      if host.toList.all fun c => c.isAlphanum || c == '-' || c == '.' then none
      else some .hostCharacter

/-- Characters with a meaning of their own in URLs. -/
def isReserved (c : Char) : Bool :=
  ['/', '?', '#', '%', '@', ':', '[', ']', '\\'].contains c

/-- Characters that no name holds. -/
def isNameExcluded (c : Char) : Bool := isBlank c || isControl c || isReserved c

/-- A name is not empty, not a dot segment, and holds no excluded character. -/
def nameFault? (name : String) : Option Fault :=
  if name.toList = [] then some .emptyName
  else if name = "." ∨ name = ".." then some .relativeName
  else if name.toList.any isNameExcluded then some .reservedCharacter
  else none

/-- The first fault of tag, host and name, in this order. -/
def partsFault? (tag host name : String) : Option Fault :=
  (tagFault? tag).or ((hostFault? host).or (nameFault? name))

end Url

end ActiveObjects

import ActiveObjects.Text.Punycode
import ActiveObjects.Url.Domain.Direction
import ActiveObjects.Url.Domain.Joiner
import ActiveObjects.Url.Domain.Mapping

/-!
# Domain names of the web schemes

A domain of any characters has a form in ASCII, in which labels of other characters are encoded
behind the mark `xn--`. Domains of ASCII labels without the mark need no tables: they are written in
lower case.
-/

namespace ActiveObjects.Url

open Text

/-- ASCII characters that no domain holds. -/
def isDomainExcluded (c : Char) : Bool :=
  c.toNat ≤ 0x20 || c.toNat == 0x7F ||
    ['%', '#', '/', ':', '<', '>', '?', '@', '[', '\\', ']', '^', '|'].contains c

namespace Domain

/-- The start of an encoded label. -/
def mark : List Char := ['x', 'n', '-', '-']

/-- The labels between the dots of a domain. -/
def labels (cs : List Char) : List (List Char) := pieces (· == '.') cs

/-- A domain that is in ASCII and has no encoded labels. -/
def isPlain (cs : List Char) : Bool :=
  cs.all (fun c => c.toNat < 0x80 && !isDomainExcluded c) &&
    (labels (cs.map Char.toLower)).all fun label => !mark.isPrefixOf label

/-- The longest text that is encoded, and the longest code. -/
def maxEncoded : Nat := 1000

def maxCode : Nat := 2000

/-- What a label says. The text of an encoded label has to be needed, and to stand for itself. -/
def decodeLabel? (label : List Char) : Option (List Char) :=
  match after? mark label with
  | none => some label
  | some code => do
    guard (code.length ≤ maxCode)
    let text ← Punycode.decode? code
    guard (!text.all Punycode.isBasic ∧ mapText? text = some text)
    return text

/-- The ASCII form of a label. -/
def encodeLabel? (label : List Char) : Option (List Char) :=
  if label.all Punycode.isBasic then some label
  else if label.length ≤ maxEncoded then some (mark ++ Punycode.encode label)
  else none

/-- No mark stands first in a label, and no joiner without a reason. -/
def isProperLabel (label : List Char) : Bool := !label.head?.any isMark && joinersFit [] label

/-- The ASCII form of a domain by the tables. -/
def convert? (cs : List Char) : Option (List Char) := do
  let text ← mapText? cs
  guard (!text.any isDomainExcluded)
  let found ← (labels text).mapM decodeLabel?
  guard (found.all isProperLabel ∧ fitDirections found)
  return join ['.'] (← found.mapM encodeLabel?)

end Domain

/-- The ASCII form of a domain. -/
def domainToAscii? (cs : List Char) : Option (List Char) :=
  if Domain.isPlain cs then some (cs.map Char.toLower) else Domain.convert? cs

end ActiveObjects.Url

import ActiveObjects.Address.Ipv4

/-!
# IPv6 addresses

Eight groups of sixteen bits. In text one run of zero groups may be left out at a double colon,
and the last two groups may be a dotted quad.
-/

namespace ActiveObjects

/-- An address of eight groups. -/
structure Ipv6 where
  groups : List UInt16
  length_groups : groups.length = 8
deriving DecidableEq

namespace Ipv6

open Text

/-! ## Reading -/

/-- One to four hexadecimal digits. -/
def group? (cs : List Char) : Option UInt16 :=
  if cs ≠ [] ∧ cs.length ≤ 4 then (readHex? cs).map UInt16.ofNat else none

/-- The two groups of a dotted quad. -/
def quadGroups (x : Ipv4) : List UInt16 :=
  [x.a.toUInt16 * 256 + x.b.toUInt16, x.c.toUInt16 * 256 + x.d.toUInt16]

/-- Groups between colons, of which the last may be a dotted quad. -/
def groupsOfPieces? (quadAllowed : Bool) : List (List Char) → Option (List UInt16)
  | [] => some []
  | [last] =>
    match group? last with
    | some g => some [g]
    | none => if quadAllowed then (Ipv4.parse? last).map quadGroups else none
  | piece :: more => do
    let g ← group? piece
    return g :: (← groupsOfPieces? quadAllowed more)

/-- A possibly empty run of groups. -/
def run? (quadAllowed : Bool) (cs : List Char) : Option (List UInt16) :=
  if cs = [] then some [] else groupsOfPieces? quadAllowed (pieces (· == ':') cs)

/-- Eight groups as an address. -/
def ofGroups? (groups : List UInt16) : Option Ipv6 :=
  if h : groups.length = 8 then some ⟨groups, h⟩ else none

/-- Reads an address; a double colon stands for at least one zero group. -/
def parse? (cs : List Char) : Option Ipv6 :=
  match cutAt? [':', ':'] cs with
  | none => do ofGroups? (← run? true cs)
  | some (before, after) => do
    let head ← run? false before
    let tail ← run? true after
    guard (head.length + tail.length ≤ 7)
    ofGroups? (head ++ List.replicate (8 - head.length - tail.length) 0 ++ tail)

/-! ## Writing -/

/-- The length of the run of zeros at the front. -/
def zeroRun (groups : List UInt16) : Nat := (groups.takeWhile (· == 0)).length

/-- Start and length of the longest run of zeros, the first of equals. -/
def longestZeros (start : Nat) : List UInt16 → Nat × Nat
  | [] => (start, 0)
  | g :: more =>
    let here := zeroRun (g :: more)
    let later := longestZeros (start + 1) more
    if later.2 ≤ here then (start, here) else later

/-- Groups in lower-case hexadecimal with colons between. -/
def colonSeparated (groups : List UInt16) : List Char :=
  join [':'] (groups.map fun g => hexNumber g.toNat)

/-- The text with the longest run of at least two zero groups left out. -/
def renderGroups (x : Ipv6) : String :=
  let (start, length) := longestZeros 0 x.groups
  String.ofList <|
    if 1 < length then
      colonSeparated (x.groups.take start) ++ [':', ':'] ++
        colonSeparated (x.groups.drop (start + length))
    else colonSeparated x.groups

/-- As `renderGroups`, but an address that stands for an IPv4 address shows its dotted quad. -/
def render (x : Ipv6) : String :=
  match x.groups with
  | [0, 0, 0, 0, 0, 0xFFFF, high, low] =>
    s!"::ffff:{(Ipv4.ofNat (high.toNat * 65536 + low.toNat)).render}"
  | _ => x.renderGroups

end Ipv6

end ActiveObjects

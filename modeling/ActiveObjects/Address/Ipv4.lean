import ActiveObjects.Text.Hex
import ActiveObjects.Text.Split

/-!
# IPv4 addresses

Two spellings are read: the strict dotted quad, and the loose numeric forms that URL hosts of the
web schemes admit (fewer than four parts, octal and hexadecimal parts, a final dot).
-/

namespace ActiveObjects

/-- An address of four octets. -/
structure Ipv4 where
  a : UInt8
  b : UInt8
  c : UInt8
  d : UInt8
deriving DecidableEq, Repr

namespace Ipv4

open Text

/-- The octets of a number below 2 ^ 32, most significant first. -/
def ofNat (n : Nat) : Ipv4 :=
  ⟨UInt8.ofNat (n / 0x1000000), UInt8.ofNat (n / 0x10000), UInt8.ofNat (n / 0x100), UInt8.ofNat n⟩

/-- The dotted quad. -/
def render (x : Ipv4) : String :=
  s!"{x.a.toNat}.{x.b.toNat}.{x.c.toNat}.{x.d.toNat}"

/-! ## Strict form -/

/-- One to three digits without a zero in front, at most 255. -/
def octet? (cs : List Char) : Option UInt8 :=
  match cs with
  | [] => none
  | '0' :: _ :: _ => none
  | _ =>
    if cs.length ≤ 3 then
      match readDecimal? cs with
      | some n => if n ≤ 255 then some (UInt8.ofNat n) else none
      | none => none
    else none

/-- Reads a dotted quad. -/
def parse? (cs : List Char) : Option Ipv4 :=
  match pieces (· == '.') cs with
  | [a, b, c, d] => do return ⟨← octet? a, ← octet? b, ← octet? c, ← octet? d⟩
  | _ => none

/-! ## Loose form -/

/-- A part of a loose address: hexadecimal after `0x`, octal after a zero, else decimal. -/
def loosePart? : List Char → Option Nat
  | [] => none
  | '0' :: 'x' :: digits => readHex? digits
  | '0' :: 'X' :: digits => readHex? digits
  | '0' :: c :: digits =>
    readDigits? 8 (fun c => (decimalValue? c).filter (· < 8)) (c :: digits)
  | digits => readDecimal? digits

/-- The parts between dots; an empty part after a final dot does not count. -/
def looseParts (cs : List Char) : List (List Char) :=
  let parts := pieces (· == '.') cs
  if parts.getLast? = some [] then parts.dropLast else parts

/-- A host is read as an address exactly when its last part looks like a number. -/
def endsInNumber (cs : List Char) : Bool :=
  match (looseParts cs).getLast? with
  | none => false
  | some last => (last ≠ [] && last.all Char.isDigit) || (loosePart? last).isSome

/-- Every part but the last fills one octet; the last fills the octets that remain. -/
def parseLoose? (cs : List Char) : Option Ipv4 := do
  let parts := looseParts cs
  guard (parts.length ≤ 4)
  let numbers ← parts.mapM loosePart?
  let last ← numbers.getLast?
  let front := numbers.dropLast
  guard (last < Nat.pow 2 (32 - 8 * front.length))
  guard (front.all (· ≤ 255))
  return ofNat (front.zipIdx.foldl (fun n (octet, i) => n + octet * Nat.pow 2 (24 - 8 * i)) last)

end Ipv4

end ActiveObjects

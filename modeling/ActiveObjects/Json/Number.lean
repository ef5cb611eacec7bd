import ActiveObjects.Json.Basic
import ActiveObjects.Text.Hex
import ActiveObjects.Word

/-!
# Reading JSON numbers

A number without point and exponent that fits 64 bits is an integer; minus zero is not. All others
take the leading digits that fit 64 bits as a binary number and scale it by a power of ten, with
one rounding each, so the last bit may differ from the nearest number.
-/

namespace ActiveObjects.Json

open Text

/-- The parts of a number's text. -/
structure NumberParts where
  negative : Bool
  whole : List Nat
  fraction : List Nat
  exponent : Option Int

/-- Digits at the front and what follows them. -/
def cutDigits (cs : List Char) : List Nat × List Char :=
  ((cs.takeWhile Char.isDigit).map fun c => c.toNat - '0'.toNat, cs.dropWhile Char.isDigit)

/-- The fraction after a point. -/
def cutFraction? (cs : List Char) : Option (List Nat × List Char) :=
  match cs with
  | '.' :: rest =>
    match cutDigits rest with
    | ([], _) => none
    | found => some found
  | _ => some ([], cs)

/-- The exponent, which ends the text. -/
def exponent? (cs : List Char) : Option (Option Int) :=
  match cs with
  | [] => some none
  | e :: rest =>
    if e ≠ 'e' ∧ e ≠ 'E' then none
    else
      let (negative, digits) := match rest with
        | '-' :: digits => (true, digits)
        | '+' :: digits => (false, digits)
        | digits => (false, digits)
      if digits = [] then none
      else (readDecimal? digits).map fun n => some (if negative then -(n : Int) else n)

/-- Takes a number's text apart; there are no zeros in front. -/
def numberParts? (cs : List Char) : Option NumberParts := do
  let (negative, rest) := match cs with
    | '-' :: rest => (true, rest)
    | rest => (false, rest)
  let (whole, rest) := cutDigits rest
  guard (whole ≠ [] ∧ (whole.head? ≠ some 0 ∨ whole.length = 1))
  let (fraction, rest) ← cutFraction? rest
  return ⟨negative, whole, fraction, ← exponent? rest⟩

/-- Appends digits as long as the number fits 64 bits; gives the number and the digits that are
left over. -/
def takeWord (n : Nat) : List Nat → Nat × List Nat
  | [] => (n, [])
  | d :: ds => if n * 10 + d ≤ maxWord then takeWord (n * 10 + d) ds else (n, d :: ds)

/-- Divides by `10 ^ 308` up to `steps` times, or until nothing is left. -/
def divideDown (x : Binary64) : (steps : Nat) → Binary64
  | 0 => x
  | steps + 1 =>
    match x, Binary64.ofDecimal false 1 308 with
    | .finite false (m + 1) q, .finite _ m' q' =>
      divideDown (Binary64.divPos (m + 1) q m' q') steps
    | _, _ => x

/-- `n · 10 ^ e`, rounded after each step. -/
def scaleWord (n : Nat) (e : Int) : Binary64 :=
  let x := Binary64.ofNat n
  if 308 < e then if n = 0 then x else .infinite false
  else
    let steps := (e.natAbs - 1) / 308
    let x := if e < 0 then divideDown x steps else x
    let left := if e < 0 then e.natAbs - 308 * steps else e.natAbs
    match x, Binary64.ofDecimal false 1 left with
    | .finite _ m q, .finite _ m' q' =>
      if e < 0 then Binary64.divPos m q m' q' else Binary64.mulPos m q m' q'
    | _, _ => x

/-- The number that the parts denote when they are no integer of 64 bits. -/
def NumberParts.scaled (p : NumberParts) : Numeral :=
  let (n, left) := takeWord 0 p.whole
  let (n', unused) := takeWord n p.fraction
  let places : Int := left.length - (p.fraction.length - unused.length : Nat)
  match scaleWord n' (places + p.exponent.getD 0) with
  | .finite _ m q => .number (.float p.negative m q)
  | _ => .tooLarge

/-- Reads a number. -/
def numeral? (cs : List Char) : Option Numeral := do
  let p ← numberParts? cs
  match p.fraction, p.exponent, takeWord 0 p.whole with
  | [], none, (n, []) =>
    if !p.negative then return .number (.integer n)
    else if 0 < n ∧ minInteger ≤ -(n : Int) then return .number (.integer (-n))
    else return p.scaled
  | _, _, _ => return p.scaled

end ActiveObjects.Json

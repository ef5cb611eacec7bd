import ActiveObjects.Decimal.Binary64
import ActiveObjects.Text.Hex
import ActiveObjects.Text.Scan
import ActiveObjects.Word

/-!
# Reading numbers

Texts that are numbers as a whole: integers of 64 bits in any base, and decimals with a point and an
exponent. Both may have a sign of either kind.
-/

namespace ActiveObjects.Decimal

open Text

/-- A sign at the front, which is true for minus, and what follows it. -/
def cutSign (cs : List Char) : Bool × List Char :=
  match cs with
  | '-' :: rest => (true, rest)
  | '+' :: rest => (false, rest)
  | _ => (false, cs)

/-- An integer of 64 bits in a base up to sixteen. -/
def integerIn? (base : Nat) (cs : List Char) : Option Int := do
  let (negative, digits) := cutSign cs
  guard (digits ≠ [])
  let n ← readDigits? base (fun c => (hexValue? c).filter (· < base)) digits
  let n : Int := if negative then -n else n
  guard (minInteger ≤ n ∧ n ≤ maxInteger)
  return n

/-- An integer of 64 bits. -/
def integer? (cs : List Char) : Option Int := integerIn? 10 cs

/-- The power of ten of a number, which may be left out. -/
def exponent : Scan Int :=
  (do
    let _ ← Scan.char fun c => c == 'e' || c == 'E'
    let negative ← Scan.accept '-'
    if !negative then
      let _ ← Scan.accept '+'
    let n ← (readDecimal? (← Scan.chars₁ Char.isDigit) : Option Nat)
    return if negative then -n else n)
  <|> pure 0

/-- Digits with a point anywhere or nowhere, and an exponent. -/
def unsigned (negative : Bool) : Scan Binary64 := do
  let whole ← Scan.chars Char.isDigit
  let places ← if ← Scan.accept '.' then Scan.chars Char.isDigit else pure []
  guard (whole ++ places ≠ [])
  let e ← exponent
  let m ← (readDecimal? (whole ++ places) : Option Nat)
  return .ofDecimal negative m (e - places.length)

/-- A number, infinity or not-a-number. -/
def number? (cs : List Char) : Option Binary64 :=
  let (negative, rest) := cutSign cs
  match String.ofList (rest.map Char.toLower) with
  | "inf" | "infinity" => some (.infinite negative)
  | "nan" => some .nan
  | _ => Scan.all? (unsigned negative) rest

end ActiveObjects.Decimal

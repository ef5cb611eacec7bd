import ActiveObjects.Decimal.Binary64

/-!
# Shortest decimals

The decimal with the fewest digits among those that round to a given binary number; among several
of that length, the nearest.
-/

namespace ActiveObjects.Decimal

/-- The value `0.d₁d₂… · 10 ^ point`, without zeros at the end of the digits. -/
structure Digits where
  digits : List Char
  point : Int
deriving DecidableEq, Repr

/-- The greatest power of ten that is not above a positive quotient. -/
def floorLog10 (num den : Nat) : Int :=
  if den ≤ num then (Nat.toDigits 10 (num / den)).length - 1
  else -(Nat.toDigits 10 ((den - 1) / num)).length

/-- Numerator and denominator of `num / den · 10 ^ (-k)`. -/
def scale10 (num den : Nat) (k : Int) : Nat × Nat :=
  if k < 0 then (num * Nat.pow 10 k.natAbs, den) else (num, den * Nat.pow 10 k.natAbs)

/-- An interval of rationals with a common denominator around `value`, ends included or not. -/
structure Interval where
  low : Nat
  value : Nat
  high : Nat
  den : Nat
  closed : Bool

/-- The numbers that round to `m · 2 ^ q`. Below a power of two the neighbours lie half as far. -/
def roundingInterval (m : Nat) (q : Int) : Interval :=
  let (num, den) := Binary64.ratio m (q - 2)
  let unit := num / m
  let below := if m = Binary64.minNormal ∧ Binary64.minExponent < q then unit else 2 * unit
  ⟨4 * num - below, 4 * num, 4 * num + 2 * unit, den, m % 2 = 0⟩

/-- Membership of `d · 10 ^ k`. -/
def Interval.contains (i : Interval) (d : Nat) (k : Int) : Bool :=
  let x := if k < 0 then d * i.den else d * i.den * Nat.pow 10 k.natAbs
  let s := if k < 0 then Nat.pow 10 k.natAbs else 1
  if i.closed then i.low * s ≤ x && x ≤ i.high * s else i.low * s < x && x < i.high * s

/-- On the grid of multiples of `10 ^ k`: the neighbour of the value that lies in the interval, the
nearer if both do, the even one if both are equally near. -/
def Interval.nearestOnGrid? (i : Interval) (k : Int) : Option Nat :=
  let (a, b) := scale10 i.value i.den k
  let d := a / b
  let twice := 2 * (a % b)
  match i.contains d k, i.contains (d + 1) k with
  | false, false => none
  | true, false => some d
  | false, true => some (d + 1)
  | true, true => some (if twice < b then d else if b < twice then d + 1 else d + d % 2)

/-- Digits of a number without the zeros at its end; the point stands `k` places after the last
digit of the number. -/
def Digits.ofNat (d : Nat) (k : Int) : Digits :=
  let all := Nat.toDigits 10 d
  ⟨(all.reverse.dropWhile (· == '0')).reverse, all.length + k⟩

/-- The shortest decimal of a positive number `m · 2 ^ q`. -/
def shortest (m : Nat) (q : Int) : Digits :=
  let i := roundingInterval m q
  let top := floorLog10 i.value i.den
  match (List.range 17).findSome? fun (n : Nat) =>
      (i.nearestOnGrid? (top - n)).map fun d => Digits.ofNat d (top - n) with
  | some found => found
  | none => ⟨[], 0⟩

/-- Positional notation; whole numbers have no decimal point. -/
def Digits.positional (x : Digits) : List Char :=
  if x.point ≤ 0 then '0' :: '.' :: List.replicate x.point.natAbs '0' ++ x.digits
  else
    let whole := x.point.natAbs
    if x.digits.length ≤ whole then x.digits ++ List.replicate (whole - x.digits.length) '0'
    else x.digits.take whole ++ '.' :: x.digits.drop whole

/-- Scientific notation without a plus sign; a single digit has no decimal point. -/
def Digits.scientific (x : Digits) : List Char :=
  let mantissa := match x.digits with
    | [] => []
    | [d] => [d]
    | d :: more => d :: '.' :: more
  mantissa ++ 'e' :: (toString (x.point - 1)).toList

/-- A number in positional notation. -/
def plainText : Binary64 → String
  | .nan => "NaN"
  | .infinite negative => if negative then "-inf" else "inf"
  | .finite negative m q =>
    let digits := if m = 0 then ['0'] else (shortest m q).positional
    String.ofList (if negative then '-' :: digits else digits)

/-- A finite number as JSON writes it: positional with at least one digit on either side of the
point from `10 ^ -5` up to `10 ^ 16`, scientific outside. -/
def jsonText (negative : Bool) (m : Nat) (q : Int) : List Char :=
  let text :=
    if m = 0 then ['0', '.', '0']
    else
      let x := shortest m q
      if -5 < x.point ∧ x.point ≤ 16 then
        if (x.digits.length : Int) ≤ x.point then x.positional ++ ['.', '0'] else x.positional
      else x.scientific
  if negative then '-' :: text else text

end ActiveObjects.Decimal

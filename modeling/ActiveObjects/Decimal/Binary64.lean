/-!
# Binary floating point

Numbers of 53 significant bits, held exactly. `ofRatio` rounds a quotient to the nearest of them,
ties to even; all else is exact arithmetic on natural numbers.
-/

namespace ActiveObjects

/-- A finite number is `m · 2 ^ q` with a sign. -/
inductive Binary64 where
  | finite (negative : Bool) (m : Nat) (q : Int)
  | infinite (negative : Bool)
  | nan
deriving DecidableEq, Repr

namespace Binary64

/-- The least exponent. -/
def minExponent : Int := -1074

/-- The greatest exponent. -/
def maxExponent : Int := 971

/-- The least number of 53 bits. All numbers but those of the least exponent have that many. -/
def minNormal : Nat := 0x10000000000000

def zero (negative : Bool) : Binary64 := .finite negative 0 minExponent

/-- The quotient rounded to the nearest integer, a half to the even neighbour. -/
def roundDiv (num den : Nat) : Nat :=
  let low := num / den
  let twice := 2 * (num % den)
  if twice < den then low
  else if den < twice then low + 1
  else low + low % 2

/-- Numerator and denominator of `num / den · 2 ^ (-q)`. -/
def scale (num den : Nat) (q : Int) : Nat × Nat :=
  if q < 0 then (num * Nat.pow 2 q.natAbs, den) else (num, den * Nat.pow 2 q.natAbs)

/-- The greatest power of two that is not above a positive quotient. -/
def floorLog2 (num den : Nat) : Int :=
  let guess : Int := num.log2 - den.log2
  let (a, b) := scale num den guess
  if b ≤ a then guess else guess - 1

/-- The number nearest to a quotient. -/
def ofRatio (negative : Bool) (num den : Nat) : Binary64 :=
  if num = 0 then zero negative
  else
    let q := max (floorLog2 num den - 52) minExponent
    let (a, b) := scale num den q
    let m := roundDiv a b
    let (m, q) := if m = 2 * minNormal then (minNormal, q + 1) else (m, q)
    if maxExponent < q then .infinite negative else .finite negative m q

/-- Numerator and denominator of `m · 2 ^ q`. -/
def ratio (m : Nat) (q : Int) : Nat × Nat :=
  if q < 0 then (m, Nat.pow 2 q.natAbs) else (m * Nat.pow 2 q.natAbs, 1)

def ofNat (n : Nat) : Binary64 := ofRatio false n 1

/-- The number nearest to `m · 10 ^ e`. Far out of range the exponent alone decides. -/
def ofDecimal (negative : Bool) (m : Nat) (e : Int) : Binary64 :=
  let size : Int := (Nat.toDigits 10 m).length
  if m = 0 ∨ e + size < -400 then zero negative
  else if 400 < e + size then .infinite negative
  else if e < 0 then ofRatio negative m (Nat.pow 10 e.natAbs)
  else ofRatio negative (m * Nat.pow 10 e.natAbs) 1

/-- Rounded product of two positive finite numbers. -/
def mulPos (m : Nat) (q : Int) (m' : Nat) (q' : Int) : Binary64 :=
  let (a, b) := ratio m q
  let (a', b') := ratio m' q'
  ofRatio false (a * a') (b * b')

/-- Rounded quotient of two positive finite numbers. -/
def divPos (m : Nat) (q : Int) (m' : Nat) (q' : Int) : Binary64 :=
  let (a, b) := ratio m q
  let (a', b') := ratio m' q'
  ofRatio false (a * b') (b * a')

/-- Changes the sign. -/
def neg : Binary64 → Binary64
  | .finite negative m q => .finite (!negative) m q
  | .infinite negative => .infinite (!negative)
  | .nan => .nan

/-- A number other than zero; not-a-number counts. -/
def isNonzero : Binary64 → Bool
  | .finite _ m _ => m ≠ 0
  | .infinite _ | .nan => true

/-- The nearest integer of a number that is not negative, a half going up; negative numbers and
not-a-number give zero, and `limit` bounds the result. -/
def roundToNat (limit : Nat) : Binary64 → Nat
  | .finite true _ _ | .infinite true | .nan => 0
  | .infinite false => limit
  | .finite false m q =>
    let (a, b) := ratio m q
    min limit ((2 * a + b) / (2 * b))

end Binary64

end ActiveObjects

import ActiveObjects.Text.Utf8

/-!
# Punycode

Texts of any characters in ASCII: the ASCII characters come first, and after a hyphen stand the
places and the numbers of all others in ascending order, each as the distance from the one before.
Distances are numbers in base 36 whose digits have thresholds; the first digit below its threshold
is the last one of a number.
-/

namespace ActiveObjects.Text.Punycode

/-! ## Digits -/

def digit (n : Nat) : Char :=
  if n < 26 then Char.ofNat ('a'.toNat + n) else Char.ofNat ('0'.toNat + (n - 26))

def value? (c : Char) : Option Nat :=
  if c.isDigit then some (c.toNat - '0'.toNat + 26)
  else if c.isAlpha then some (c.toLower.toNat - 'a'.toNat)
  else none

/-- The threshold of the digit at a place; the places are `36`, `72` and so on. -/
def threshold (bias place : Nat) : Nat := max 1 (min 26 (place - bias))

/-- Scales a distance down to 455. Gives the rest, and 36 for each division. -/
def scaleDown (delta : Nat) : Nat × Nat :=
  if 455 < delta then
    let (rest, k) := scaleDown (delta / 35)
    (rest, k + 36)
  else (delta, 0)
termination_by delta
decreasing_by exact Nat.div_lt_self (by omega) (by omega)

/-- The bias after a distance, when so many characters are there. -/
def adapt (delta count : Nat) (isFirst : Bool) : Nat :=
  let delta := if isFirst then delta / 700 else delta / 2
  let (rest, k) := scaleDown (delta + delta / count)
  k + 36 * rest / (rest + 38)

theorem one_le_threshold (bias place : Nat) : 1 ≤ threshold bias place := by
  unfold threshold; omega

/-- The digits of a distance from some place on. -/
def digits (bias place n : Nat) : List Char :=
  let t := threshold bias place
  if h : n < t then [digit n]
  else digit (t + (n - t) % (36 - t)) :: digits bias (place + 36) ((n - t) / (36 - t))
termination_by n
decreasing_by
  have := one_le_threshold bias place
  exact Nat.lt_of_le_of_lt (Nat.div_le_self _ _) (by omega)

/-! ## Writing -/

/-- The digits so far, the distance since the last number, the bias, and how many characters have
been written. -/
structure Encoder where
  written : List Char
  delta : Nat
  bias : Nat
  count : Nat

/-- Passes a character while the characters with a given number are being written. -/
def Encoder.pass (basic n : Nat) (e : Encoder) (c : Char) : Encoder :=
  if c.toNat < n then { e with delta := e.delta + 1 }
  else if c.toNat = n then
    { written := e.written ++ digits e.bias 36 e.delta
      delta := 0
      bias := adapt e.delta (e.count + 1) (e.count = basic)
      count := e.count + 1 }
  else e

/-- Writes all characters with the given numbers, which ascend from `next`. -/
def Encoder.writeAll (cs : List Char) (basic : Nat) (e : Encoder) :
    (next : Nat) → List Nat → Encoder
  | _, [] => e
  | next, n :: more =>
    let e := { e with delta := e.delta + (n - next) * (e.count + 1) }
    let e := cs.foldl (Encoder.pass basic n) e
    writeAll cs basic { e with delta := e.delta + 1 } (n + 1) more

def isBasic (c : Char) : Bool := c.toNat < 0x80

/-- The ASCII form of a text. -/
def encode (cs : List Char) : List Char :=
  let basic := cs.filter isBasic
  let numbers := ((cs.filter (!isBasic ·)).map Char.toNat).eraseDups.mergeSort
  let e := Encoder.writeAll cs basic.length ⟨[], 0, 72, basic.length⟩ 0x80 numbers
  if basic = [] then e.written else basic ++ '-' :: e.written

/-! ## Reading -/

/-- The characters so far; the number of the next one, the bias and the place where the search for
it starts; and of the distance that is being read its value, and the weight and place of the next
digit. -/
structure Decoder where
  read : List Char
  number : Nat := 0x80
  bias : Nat := 72
  start : Nat := 0
  sum : Nat := 0
  weight : Nat := 1
  place : Nat := 36

def Decoder.step? (d : Decoder) (c : Char) : Option Decoder := do
  let n ← value? c
  let sum := d.sum + n * d.weight
  let t := threshold d.bias d.place
  if t ≤ n then
    return { d with sum, weight := d.weight * (36 - t), place := d.place + 36 }
  else
    let count := d.read.length + 1
    let position := d.start + sum
    let number := d.number + position / count
    let found ← Utf8.scalar? 0x80 number
    return { read := d.read.insertIdx (position % count) found
             number
             bias := adapt sum count (d.start = 0)
             start := position % count + 1 }

/-- The text of an ASCII form. Nothing but a hyphen may not stand before the distances. -/
def decode? (cs : List Char) : Option (List Char) := do
  let code := (cs.reverse.takeWhile (· ≠ '-')).reverse
  let basic := ((cs.reverse.dropWhile (· ≠ '-')).drop 1).reverse
  guard (basic.all isBasic ∧ (basic ≠ [] ∨ !cs.contains '-'))
  let d ← code.foldlM Decoder.step? { read := basic }
  guard (d.place = 36)
  return d.read

end ActiveObjects.Text.Punycode

/-! # Digits in base ten and sixteen -/

namespace ActiveObjects.Text

/-- The value of a decimal digit. -/
def decimalValue? (c : Char) : Option Nat :=
  if c.isDigit then some (c.toNat - '0'.toNat) else none

/-- The value of a hexadecimal digit of either letter case. -/
def hexValue? (c : Char) : Option Nat :=
  if c.isDigit then some (c.toNat - '0'.toNat)
  else if 'a' ≤ c ∧ c ≤ 'f' then some (c.toNat - 'a'.toNat + 10)
  else if 'A' ≤ c ∧ c ≤ 'F' then some (c.toNat - 'A'.toNat + 10)
  else none

/-- The lower-case digit of a value below sixteen. -/
def hexDigit (n : Nat) : Char :=
  if n < 10 then Char.ofNat ('0'.toNat + n) else Char.ofNat ('a'.toNat + (n - 10))

/-- The upper-case digit of a value below sixteen. -/
def upperHexDigit (n : Nat) : Char :=
  if n < 10 then Char.ofNat ('0'.toNat + n) else Char.ofNat ('A'.toNat + (n - 10))

/-- Reads digits most significant first, in any base; `none` if one of them is no digit. -/
def readDigits? (base : Nat) (value? : Char → Option Nat) (cs : List Char) : Option Nat :=
  cs.foldlM (fun n c => (value? c).map (base * n + ·)) 0

/-- Reads a possibly empty run of decimal digits. -/
def readDecimal? (cs : List Char) : Option Nat :=
  readDigits? 10 decimalValue? cs

/-- Reads a possibly empty run of hexadecimal digits. -/
def readHex? (cs : List Char) : Option Nat :=
  readDigits? 16 hexValue? cs

/-- The lowest `width` hexadecimal digits of a number, most significant first. -/
def hexDigits : (width : Nat) → Nat → List Char
  | 0, _ => []
  | width + 1, n => hexDigits width (n / 16) ++ [hexDigit (n % 16)]

/-- A number in base ten with zeros in front up to `width` digits. -/
def padDecimal (width n : Nat) : List Char :=
  let digits := Nat.toDigits 10 n
  List.replicate (width - digits.length) '0' ++ digits

/-- A number in base sixteen without zeros in front. -/
def hexNumber (n : Nat) : List Char := Nat.toDigits 16 n

end ActiveObjects.Text

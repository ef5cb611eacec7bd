import ActiveObjects.Timestamp
import ActiveObjects.Toml.Basic
import ActiveObjects.Toml.Lexical
import ActiveObjects.Word

/-!
# Numbers and dates of TOML
-/

namespace ActiveObjects.Toml

open Text

/-! ## Numbers -/

/-- Digits, of which any two may have one underscore between. -/
def digitRun (isDigit : Char → Bool) : Scan (List Char) := do
  let first ← Scan.char isDigit
  let more ← Scan.many (Scan.char isDigit <|> do Scan.exactly '_'; Scan.char isDigit)
  return first :: more

/-- A sign, which is true for minus; plus if there is none. -/
def sign : Scan Bool := do
  if ← Scan.accept '-' then return true
  let _ ← Scan.accept '+'
  return false

/-- A sign and digits without zeros in front. -/
def decimal : Scan (Bool × List Char) := do
  let negative ← sign
  if ← Scan.accept '0' then return (negative, ['0'])
  return (negative, ← digitRun Char.isDigit)

/-- An integer of 64 bits. -/
def ofInt? (n : Int) : Option Toml :=
  if minInteger ≤ n ∧ n ≤ maxInteger then some (.integer n) else none

/-- An integer in another base after its mark. -/
def based (mark : Char) (base : Nat) : Scan Toml := do
  Scan.word ['0', mark]
  let value? (c : Char) : Option Nat := (hexValue? c).filter (· < base)
  let digits ← digitRun fun c => (value? c).isSome
  let n ← (readDigits? base value? digits : Option Nat)
  (ofInt? n : Option Toml)

def readInteger : Scan Toml :=
  based 'x' 16 <|> based 'o' 8 <|> based 'b' 2 <|> do
    let (negative, digits) ← decimal
    let n ← (readDecimal? digits : Option Nat)
    (ofInt? (if negative then -n else n) : Option Toml)

def exponent : Scan Int := do
  let _ ← Scan.char fun c => c == 'e' || c == 'E'
  let negative ← sign
  let n ← (readDecimal? (← digitRun Char.isDigit) : Option Nat)
  return if negative then -n else n

/-- A number with a fraction, an exponent or both. It must not be too large, but may be too small
below zero. -/
def readFloat : Scan Toml := do
  let (negative, whole) ← decimal
  let fraction ← Scan.optional do Scan.exactly '.'; digitRun Char.isDigit
  let exponent ← Scan.optional exponent
  guard (fraction.isSome || exponent.isSome)
  let places := fraction.getD []
  let m ← (readDecimal? (whole ++ places) : Option Nat)
  let x := Binary64.ofDecimal negative m (exponent.getD 0 - places.length)
  guard (x ≠ .infinite false)
  return .float x

/-- Infinity and not-a-number. -/
def readSpecial : Scan Toml := do
  let negative ← sign
  (do Scan.word ['i', 'n', 'f']; return .float (.infinite negative)) <|>
    do Scan.word ['n', 'a', 'n']; return .float .nan

/-! ## Dates and times -/

/-- Exactly `width` digits, and their number. -/
def fixed (width : Nat) : Scan (List Char × Nat) := do
  let digits ← Scan.upTo (Scan.char Char.isDigit) width
  guard (digits.length = width)
  let n ← (readDecimal? digits : Option Nat)
  return (digits, n)

/-- A day of the calendar. -/
def date : Scan (List Char) := do
  let (y, year) ← fixed 4
  Scan.exactly '-'
  let (m, month) ← fixed 2
  Scan.exactly '-'
  let (d, day) ← fixed 2
  guard (Timestamp.isProper year month day 0 0 0 0)
  return y ++ '-' :: m ++ '-' :: d

/-- A time of day. Of its fraction nine digits count, and those are written without zeros at the
end. -/
def time : Scan (List Char) := do
  let (h, hour) ← fixed 2
  Scan.exactly ':'
  let (m, minute) ← fixed 2
  Scan.exactly ':'
  let (s, second) ← fixed 2
  guard (hour ≤ 23 && minute ≤ 59 && second ≤ 60)
  let fraction ← Scan.optional do Scan.exactly '.'; Scan.chars₁ Char.isDigit
  let counted := (((fraction.getD []).take 9).reverse.dropWhile (· == '0')).reverse
  return h ++ ':' :: m ++ ':' :: s ++ if counted = [] then [] else '.' :: counted

/-- An offset from UTC. One of no minutes is written with a plus sign. -/
def offset : Scan (List Char) :=
  (do
    let _ ← Scan.char fun c => c == 'Z' || c == 'z'
    return ['Z'])
  <|> do
    let c ← Scan.char fun c => c == '+' || c == '-'
    let (h, hour) ← fixed 2
    Scan.exactly ':'
    let (m, minute) ← fixed 2
    guard (hour ≤ 23 && minute ≤ 59)
    return (if hour = 0 ∧ minute = 0 then '+' else c) :: h ++ ':' :: m

def readMoment : Scan Toml :=
  (do
    let day ← date
    let clock ← Scan.optional do
      let _ ← Scan.char fun c => c == 'T' || c == 't' || c == ' '
      return 'T' :: (← time) ++ ((← Scan.optional offset).getD [])
    return .moment (String.ofList (day ++ clock.getD [])))
  <|> do return .moment (String.ofList (← time))

/-! ## Scalars -/

def readText : Scan Toml := do return .text (String.ofList (← multiLine <|> singleLine))

def readBool : Scan Toml :=
  (do Scan.word ['t', 'r', 'u', 'e']; return .bool true) <|>
    do Scan.word ['f', 'a', 'l', 's', 'e']; return .bool false

def readScalar : Scan Toml :=
  readText <|> readBool <|> readMoment <|> readFloat <|> readSpecial <|> readInteger

end ActiveObjects.Toml

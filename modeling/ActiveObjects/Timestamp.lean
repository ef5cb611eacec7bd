import ActiveObjects.Text.Blank
import ActiveObjects.Text.Hex

/-!
# Instants

An instant is held as the fields of its date and time in UTC. The text form is `render`; reading is
more liberal, and takes any offset from UTC.
-/

namespace ActiveObjects

namespace Timestamp

def isLeapYear (year : Int) : Bool := year % 4 = 0 && (year % 100 ≠ 0 || year % 400 = 0)

/-- The number of days of a month. -/
def daysIn (year : Int) (month : Nat) : Nat :=
  if month = 2 then (if isLeapYear year then 29 else 28)
  else if [4, 6, 9, 11].contains month then 30
  else 31

/-- The fields name a day and a time of day; second 60 is a leap second. -/
def isProper (year : Int) (month day hour minute second nanosecond : Nat) : Bool :=
  -262143 ≤ year && year ≤ 262142 && 1 ≤ month && month ≤ 12 && 1 ≤ day &&
    day ≤ daysIn year month && hour ≤ 23 && minute ≤ 59 && second ≤ 60 && nanosecond < 1000000000

end Timestamp

structure Timestamp where
  year : Int
  month : Nat
  day : Nat
  hour : Nat
  minute : Nat
  second : Nat
  nanosecond : Nat
  proper : Timestamp.isProper year month day hour minute second nanosecond = true
deriving DecidableEq

namespace Timestamp

open Text

/-! ## Writing -/

/-- Four digits, or a sign and more digits outside the years 0 to 9999. -/
def yearText (year : Int) : List Char :=
  if 0 ≤ year ∧ year ≤ 9999 then padDecimal 4 year.natAbs
  else (if year < 0 then '-' else '+') :: padDecimal 4 year.natAbs

/-- No digits for a whole second, else 3, 6 or 9. -/
def fractionText (nanosecond : Nat) : List Char :=
  if nanosecond = 0 then []
  else if nanosecond % 1000000 = 0 then '.' :: padDecimal 3 (nanosecond / 1000000)
  else if nanosecond % 1000 = 0 then '.' :: padDecimal 6 (nanosecond / 1000)
  else '.' :: padDecimal 9 nanosecond

def render (t : Timestamp) : String :=
  String.ofList <| yearText t.year ++ '-' :: padDecimal 2 t.month ++ '-' :: padDecimal 2 t.day ++
    'T' :: padDecimal 2 t.hour ++ ':' :: padDecimal 2 t.minute ++ ':' :: padDecimal 2 t.second ++
    fractionText t.nanosecond ++ ['Z']

/-! ## Shifting by an offset -/

/-- The day before. -/
def previousDay (year : Int) (month day : Nat) : Int × Nat × Nat :=
  if 1 < day then (year, month, day - 1)
  else if 1 < month then (year, month - 1, daysIn year (month - 1))
  else (year - 1, 12, 31)

/-- The day after. -/
def nextDay (year : Int) (month day : Nat) : Int × Nat × Nat :=
  if day < daysIn year month then (year, month, day + 1)
  else if month < 12 then (year, month + 1, 1)
  else (year + 1, 1, 1)

/-- The instant of proper fields at an offset from UTC, in minutes, of less than a day. -/
def atOffset? (year : Int) (month day hour minute second nanosecond : Nat) (offset : Int) :
    Option Timestamp :=
  let minutes : Int := 60 * hour + minute - offset
  let (y, m, d) :=
    if minutes < 0 then previousDay year month day
    else if 1440 ≤ minutes then nextDay year month day
    else (year, month, day)
  let left := (minutes % 1440).toNat
  if isProper year month day hour minute second nanosecond then
    if h : isProper y m d (left / 60) (left % 60) second nanosecond = true then
      some ⟨y, m, d, left / 60, left % 60, second, nanosecond, h⟩
    else none
  else none

/-! ## Reading -/

/-- Drops blanks at the front. -/
def skipBlanks (cs : List Char) : List Char := cs.dropWhile isBlank

/-- A number of one to `width` digits at the front, after blanks. -/
def number? (width : Nat) (cs : List Char) : Option (Nat × List Char) :=
  let cs := skipBlanks cs
  let digits := (cs.takeWhile Char.isDigit).take width
  if digits = [] then none
  else (readDecimal? digits).map (·, cs.drop digits.length)

/-- A year: up to four digits, or any number of them after a sign. -/
def year? (cs : List Char) : Option (Int × List Char) :=
  let signed (sign : Int) (rest : List Char) : Option (Int × List Char) :=
    let digits := rest.takeWhile Char.isDigit
    if digits = [] then none
    else (readDecimal? digits).map fun n => (sign * n, rest.drop digits.length)
  match skipBlanks cs with
  | '-' :: rest => signed (-1) rest
  | '+' :: rest => signed 1 rest
  | rest => (number? 4 rest).map fun (n, rest) => ((n : Int), rest)

/-- A separator after blanks. -/
def mark? (mark : Char) (cs : List Char) : Option (List Char) :=
  match skipBlanks cs with
  | c :: rest => if c = mark then some rest else none
  | [] => none

/-- A fraction of a second, of which nine digits count. -/
def fraction? (cs : List Char) : Option (Nat × List Char) :=
  match cs with
  | '.' :: rest =>
    let digits := rest.takeWhile Char.isDigit
    if digits = [] then none
    else
      let counted := digits.take 9
      (readDecimal? counted).map fun n =>
        (n * Nat.pow 10 (9 - counted.length), rest.drop digits.length)
  | _ => some (0, cs)

/-- Hours and minutes of an offset, with colons or blanks between. -/
def offsetDigits? (cs : List Char) : Option (Nat × List Char) :=
  match cs with
  | a :: b :: rest =>
    match rest.dropWhile fun c => c == ':' || isBlank c with
    | c :: d :: rest => do
      let hours ← readDecimal? [a, b]
      let minutes ← readDecimal? [c, d]
      if minutes < 60 then return (60 * hours + minutes, rest) else none
    | _ => none
  | _ => none

/-- An offset in minutes: `Z`, `UTC`, or a sign, hours and minutes. -/
def offset? (cs : List Char) : Option (Int × List Char) :=
  match cs with
  | 'Z' :: rest | 'z' :: rest => some (0, rest)
  | '+' :: rest => (offsetDigits? rest).map fun (n, rest) => ((n : Int), rest)
  | '-' :: rest | '−' :: rest => (offsetDigits? rest).map fun (n, rest) => (-(n : Int), rest)
  | a :: b :: c :: rest =>
    if [a, b, c].map Char.toLower = ['u', 't', 'c'] then some (0, rest) else none
  | _ => none

/-- Date and time are separated by `T` or one space. -/
def isDateEnd (c : Char) : Bool := c == 't' || c == 'T' || c == ' '

/-- Reads date, time and offset. -/
def parse? (text : String) : Option Timestamp := do
  let (year, cs) ← year? text.toList
  let (month, cs) ← number? 2 (← mark? '-' cs)
  let (day, cs) ← number? 2 (← mark? '-' cs)
  let cs ← match cs with
    | c :: rest => if isDateEnd c then some rest else none
    | [] => none
  let (hour, cs) ← number? 2 cs
  let (minute, cs) ← number? 2 (← mark? ':' cs)
  let (second, cs) ← number? 2 (← mark? ':' cs)
  let (nanosecond, cs) ← fraction? cs
  let (offset, cs) ← offset? (skipBlanks cs)
  guard (skipBlanks cs = [] ∧ offset.natAbs < 1440)
  atOffset? year month day hour minute second nanosecond offset

end Timestamp

end ActiveObjects

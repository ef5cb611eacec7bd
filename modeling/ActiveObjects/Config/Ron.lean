import ActiveObjects.Config.Setting
import ActiveObjects.Text.Split
import ActiveObjects.Text.Utf8

/-!
# Settings in RON

Records in parentheses and maps in braces are tables, tuples are arrays, and what is missing is
written `None` or `()`. Names in front of records and tuples say nothing.
-/

namespace ActiveObjects.Ron

open Text

/-! ## Blanks -/

def isSpace (c : Char) : Bool := c == ' ' || c == '\t' || c == '\n' || c == '\r'

/-- What follows the end of a comment, inside which comments may stand. -/
def afterComment : (depth : Nat) → List Char → Option (List Char)
  | 0, rest => some rest
  | depth + 1, '*' :: '/' :: rest => afterComment depth rest
  | depth + 1, '/' :: '*' :: rest => afterComment (depth + 2) rest
  | depth + 1, _ :: rest => afterComment (depth + 1) rest
  | _ + 1, [] => none

/-- A comment up to the end of its line, or one in nested marks. -/
def comment : Scan Unit :=
  (do
    Scan.word ['/', '/']
    let _ ← Scan.chars (· ≠ '\n'))
  <|> do
    Scan.word ['/', '*']
    set (← (afterComment 1 (← get) : Option (List Char)))

/-- Blanks and comments. -/
def gap : Scan Unit := do
  let _ ← Scan.many ((do let _ ← Scan.chars₁ isSpace) <|> comment)

/-! ## Texts and names -/

/-- The character that a backslash and what follows stand for. -/
def escaped : Scan Char := do
  Scan.exactly '\\'
  let isHex (c : Char) : Bool := (hexValue? c).isSome
  let c ← Scan.char fun _ => true
  match c with
  | '\'' | '"' | '\\' => return c
  | 'n' => return '\n'
  | 'r' => return '\r'
  | 't' => return '\t'
  | '0' => return Char.ofNat 0
  | 'x' =>
    let digits ← Scan.upTo (Scan.char isHex) 2
    guard (digits.length = 2)
    ((readHex? digits).bind (Utf8.scalar? 0) : Option Char)
  | 'u' =>
    Scan.exactly '\x7b'
    let digits ← Scan.upTo (Scan.char isHex) 6
    guard (digits ≠ [])
    Scan.exactly '\x7d'
    ((readHex? digits).bind (Utf8.scalar? 0) : Option Char)
  | _ => failure

/-- A text between double quotes. -/
def quotedText : Scan String := do
  Scan.exactly '"'
  let cs ← Scan.many (Scan.char (fun c => c ≠ '"' && c ≠ '\\') <|> escaped)
  Scan.exactly '"'
  return String.ofList cs

/-- A text as it stands, between double quotes with as many number signs around. -/
def rawText : Scan String := do
  Scan.exactly 'r'
  let signs ← Scan.chars (· == '#')
  Scan.exactly '"'
  let (cs, after) ← (cutAt? ('"' :: signs) (← get) : Option (List Char × List Char))
  set after
  return String.ofList cs

/-- A single character between quotes. -/
def character : Scan String := do
  Scan.exactly '\''
  let c ← escaped <|> Scan.char fun c => c ≠ '\\' && c ≠ '\''
  Scan.exactly '\''
  return String.ofList [c]

def isNameStart (c : Char) : Bool := c.isAlpha || c == '_'

def isNameChar (c : Char) : Bool := c.isAlphanum || c == '_'

/-- A name, which may be marked as such to hold more characters. -/
def name : Scan String :=
  (do
    Scan.word ['r', '#']
    let isRaw (c : Char) : Bool := isNameChar c || c == '.' || c == '+' || c == '-'
    return String.ofList (← Scan.chars₁ isRaw))
  <|> do
    guard ((← get).head?.any isNameStart)
    let found ← Scan.chars₁ isNameChar
    guard !(found = ['r'] && (← get).head?.any fun c => c == '"' || c == '#')
    return String.ofList found

/-! ## Numbers -/

/-- Digits of an integer: its base and the digits after the mark. -/
def cutBase (cs : List Char) : Nat × List Char :=
  match cs with
  | '0' :: 'x' :: rest => (16, rest)
  | '0' :: 'b' :: rest => (2, rest)
  | '0' :: 'o' :: rest => (8, rest)
  | _ => (10, cs)

def isIntegerChar (c : Char) : Bool := (hexValue? c).isSome || c == '_'

def isDecimalChar (c : Char) : Bool := c.isDigit || ['e', 'E', '.', '+', '-', '_'].contains c

/-- An integer, in which digits may have underscores between. What 63 bits do not hold is not exact,
and what 64 bits do not hold is no integer. -/
def integer : Scan Setting := do
  let (negative, rest) := Decimal.cutSign (← get)
  let (base, rest) := cutBase rest
  let digits := rest.takeWhile isIntegerChar
  guard (digits.head?.any (· ≠ '_'))
  let value? (c : Char) : Option Nat := (hexValue? c).filter (· < base)
  let n ← (readDigits? base value? (digits.filter (· ≠ '_')) : Option Nat)
  let hasSign := (← get).head?.any fun c => c == '+' || c == '-'
  set (rest.dropWhile isIntegerChar)
  let v : Int := if negative then -n else n
  if minInteger ≤ v ∧ v ≤ maxInteger then return .integer v
  guard (!hasSign && n ≤ maxWord)
  return .float (.ofNat n)

/-- A number that is read as a binary64. -/
def decimal : Scan Setting := do
  let found ← Scan.chars₁ isDecimalChar
  return .float (← (Decimal.number? found : Option Binary64))

/-- A number is a decimal as far as its characters are more than those of an integer. -/
def number : Scan Setting := do
  let (_, digits) := Decimal.cutSign (← get)
  guard ((← get).head?.any fun c => c.isDigit || c == '+' || c == '-' || c == '.')
  let isDecimal :=
    (digits.takeWhile isIntegerChar).length < (digits.takeWhile isDecimalChar).length
  if isDecimal then decimal else integer <|> decimal

/-- Negative infinity, the one number that starts with a sign and no digit or dot. -/
def special : Scan Setting := do
  Scan.word "-inf".toList
  guard !(← get).head?.any isNameChar
  return .float (.infinite true)

/-! ## Values -/

/-- A name of a field. -/
def fieldName : Setting → Option String
  | .text s => some s
  | _ => none

/-- What stands between parentheses: fields if a name and a colon come first, otherwise items. -/
def parentheses (item : Scan Setting) : Scan Setting := do
  Scan.exactly '('
  let field : Scan String := do
    let k ← name
    gap
    Scan.exactly ':'
    return k
  let start ← get
  gap
  let isRecord := (← Scan.optional field).isSome
  set start
  if isRecord then
    return .ofFields (← Scan.list ')' gap do
      let k ← field
      gap
      return (k, ← item))
  else return .array (← Scan.list ')' gap item)

/-- What a name stands for or stands in front of. -/
def named (item : Scan Setting) : Scan Setting := do
  match ← name with
  | "true" => return .bool true
  | "false" => return .bool false
  | "None" => return .null
  | "inf" => return .float (.infinite false)
  | "NaN" => return .float .nan
  | "Some" => do
    gap
    Scan.exactly '('
    gap
    let v ← item
    gap
    let _ ← Scan.accept ','
    gap
    Scan.exactly ')'
    return v
  | _ =>
    gap
    if (← get).head? = some '(' then parentheses item else return .null

/-- A value that nests at most `room` levels deep. -/
def value : (room : Nat) → Scan Setting
  | 0 => failure
  | room + 1 =>
    named (value room) <|> (do Scan.word ['(', ')']; return .null) <|>
      parentheses (value room) <|>
      (do
        Scan.exactly '['
        return .array (← Scan.list ']' gap (value room)))
      <|> (do
        Scan.exactly '\x7b'
        return .ofFields (← Scan.list '\x7d' gap do
          let k ← (fieldName (← value room) : Option String)
          gap
          Scan.exactly ':'
          gap
          return (k, ← value room)))
      <|> special <|> number <|> do return .text (← quotedText <|> rawText <|> character)

/-- How deep values may nest. -/
def maxDepth : Nat := 128

/-- The extensions of the format that a text may ask for. They do not change what it says. -/
def extensions : List String := ["unwrap_newtypes", "implicit_some", "unwrap_variant_newtypes"]

/-- A request for extensions. -/
def enabled : Scan Unit := do
  Scan.word ['#']
  gap
  Scan.word ['!']
  gap
  Scan.word ['[']
  gap
  Scan.word "enable".toList
  gap
  Scan.word ['(']
  let names ← Scan.list ')' gap name
  guard (names ≠ [] ∧ names.all extensions.contains)
  gap
  Scan.word [']']
  gap

/-- The settings in a text. -/
def parse? (s : String) : Option Setting :=
  Scan.all? (do
    gap
    let _ ← Scan.many enabled
    let v ← value (maxDepth + 1)
    gap
    return v) s.toList

end ActiveObjects.Ron

import ActiveObjects.Text.Hex
import ActiveObjects.Text.Scan
import ActiveObjects.Text.Utf8

/-!
# Blanks, strings and keys of TOML
-/

namespace ActiveObjects.Toml

open Text

/-! ## Blanks -/

def isSpace (c : Char) : Bool := c == ' ' || c == '\t'

/-- What a line may hold: all but the control characters other than the tab. -/
def isLineChar (c : Char) : Bool := c == '\t' || (0x20 ≤ c.toNat && c.toNat ≠ 0x7F)

def spaces : Scan Unit := do let _ ← Scan.chars isSpace

def newline : Scan Unit := Scan.exactly '\n' <|> Scan.word ['\r', '\n']

def comment : Scan Unit := do
  Scan.exactly '#'
  let _ ← Scan.chars isLineChar

/-- The end of a line or of the text. -/
def lineEnd : Scan Unit := newline <|> Scan.ended

/-- What may follow on a line after everything that counts. -/
def restOfLine : Scan Unit := do
  spaces
  let _ ← Scan.optional comment
  lineEnd

/-- What may stand between the items of an array: spaces, line ends and comments. -/
def gap : Scan Unit := do
  let _ ← Scan.many ((do let _ ← Scan.chars₁ isSpace) <|> newline <|> (do comment; newline))

/-! ## Strings -/

/-- A character by its number, in a given count of hexadecimal digits. -/
def numbered (width : Nat) : Scan Char := do
  let digits ← Scan.upTo (Scan.char fun c => (hexValue? c).isSome) width
  guard (digits.length = width)
  match (readHex? digits).bind (Utf8.scalar? 0) with
  | some c => return c
  | none => failure

/-- The character that stands for itself after a backslash, or by its letter or number. -/
def escaped : Scan Char := do
  Scan.exactly '\\'
  match ← Scan.char fun _ => true with
  | 'b' => return Char.ofNat 8
  | 't' => return '\t'
  | 'n' => return '\n'
  | 'f' => return Char.ofNat 12
  | 'r' => return '\r'
  | '"' => return '"'
  | '\\' => return '\\'
  | 'u' => numbered 4
  | 'U' => numbered 8
  | _ => failure

/-- A character between double quotes that is not escaped. -/
def isPlain (c : Char) : Bool := isLineChar c && c != '"' && c != '\\'

/-- A character between single quotes. -/
def isLiteral (c : Char) : Bool := isLineChar c && c != '\''

/-- A string on one line. -/
def singleLine : Scan (List Char) :=
  (do
    Scan.exactly '"'
    let cs ← Scan.many (Scan.char isPlain <|> escaped)
    Scan.exactly '"'
    return cs)
  <|>
  (do
    Scan.exactly '\''
    let cs ← Scan.chars isLiteral
    Scan.exactly '\''
    return cs)

/-- One or two quotes that do not end a string of several lines. -/
def innerQuotes (quote : Char) : Scan (List Char) := do
  let quotes ← Scan.chars₁ (· == quote)
  guard (quotes.length < 3)
  return quotes

/-- Three quotes that end a string, with up to two before them that belong to it. -/
def closingQuotes (quote : Char) : Scan (List Char) := do
  let quotes ← Scan.upTo (Scan.char (· == quote)) 5
  guard (3 ≤ quotes.length)
  return quotes.drop 3

/-- A backslash at the end of a line hides the blanks up to the next other character. -/
def hiddenBlanks : Scan Unit := do
  Scan.exactly '\\'
  spaces
  newline
  let _ ← Scan.many ((do let _ ← Scan.char isSpace) <|> newline)

/-- The pieces between three quotes; a line end at the very front does not count. -/
def betweenTriple (quote : Char) (piece : Scan (List Char)) : Scan (List Char) := do
  Scan.word [quote, quote, quote]
  let _ ← Scan.optional newline
  let pieces ← Scan.many (piece <|> (do newline; return ['\n']) <|> innerQuotes quote)
  return pieces.flatten ++ (← closingQuotes quote)

/-- A string of several lines. -/
def multiLine : Scan (List Char) :=
  betweenTriple '"' (Scan.chars₁ isPlain <|> (do hiddenBlanks; return []) <|>
    do return [← escaped])
  <|> betweenTriple '\'' (Scan.chars₁ isLiteral)

/-! ## Keys -/

def isBare (c : Char) : Bool := c.isAlphanum || c == '_' || c == '-'

def simpleKey : Scan String := do
  return String.ofList (← singleLine <|> Scan.chars₁ isBare)

/-- A key may have at most this many parts. -/
def maxKeyLength : Nat := 79

/-- The parts of a dotted key: those on the way, and the last one. -/
def key : Scan (List String × String) := do
  let part : Scan String := do
    spaces
    let k ← simpleKey
    spaces
    return k
  let first ← part
  let more ← Scan.many (do Scan.exactly '.'; part)
  guard (more.length < maxKeyLength)
  return ((first :: more).dropLast, more.getLastD first)

end ActiveObjects.Toml

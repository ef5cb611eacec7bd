import ActiveObjects.Config.Setting
import ActiveObjects.Json.Token
import ActiveObjects.Text.Alphanumeric
import ActiveObjects.Text.Blank
import ActiveObjects.Text.Mark
import ActiveObjects.Text.Split

/-!
# Settings in JSON5

JSON with comments, names without quotes, single quotes, commas after the last item and more forms
of numbers.
-/

namespace ActiveObjects.Json5

open Text

/-! ## Blanks -/

def isLineEnd (c : Char) : Bool := c == '\n' || c == '\r' || c.toNat == 0x2028 || c.toNat == 0x2029

def isSpace (c : Char) : Bool := (isBlank c && c.toNat ≠ 0x85) || c.toNat == 0xFEFF

/-- A comment up to the end of the line, or up to its end mark. -/
def comment : Scan Unit :=
  (do
    Scan.word ['/', '/']
    let _ ← Scan.chars (!isLineEnd ·))
  <|> do
    Scan.word ['/', '*']
    let (_, after) ← (cutAt? ['*', '/'] (← get) : Option _)
    set after

/-- Blanks and comments. -/
def gap : Scan Unit := do
  let _ ← Scan.many ((do let _ ← Scan.chars₁ isSpace) <|> comment)

/-! ## Texts and names -/

/-- A number in so many hexadecimal digits. -/
def numbered (width : Nat) : Scan Nat := do
  let digits ← Scan.upTo (Scan.char fun c => (hexValue? c).isSome) width
  guard (digits.length = width)
  (readHex? digits : Option Nat)

/-- The pieces that a backslash and what follows stand for; a line end stands for nothing. -/
def escaped : Scan (List Json.Piece) := do
  Scan.exactly '\\'
  let c ← Scan.char fun c => !(c.isDigit && c ≠ '0')
  if isLineEnd c then
    if c = '\r' then
      let _ ← Scan.accept '\n'
    return []
  match c with
  | 'x' => return [.unit (← numbered 2)]
  | 'u' => return [.unit (← numbered 4)]
  | '0' => return [.char (Char.ofNat 0)]
  | 'b' => return [.char (Char.ofNat 8)]
  | 'f' => return [.char (Char.ofNat 12)]
  | 'n' => return [.char '\n']
  | 'r' => return [.char '\r']
  | 't' => return [.char '\t']
  | 'v' => return [.char (Char.ofNat 11)]
  | c => return [.char c]

/-- The text of some pieces, in which no half of a pair is left over. -/
def ofPieces? (pieces : List Json.Piece) : Option String :=
  ((Json.joinSurrogates pieces).mapM Json.Piece.char?).map String.ofList

/-- A text between quotes of one kind. -/
def textBetween (quote : Char) : Scan String := do
  Scan.exactly quote
  let pieces ← Scan.many <|
    (do return [.char (← Scan.char fun c => c ≠ quote && c ≠ '\\' && c ≠ '\n' && c ≠ '\r')]) <|>
      escaped
  Scan.exactly quote
  (ofPieces? pieces.flatten : Option String)

def text : Scan String := textBetween '"' <|> textBetween '\''

def isNameStart (c : Char) : Bool :=
  (isAlphanumeric c && !c.isDigit) || c == '$' || c == '_'

def isNameChar (c : Char) : Bool :=
  isAlphanumeric c || isMark c || [0x24, 0x5F, 0x200C, 0x200D, 0x203F, 0x2040].contains c.toNat

/-- A name without quotes. -/
def bareName : Scan String := do
  let numberedChar : Scan Json.Piece := do
    Scan.word ['\\', 'u']
    return .unit (← numbered 4)
  let first ← (do return .char (← Scan.char isNameStart)) <|> numberedChar
  let more ← Scan.many ((do return .char (← Scan.char isNameChar)) <|> numberedChar)
  (ofPieces? (first :: more) : Option String)

/-! ## Numbers -/

/-- The greatest number that can be written in base sixteen. -/
def maxHex : Nat := 0xFFFFFFFF

/-- An integer in base sixteen. -/
def hex : Scan Setting := do
  Scan.exactly '0'
  let _ ← Scan.char fun c => c == 'x' || c == 'X'
  let n ← (readHex? (← Scan.chars₁ fun c => (hexValue? c).isSome) : Option Nat)
  guard (n ≤ maxHex)
  return .integer n

/-- Infinity and not-a-number, perhaps with a sign. -/
def special : Scan Setting := do
  let negative ← Scan.accept '-'
  (do Scan.word "Infinity".toList; return .float (.infinite negative)) <|>
    do Scan.word "NaN".toList; return .float .nan

/-- Digits of a whole number, without zeros in front. -/
def whole : Scan (List Char) := do
  if ← Scan.accept '0' then return ['0']
  Scan.chars₁ Char.isDigit

/-- An integer of 64 bits, or a number with a point or an exponent. -/
def decimal : Scan Setting := do
  let (negative, rest) := Decimal.cutSign (← get)
  set rest
  let digits := (← Scan.optional whole).getD []
  let hasPoint ← Scan.accept '.'
  let places ← if hasPoint then Scan.chars Char.isDigit else pure []
  guard (digits ++ places ≠ [])
  let before := (← get).length
  let e ← Decimal.exponent
  let n ← (readDecimal? (digits ++ places) : Option Nat)
  if hasPoint ∨ (← get).length < before then
    let x := Binary64.ofDecimal negative n (e - places.length)
    guard (x ≠ .infinite negative)
    return .float x
  else
    let n : Int := if negative then -n else n
    guard (minInteger ≤ n ∧ n ≤ maxInteger)
    return .integer n

/-! ## Values -/

/-- A literal name. -/
def word : Scan Setting :=
  (do Scan.word "null".toList; return .null) <|> (do Scan.word "true".toList; return .bool true) <|>
    do Scan.word "false".toList; return .bool false

/-- A value that nests at most `room` levels deep. -/
def value : (room : Nat) → Scan Setting
  | 0 => failure
  | room + 1 =>
    word <|> (do return .text (← text)) <|> hex <|> special <|> decimal <|>
      (do
        Scan.exactly '['
        return .array (← Scan.list ']' gap (value room)))
      <|> do
        Scan.exactly '\x7b'
        return .ofFields (← Scan.list '\x7d' gap do
          let k ← bareName <|> text
          gap
          Scan.exactly ':'
          gap
          return (k, ← value room))

/-- The settings in a text. -/
def parse? (s : String) : Option Setting :=
  Scan.all? (do
    gap
    let v ← value (s.length + 1)
    gap
    return v) s.toList

end ActiveObjects.Json5

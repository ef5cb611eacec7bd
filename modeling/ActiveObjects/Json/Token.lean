import ActiveObjects.Json.Number
import ActiveObjects.Text.Utf8

/-! # The tokens of a JSON text -/

namespace ActiveObjects.Json

open Text

inductive Token where
  | openArray
  | closeArray
  | openObject
  | closeObject
  | comma
  | colon
  | null
  | bool (b : Bool)
  | number (n : Numeral)
  | string (s : Quoted)
deriving DecidableEq, Repr

/-! ## Strings -/

/-- A piece of a string: a character, or a unit given by its number. -/
inductive Piece where
  | char (c : Char)
  | unit (n : Nat)
deriving DecidableEq, Repr

/-- The three octets of a number below 2 ^ 16 in the pattern of UTF-8. -/
def surrogateOctets (n : Nat) : List UInt8 :=
  [UInt8.ofNat (0xE0 + n / 4096), UInt8.ofNat (0x80 + n / 64 % 64), UInt8.ofNat (0x80 + n % 64)]

/-- Joins each leading unit with the trailing unit after it. -/
def joinSurrogates : List Piece → List Piece
  | .unit a :: .unit b :: rest =>
    if 0xD800 ≤ a ∧ a < 0xDC00 ∧ 0xDC00 ≤ b ∧ b < 0xE000 then
      .char (Char.ofNat (0x10000 + (a - 0xD800) * 1024 + (b - 0xDC00))) :: joinSurrogates rest
    else if 0xD800 ≤ a ∧ a < 0xE000 then .unit a :: joinSurrogates (.unit b :: rest)
    else .char (Char.ofNat a) :: joinSurrogates (.unit b :: rest)
  | .unit a :: rest =>
    (if 0xD800 ≤ a ∧ a < 0xE000 then .unit a else .char (Char.ofNat a)) :: joinSurrogates rest
  | .char c :: rest => .char c :: joinSurrogates rest
  | [] => []

/-- A character that is no half of a pair. -/
def Piece.char? : Piece → Option Char
  | .char c => some c
  | .unit _ => none

def Piece.octets : Piece → List UInt8
  | .char c => Utf8.encode [c]
  | .unit n => surrogateOctets n

/-- The string of some pieces; `control` tells of a bare control character among them. -/
def Quoted.ofPieces (pieces : List Piece) (control : Bool) : Quoted :=
  let joined := joinSurrogates pieces
  match joined.mapM Piece.char?, control with
  | some cs, false => .text (String.ofList cs)
  | _, _ => .loose (joined.flatMap Piece.octets) control

/-- The character that a backslash and a letter stand for. -/
def unescape? : Char → Option Char
  | '"' => some '"'
  | '\\' => some '\\'
  | '/' => some '/'
  | 'b' => some (Char.ofNat 8)
  | 'f' => some (Char.ofNat 12)
  | 'n' => some '\n'
  | 'r' => some '\r'
  | 't' => some '\t'
  | _ => none

/-! ## The lexer -/

/-- What the lexer is in the middle of. What has been read of it is held newest first. -/
inductive Lexer.Mode where
  | between
  | word (read : List Char)
  | numeral (read : List Char)
  | string (read : List Piece) (control : Bool)
  | escape (read : List Piece) (control : Bool)
  | unit (read : List Piece) (control : Bool) (left value : Nat)

/-- The tokens so far, newest first, and what comes next. -/
structure Lexer where
  tokens : List Token
  mode : Lexer.Mode

namespace Lexer

def word? : List Char → Option Token
  | ['n', 'u', 'l', 'l'] => some .null
  | ['t', 'r', 'u', 'e'] => some (.bool true)
  | ['f', 'a', 'l', 's', 'e'] => some (.bool false)
  | _ => none

def punctuation? : Char → Option Token
  | '[' => some .openArray
  | ']' => some .closeArray
  | '\x7b' => some .openObject
  | '\x7d' => some .closeObject
  | ',' => some .comma
  | ':' => some .colon
  | _ => none

def isSpace (c : Char) : Bool := c == ' ' || c == '\n' || c == '\t' || c == '\r'

/-- Characters that numbers are made of. -/
def isNumeral (c : Char) : Bool :=
  c.isDigit || c == '-' || c == '+' || c == '.' || c == 'e' || c == 'E'

/-- Takes a character that starts something. -/
def start? (tokens : List Token) (c : Char) : Option Lexer :=
  if isSpace c then some ⟨tokens, .between⟩
  else match punctuation? c with
    | some token => some ⟨token :: tokens, .between⟩
    | none =>
      if c = '"' then some ⟨tokens, .string [] false⟩
      else if c.isDigit || c == '-' then some ⟨tokens, .numeral [c]⟩
      else if c.isAlpha then some ⟨tokens, .word [c]⟩
      else none

/-- Takes one character. -/
def step? (lexer : Lexer) (c : Char) : Option Lexer :=
  match lexer.mode with
  | .between => start? lexer.tokens c
  | .word read =>
    if c.isAlpha then some ⟨lexer.tokens, .word (c :: read)⟩
    else (word? read.reverse).bind fun token => start? (token :: lexer.tokens) c
  | .numeral read =>
    if isNumeral c then some ⟨lexer.tokens, .numeral (c :: read)⟩
    else (numeral? read.reverse).bind fun n => start? (.number n :: lexer.tokens) c
  | .string read control =>
    if c = '"' then some ⟨.string (.ofPieces read.reverse control) :: lexer.tokens, .between⟩
    else if c = '\\' then some ⟨lexer.tokens, .escape read control⟩
    else some ⟨lexer.tokens, .string (.char c :: read) (control || c.toNat < 0x20)⟩
  | .escape read control =>
    if c = 'u' then some ⟨lexer.tokens, .unit read control 3 0⟩
    else (unescape? c).map fun c => ⟨lexer.tokens, .string (.char c :: read) control⟩
  | .unit read control left value =>
    (hexValue? c).map fun d =>
      match left with
      | 0 => ⟨lexer.tokens, .string (.unit (16 * value + d) :: read) control⟩
      | left + 1 => ⟨lexer.tokens, .unit read control left (16 * value + d)⟩

/-- All tokens, once the text has ended. -/
def finish? (lexer : Lexer) : Option (List Token) :=
  match lexer.mode with
  | .between => some lexer.tokens.reverse
  | .word read => (word? read.reverse).map fun token => (token :: lexer.tokens).reverse
  | .numeral read => (numeral? read.reverse).map fun n => (.number n :: lexer.tokens).reverse
  | .string _ _ | .escape _ _ | .unit _ _ _ _ => none

end Lexer

/-- The tokens of a text. -/
def tokens? (cs : List Char) : Option (List Token) := do
  (← cs.foldlM Lexer.step? ⟨[], .between⟩).finish?

end ActiveObjects.Json

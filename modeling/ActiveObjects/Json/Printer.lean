import ActiveObjects.Json.Basic
import ActiveObjects.Text.Hex

/-! # Writing JSON -/

namespace ActiveObjects.Json

open Text

/-- A unit of sixteen bits as an escape. -/
def unitEscape (n : Nat) : List Char := '\\' :: 'u' :: hexDigits 4 n

/-- Quotes, backslashes and control characters are escaped. -/
def escape (c : Char) : List Char :=
  if c = '"' then ['\\', '"']
  else if c = '\\' then ['\\', '\\']
  else if c = '\n' then ['\\', 'n']
  else if c = '\r' then ['\\', 'r']
  else if c = '\t' then ['\\', 't']
  else if c = Char.ofNat 8 then ['\\', 'b']
  else if c = Char.ofNat 12 then ['\\', 'f']
  else if c.toNat < 0x20 then unitEscape c.toNat
  else [c]

/-- As `escape`, and all that is not ASCII is escaped too, in two halves above U+FFFF. -/
def asciiEscape (c : Char) : List Char :=
  if c.toNat < 0x80 then escape c
  else if c.toNat < 0x10000 then unitEscape c.toNat
  else
    unitEscape (0xD800 + (c.toNat - 0x10000) / 1024) ++
      unitEscape (0xDC00 + (c.toNat - 0x10000) % 1024)

def quote (esc : Char → List Char) (s : String) : List Char :=
  '"' :: s.toList.flatMap esc ++ ['"']

def Number.render : Number → List Char
  | .integer n => (toString n).toList
  | .float negative m q => Decimal.jsonText negative m q

mutual

/-- The text of a value in front of a given text. -/
def renderOnto (esc : Char → List Char) (after : List Char) : Json → List Char
  | .null => 'n' :: 'u' :: 'l' :: 'l' :: after
  | .bool true => 't' :: 'r' :: 'u' :: 'e' :: after
  | .bool false => 'f' :: 'a' :: 'l' :: 's' :: 'e' :: after
  | .number n => n.render ++ after
  | .string s => quote esc s ++ after
  | .array [] => '[' :: ']' :: after
  | .array (item :: more) => '[' :: renderOnto esc (renderItemsOnto esc (']' :: after) more) item
  | .object [] => '\x7b' :: '\x7d' :: after
  | .object ((key, value) :: more) =>
    '\x7b' :: (quote esc key ++ ':' ::
      renderOnto esc (renderFieldsOnto esc ('\x7d' :: after) more) value)

def renderItemsOnto (esc : Char → List Char) (after : List Char) : List Json → List Char
  | [] => after
  | item :: more => ',' :: renderOnto esc (renderItemsOnto esc after more) item

def renderFieldsOnto (esc : Char → List Char) (after : List Char) :
    List (String × Json) → List Char
  | [] => after
  | (key, value) :: more =>
    ',' :: (quote esc key ++ ':' :: renderOnto esc (renderFieldsOnto esc after more) value)

end

/-- The text of a value without blanks. -/
def render (j : Json) : String := String.ofList (renderOnto escape [] j)

/-- The text of a value in ASCII. -/
def renderAscii (j : Json) : String := String.ofList (renderOnto asciiEscape [] j)

end ActiveObjects.Json

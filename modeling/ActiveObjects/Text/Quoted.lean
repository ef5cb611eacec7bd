import ActiveObjects.Text.Hex
import ActiveObjects.Text.Printable

/-!
# Quoted text

A text between double quotes, in which backslashes, double quotes and all characters that are not
printable are escaped.
-/

namespace ActiveObjects.Text

/-- The written form of a character within quotes. -/
def quotedChar (c : Char) : List Char :=
  if c = Char.ofNat 0 then ['\\', '0']
  else if c = '\t' then ['\\', 't']
  else if c = '\r' then ['\\', 'r']
  else if c = '\n' then ['\\', 'n']
  else if c = '\\' ∨ c = '"' then ['\\', c]
  else if isPrintable c then [c]
  else ['\\', 'u', '\x7b'] ++ hexNumber c.toNat ++ ['\x7d']

def quoted (s : String) : String := String.ofList ('"' :: s.toList.flatMap quotedChar ++ ['"'])

/-- The written form of a character in a path. -/
def quotedPathChar (c : Char) : List Char := if c = '\'' then ['\\', c] else quotedChar c

/-- The quoted form of a path, in which single quotes are escaped too. -/
def quotedPath (s : String) : String :=
  String.ofList ('"' :: s.toList.flatMap quotedPathChar ++ ['"'])

end ActiveObjects.Text

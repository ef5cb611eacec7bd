import ActiveObjects.Config.Setting
import ActiveObjects.Text.Blank
import ActiveObjects.Text.Utf8

/-!
# Settings in INI files

Settings before the first section are settings of their own, each section is a table of settings.
All of them are texts.
-/

namespace ActiveObjects.Ini

open Text

/-! ## Texts -/

/-- The character that a backslash and what follows stand for. A line end stands for nothing. -/
def escaped : Scan (List Char) := do
  Scan.exactly '\\'
  match ← Scan.char fun _ => true with
  | '0' => return [Char.ofNat 0]
  | 'a' => return [Char.ofNat 7]
  | 'b' => return [Char.ofNat 8]
  | 't' => return ['\t']
  | 'r' => return ['\r']
  | 'n' => return ['\n']
  | '\n' => return []
  | 'x' =>
    let digits ← Scan.upTo (Scan.char fun _ => true) 4
    guard (digits.length = 4)
    let c ← ((readHex? digits).bind (Utf8.scalar? 0) : Option Char)
    return [c]
  | c => return [c]

/-- A text up to a character of a class. -/
def textUntil (isEnd : Char → Bool) : Scan (List Char) := do
  let pieces ← Scan.many <|
    (do Scan.char fun c => !isEnd c && c ≠ '\\') >>= (fun c => pure [c]) <|> escaped
  guard ((← get).head?.all isEnd)
  return pieces.flatten

def isLineEnd (c : Char) : Bool := c == '\n' || c == '\r'

def trim (cs : List Char) : String := String.ofList (trimBoth isBlank cs)

/-- The value after the sign: a text in quotes and what follows it, or the rest of the line. -/
def value : Scan String := do
  let _ ← Scan.chars fun c => isBlank c && !isLineEnd c
  match (← get).head? with
  | some quote =>
    if quote = '"' ∨ quote = '\'' then
      Scan.exactly quote
      let inside ← textUntil (· == quote)
      Scan.exactly quote
      return String.ofList (inside ++ (← textUntil isLineEnd))
    else return trim (← textUntil isLineEnd)
  | none => return ""

/-! ## Files -/

/-- The settings so far and the section that is open. -/
structure Draft where
  general : List (String × Setting) := []
  sections : List (String × List (String × Setting)) := []

/-- What a line says. -/
inductive Item where
  | comment
  | opened (name : String)
  | assigned (key value : String)

def isCommentMark (c : Char) : Bool := c == ';' || c == '#'

/-- A comment, which takes the rest of its line. -/
def comment : Scan Item := do
  let _ ← Scan.char isCommentMark
  let _ ← Scan.chars (· ≠ '\n')
  return .comment

/-- The name of a section in brackets. No comment follows it on its line without a blank. -/
def heading : Scan Item := do
  Scan.exactly '['
  let name ← textUntil (· == ']')
  Scan.exactly ']'
  guard !(← get).head?.any isCommentMark
  return .opened (trim name)

/-- A key and its value. A key has at least one character. -/
def assignment : Scan Item := do
  let key ← textUntil fun c => c == '=' || c == ':'
  guard (trim key ≠ "")
  let _ ← Scan.char fun c => c == '=' || c == ':'
  return .assigned (trim key) (← value)

/-- An item and the blanks before it. A comment starts its line. -/
def item : Scan Item := do
  let blanks ← Scan.chars isBlank
  if (← get).head?.any isCommentMark then
    guard (blanks.getLast?.all (· == '\n'))
    comment
  else if (← get).head? = some '[' then heading
  else assignment

/-- The newest section comes first. -/
def Draft.add (draft : Draft) : Item → Draft
  | .comment => draft
  | .opened name => { draft with sections := (name, []) :: draft.sections }
  | .assigned key v =>
    match draft.sections with
    | [] => { draft with general := draft.general ++ [(key, .text v)] }
    | (name, fields) :: more =>
      { draft with sections := (name, fields ++ [(key, .text v)]) :: more }

/-- The settings in a text. Of sections with the same name the last one counts. -/
def parse? (s : String) : Option Setting :=
  Scan.all? (do
    let items ← Scan.many item
    let _ ← Scan.chars isBlank
    let draft := items.foldl Draft.add {}
    let sections := draft.sections.reverse.map fun (name, fields) => (name, .ofFields fields)
    return .ofFields (draft.general ++ sections)) s.toList

end ActiveObjects.Ini

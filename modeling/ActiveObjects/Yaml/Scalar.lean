import ActiveObjects.Text.Hex
import ActiveObjects.Text.Utf8
import ActiveObjects.Yaml.Scanner

/-!
# Scalars of YAML

Plain and quoted scalars may go over several lines, which are folded: one line end counts as a
space, and of several the first does not count. The lines of a block scalar are kept, or folded
where no blank starts a line.
-/

namespace ActiveObjects.Yaml.Scanning

open Text

/-! ## Folding -/

/-- What so many line ends between two words count as. -/
def folded (lineEnds : Nat) : List Char :=
  if lineEnds = 1 then [' '] else List.replicate (lineEnds - 1) '\n'

/-- Passes line ends and the blanks around them; gives the count of line ends. A tab outside the
indentation is treated by `onTab`. -/
def lineEnds (indent : Int) (onTab : Scanning Unit) : Scanning Nat := do
  let first := (← get).line
  repeatAll do
    let s ← get
    match s.at? 0 with
    | '\n' => skipLine; return true
    | '\t' => if s.column < indent then onTab else skipBlanks 1
              return true
    | ' ' => skipBlanks 1; return true
    | _ => return false
  return (← get).line - first

/-- What stands between two words: blanks, or line ends that are folded. -/
def between (indent : Int) (onTab : Scanning Unit) : Scanning (List Char) := do
  let blanks ← takeBlanks isSpace
  if (← peek 0) = '\n' then return folded (← lineEnds indent onTab) else return blanks

/-! ## Plain scalars -/

/-- The characters of a plain scalar up to a blank, to a colon before a blank, or in brackets to a
character that structures them. -/
def plainWord (inBrackets : Bool) : List Char → List Char
  | [] => []
  | c :: rest =>
    let next := rest.headD ending
    if isGap c || (c == ':' && (isGap next || (inBrackets && isBracketing next))) ||
      (inBrackets && isBracketing c) then []
    else c :: plainWord inBrackets rest

/-- The words of a plain scalar after some text and what stands behind that. -/
def plainWords (indent : Int) : (limit : Nat) → (words gap : List Char) → Scanning (List Char)
  | 0, words, _ => pure words
  | limit + 1, words, gap => do
    let s ← get
    if s.isAtDocumentMark || s.at? 0 == '#' then return words
    guard !(s.inBrackets && s.at? 0 == '-' && isBracketing (s.at? 1))
    match plainWord s.inBrackets s.rest with
    | [] => return words
    | word =>
      skip word.length
      let words := words ++ gap ++ word
      if !isSpace (← peek 0) ∧ (← peek 0) ≠ '\n' then return words
      let gap ← between indent emptyLine
      let s ← get
      if !s.inBrackets ∧ s.column < indent then return words
      plainWords indent limit words gap

/-- A scalar without quotes. -/
def plain : Scanning Token := do
  dropIndents
  let s ← get
  let indent := s.indent + 1
  guard !(s.inBrackets && decide (s.column < indent))
  let words ← plainWords indent (s.rest.length + 1) [] []
  if (← get).lineStart then allowKey true
  return .plain words

/-! ## Quoted scalars -/

/-- The character of a number in so many hexadecimal digits. -/
def numbered (width : Nat) : Scanning Char := do
  let digits := (← get).rest.take width
  guard (digits.length = width)
  skip width
  match (readHex? digits).bind (Utf8.scalar? 0) with
  | some c => return c
  | none => failure

/-- The character that a backslash and what follows stand for. -/
def escaped : Scanning Char := do
  let c ← peek 1
  skip 2
  match c with
  | '0' => return Char.ofNat 0
  | 'a' => return Char.ofNat 7
  | 'b' => return Char.ofNat 8
  | 't' | '\t' => return '\t'
  | 'n' => return '\n'
  | 'v' => return Char.ofNat 11
  | 'f' => return Char.ofNat 12
  | 'r' => return '\r'
  | 'e' => return Char.ofNat 27
  | ' ' | '"' | '/' | '\\' => return c
  | 'N' => return Char.ofNat 0x85
  | '_' => return Char.ofNat 0xA0
  | 'L' => return Char.ofNat 0x2028
  | 'P' => return Char.ofNat 0x2029
  | 'x' => numbered 2
  | 'u' => numbered 4
  | 'U' => numbered 8
  | _ => failure

/-- The characters up to a blank or the last quote, and whether an escaped line end follows, which
is passed. -/
def quotedWord (quote : Char) : (limit : Nat) → (read : List Char) → Scanning (List Char × Bool)
  | 0, read => pure (read.reverse, false)
  | limit + 1, read => do
    let a ← peek 0
    let b ← peek 1
    if isGap a then return (read.reverse, false)
    else if a = quote then
      if quote = '\'' ∧ b = '\'' then
        skip 2
        quotedWord quote limit ('\'' :: read)
      else return (read.reverse, false)
    else if quote = '"' ∧ a = '\\' then
      if b = '\n' then
        skip 1
        skipLine
        return (read.reverse, true)
      else quotedWord quote limit ((← escaped) :: read)
    else
      skip 1
      quotedWord quote limit (a :: read)

/-- The words of a quoted scalar up to its last quote. -/
def quotedWords (quote : Char) : (limit : Nat) → (words : List Char) → Scanning (List Char)
  | 0, _ => failure
  | limit + 1, words => do
    let s ← get
    guard (!s.isAtDocumentMark && s.at? 0 ≠ ending && !s.isOutside)
    let (word, lineEscaped) ← quotedWord quote (s.rest.length + 1) []
    let words := words ++ word
    if (← peek 0) = quote then return words
    let gap ← if lineEscaped then
        pure (List.replicate (← lineEnds s.indent failure) '\n')
      else between s.indent failure
    quotedWords quote limit (words ++ gap)

/-- A quoted scalar. What follows it on its line is known beforehand. -/
def quoted (quote : Char) : Scanning Token := do
  let start ← get
  skip 1
  let text ← quotedWords quote (start.rest.length + 1) []
  skip 1
  let _ ← lineBlanks true
  let s ← get
  let c := s.at? 0
  guard (isLineEnd c || (s.inBrackets && [',', '\x7d', ']', ':'].contains c) ||
    (c == ':' && start.line = s.line))
  return .quoted text

/-! ## Block scalars -/

/-- What becomes of the line ends after the last line: one of them counts, none or all. -/
inductive Chomping where
  | clip
  | strip
  | keep
deriving DecidableEq, Repr

/-- The chomping that a character of a header asks for. -/
def chomping? (c : Char) : Option Chomping :=
  if c = '+' then some .keep else if c = '-' then some .strip else none

/-- A mark for the line ends and a digit for the indentation, in either order. -/
def blockHeader : Scanning (Chomping × Nat) := do
  let mark : Scanning (Option Chomping) := do
    let found := chomping? (← peek 0)
    if found.isSome then skip 1
    return found
  let width : Scanning Nat := do
    let c ← peek 0
    if !c.isDigit then return 0
    guard (c ≠ '0')
    skip 1
    return c.toNat - '0'.toNat
  let before ← mark
  let indent ← width
  let after ← if before.isNone ∧ indent ≠ 0 then mark else pure none
  return ((before.or after).getD .clip, indent)

/-- Passes empty lines and the indentation of the next line; gives the count of empty lines. -/
def skipIndent (indent : Nat) : Scanning Nat := do
  let first := (← get).line
  repeatAll do
    let s ← get
    let spaces := (s.rest.takeWhile (· == ' ')).length
    skipBlanks (min spaces (indent - s.column))
    if (← peek 0) = '\n' then
      skipLine
      return true
    return false
  return (← get).line - first

/-- The greatest column up to which blanks go, over the empty lines and the next one. -/
def deepestBlank : (limit deepest : Nat) → Scanning Nat
  | 0, deepest => pure deepest
  | limit + 1, deepest => do
    let _ ← takeBlanks (· == ' ')
    let deepest := max deepest (← get).column
    if (← peek 0) = '\n' then
      skipLine
      deepestBlank limit deepest
    else return deepest

/-- The lines of a block scalar so far: the text, whether a line end follows it, the count of empty
lines after that, and whether the last line started with a blank. -/
structure BlockLines where
  text : List Char := []
  ended : Bool := false
  empty : Nat
  blank : Bool := false

/-- Adds the lines that are indented so deep. -/
def blockLines (literal : Bool) (indent : Nat) : (limit : Nat) → BlockLines → Scanning BlockLines
  | 0, lines => pure lines
  | limit + 1, lines => do
    let s ← get
    if s.column ≠ indent ∨ s.at? 0 = ending ∨ s.isAtDocumentMark then return lines
    let blank := isSpace (s.at? 0)
    let emptyLines := List.replicate lines.empty '\n'
    let gap :=
      if !literal ∧ lines.ended ∧ !lines.blank ∧ !blank then
        if lines.empty = 0 then [' '] else emptyLines
      else (if lines.ended then ['\n'] else []) ++ emptyLines
    let text := lines.text ++ gap ++ (← take (!isLineEnd ·))
    if (← peek 0) = ending then return ⟨text, false, 0, blank⟩
    skipLine
    blockLines literal indent limit ⟨text, true, ← skipIndent indent, blank⟩

/-- A block scalar, whose lines are kept or folded. -/
def block (literal : Bool) : Scanning Token := do
  let start ← get
  skip 1
  dropIndents
  let (chomping, width) ← blockHeader
  emptyLine
  let hasLine := (← peek 0) = '\n'
  if hasLine then skipLine
  guard ((← peek 0) ≠ '\t')
  let s ← get
  let (indent, empty) ← if 0 < width then do
      let indent := if 0 ≤ s.indent then s.indent.toNat + width else width
      pure (indent, ← skipIndent indent)
    else do
      let deepest ← deepestBlank (s.rest.length + 1) 0
      pure (max deepest (s.indent + 1).toNat, (← get).line - s.line)
  let s ← get
  if s.at? 0 = ending then
    let text := match chomping with
      | .strip => []
      | .clip => if hasLine then ['\n'] else []
      | .keep => if s.line = start.line then [] else List.replicate (max 1 empty) '\n'
    return .quoted text
  guard !(s.column < indent && s.indent < s.column)
  let lines ← blockLines literal indent (s.rest.length + 1) { empty }
  let s ← get
  let lastEnd := (if lines.ended then ['\n'] else []) ++
    if s.at? 0 = ending ∧ max s.indent 1 ≤ s.column then ['\n'] else []
  return .quoted <| lines.text ++ match chomping with
    | .strip => []
    | .clip => lastEnd
    | .keep => lastEnd ++ List.replicate lines.empty '\n'

end ActiveObjects.Yaml.Scanning

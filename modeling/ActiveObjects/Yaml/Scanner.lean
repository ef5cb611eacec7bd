import ActiveObjects.Yaml.Token

/-!
# Scanning YAML

The state of a scan, and what its parts share: the place in the text, the blocks that are open, and
the texts that may turn out to be keys. A key is known as one only by the colon after it; its token
is then put in front of what has been scanned since.
-/

namespace ActiveObjects.Yaml

/-- What to go back to when an indentation ends. -/
structure Indent where
  outer : Int
  /-- Some indentations belong to no block of their own. -/
  isBlock : Bool
deriving DecidableEq, Repr

/-- The start of what may be a key. -/
structure KeyStart where
  possible : Bool := false
  /-- Nothing but a key may stand there. -/
  required : Bool := false
  /-- How many tokens stand before it. -/
  token : Nat := 0
  line : Nat := 0
  column : Nat := 0
  index : Nat := 0
deriving DecidableEq, Repr

/-- What is left of a text, where that starts, and the tokens so far. -/
structure Scanner where
  rest : List Char
  line : Nat := 0
  column : Nat := 0
  index : Nat := 0
  /-- Nothing but blanks has been seen on the line. -/
  lineStart : Bool := true
  tokens : Array Token := #[]
  indent : Int := -1
  indents : List Indent := []
  /-- The brackets that are open, innermost first. -/
  brackets : List Token := []
  /-- One in the blocks and one in each bracket, innermost first. -/
  keys : List KeyStart := [{}]
  keyAllowed : Bool := true
  /-- Where a colon counts even without a blank after it. -/
  adjacent : Option Nat := none

/-- A step that passes characters, or fails. -/
abbrev Scanning := StateT Scanner Option

/-! ## Characters -/

/-- Stands for the end of the text, in which it does not occur. -/
def ending : Char := Char.ofNat 0

def isSpace (c : Char) : Bool := c == ' ' || c == '\t'

def isLineEnd (c : Char) : Bool := c == '\n' || c == ending

def isGap (c : Char) : Bool := isSpace c || isLineEnd c

/-- The characters that structure brackets. -/
def isBracketing (c : Char) : Bool := [',', '[', ']', '\x7b', '\x7d'].contains c

def isWordChar (c : Char) : Bool := c.isAlphanum || c == '_' || c == '-'

namespace Scanner

def at? (s : Scanner) (n : Nat) : Char := (s.rest.drop n).headD ending

def inBrackets (s : Scanner) : Bool := s.brackets ≠ []

/-- Three dashes or dots alone at the start of a line. -/
def isAtMark (s : Scanner) (c : Char) : Bool :=
  s.column = 0 && s.at? 0 == c && s.at? 1 == c && s.at? 2 == c && isGap (s.at? 3)

def isAtDocumentMark (s : Scanner) : Bool := s.isAtMark '-' || s.isAtMark '.'

/-- A place outside the current indentation. -/
def isOutside (s : Scanner) : Bool := s.column < s.indent

end Scanner

namespace Scanning

def peek (n : Nat) : Scanning Char := do return (← get).at? n

/-! ## Moving on -/

/-- Passes some blanks. -/
def skipBlanks (count : Nat) : Scanning Unit :=
  modify fun s =>
    { s with rest := s.rest.drop count, column := s.column + count, index := s.index + count }

/-- Passes some other characters of a line. -/
def skip (count : Nat) : Scanning Unit := do
  skipBlanks count
  if 0 < count then modify fun s => { s with lineStart := false }

/-- Passes a line end. -/
def skipLine : Scanning Unit :=
  modify fun s =>
    { s with
      rest := s.rest.drop 1, line := s.line + 1, column := 0, index := s.index + 1
      lineStart := true }

def takeBlanks (p : Char → Bool) : Scanning (List Char) := do
  let found := (← get).rest.takeWhile p
  skipBlanks found.length
  return found

def take (p : Char → Bool) : Scanning (List Char) := do
  let found := (← get).rest.takeWhile p
  skip found.length
  return found

/-- Takes steps as long as they are possible. -/
def repeatUpTo (step : Scanning Bool) : (limit : Nat) → Scanning Unit
  | 0 => pure ()
  | limit + 1 => do
    if ← step then repeatUpTo step limit

/-- Takes steps that pass at least one character each. -/
def repeatAll (step : Scanning Bool) : Scanning Unit := do
  repeatUpTo step ((← get).rest.length + 1)

/-! ## Blanks and comments -/

def comment : Scanning Unit := do let _ ← take (!isLineEnd ·)

/-- What blanks were passed. -/
structure Passed where
  tabs : Bool
  spaces : Bool

/-- Passes blanks and a comment, which needs a blank before it. -/
def lineBlanks (withTabs : Bool) : Scanning Passed := do
  let blanks ← takeBlanks fun c => c == ' ' || (withTabs && c == '\t')
  if (← peek 0) = '#' then
    guard (blanks ≠ [])
    comment
  return ⟨blanks.contains '\t', blanks.contains ' '⟩

/-- Passes blanks up to the end of a line that has nothing else. -/
def emptyLine : Scanning Unit := do
  let _ ← lineBlanks true
  guard (isLineEnd (← peek 0))

/-- Passes all that stands between two tokens. Tabs do not indent a block. -/
def gap : Scanning Unit := repeatAll do
  let s ← get
  match s.at? 0 with
  | '\t' =>
    if s.indents ≠ [] ∧ s.lineStart ∧ s.isOutside then emptyLine else skipBlanks 1
    return true
  | ' ' => skipBlanks 1; return true
  | '\n' =>
    skipLine
    if !s.inBrackets then modify fun s => { s with keyAllowed := true }
    return true
  | '#' => comment; return true
  | _ => return false

/-! ## Tokens -/

/-- Adds a token. -/
def push (token : Token) : Scanning Unit :=
  modify fun s => { s with tokens := s.tokens.push token }

/-- Puts a token in front of those from a place on. -/
def insertAt (place : Nat) (token : Token) : Scanning Unit :=
  modify fun s => { s with tokens := s.tokens.insertIdxIfInBounds place token }

def allowKey (allowed : Bool) : Scanning Unit := modify fun s => { s with keyAllowed := allowed }

/-! ## Indentation -/

/-- Opens a block at a column, unless it is open. Its token comes before `place`, or last. -/
def openBlock (column : Nat) (place : Option Nat) (token : Token) : Scanning Unit := do
  if !(← get).inBrackets then
    modify fun s =>
      match s.indents with
      | ⟨outer, false⟩ :: more =>
        if s.indent ≤ column then { s with indent := outer, indents := more } else s
      | _ => s
    let s ← get
    if s.indent < column then
      set { s with indent := column, indents := ⟨s.indent, true⟩ :: s.indents }
      match place with
      | some place => insertAt place token
      | none => push token

/-- Ends indentations up to that of a column. -/
def closeIndents (column : Int) (indent : Int) (tokens : Array Token) :
    List Indent → Int × Array Token × List Indent
  | [] => (indent, tokens, [])
  | top :: more =>
    if column < indent then
      closeIndents column top.outer (if top.isBlock then tokens.push .blockEnd else tokens) more
    else (indent, tokens, top :: more)

/-- Ends the blocks that are indented deeper than a column. -/
def closeBlocks (column : Int) : Scanning Unit :=
  modify fun s =>
    if s.inBrackets then s
    else
      let (indent, tokens, indents) := closeIndents column s.indent s.tokens s.indents
      { s with indent, tokens, indents }

/-- Requires that what follows is indented by one column at least. -/
def indentByOne : Scanning Unit :=
  modify fun s =>
    if !s.inBrackets && s.indents.head?.any (·.isBlock) then
      { s with indent := s.indent + 1, indents := ⟨s.indent, false⟩ :: s.indents }
    else s

/-- The indentation of the innermost block. -/
def blockIndents (indent : Int) : List Indent → Int × List Indent
  | ⟨outer, false⟩ :: more => blockIndents outer more
  | indents => (indent, indents)

/-- Drops the indentations that belong to no block. -/
def dropIndents : Scanning Unit :=
  modify fun s =>
    let (indent, indents) := blockIndents s.indent s.indents
    { s with indent, indents }

/-! ## Keys -/

/-- What may be a key turns out to be none. -/
def dropKey : Scanning Unit := do
  match (← get).keys with
  | [] => failure
  | top :: more =>
    guard !(top.possible && top.required)
    modify fun s => { s with keys := { top with possible := false } :: more }

/-- Notes that a key may start here. -/
def saveKey : Scanning Unit := do
  if (← get).keyAllowed then
    dropKey
    modify fun s =>
      let required := !s.inBrackets && s.indent = s.column && s.indents.head?.any (·.isBlock)
      let start : KeyStart := ⟨true, required, s.tokens.size, s.line, s.column, s.index⟩
      { s with keys := start :: s.keys.drop 1 }

/-- The longest key outside of brackets. -/
def maxKeyLength : Nat := 1024

/-- Outside of brackets a key ends on its line. -/
def dropStaleKeys : Scanning Unit := do
  let s ← get
  if !s.inBrackets then
    let isStale (k : KeyStart) : Bool :=
      k.possible && (k.line < s.line || k.index + maxKeyLength < s.index)
    guard !(s.keys.any fun k => isStale k && k.required)
    set { s with keys := s.keys.map fun k => if isStale k then { k with possible := false } else k }

end Scanning

end ActiveObjects.Yaml

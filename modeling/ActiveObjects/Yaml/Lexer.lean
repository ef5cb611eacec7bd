import ActiveObjects.Yaml.Scalar

/-!
# The tokens of a text

Each token is known by its first characters. In blocks a dash, a question mark and a colon count
where a blank follows them, in brackets a colon also before what structures the brackets.
-/

namespace ActiveObjects.Yaml

open Text

namespace Scanning

/-! ## Directives, anchors and tags -/

/-- The version of the format. -/
def version : Scanning Token := do
  let _ ← takeBlanks isSpace
  guard ((← take Char.isDigit) ≠ [])
  guard ((← peek 0) = '.')
  skip 1
  guard ((← take Char.isDigit) ≠ [])
  return .version

/-- An exclamation mark, or a name between two of these. -/
def handle : Scanning (List Char) := do
  guard ((← peek 0) = '!')
  skip 1
  let name ← take isWordChar
  if (← peek 0) = '!' then
    skip 1
    return '!' :: name ++ ['!']
  guard (name = [])
  return ['!']

def isTagChar (c : Char) : Bool :=
  c.isAlphanum || "#;/?:@&=+$_.~*'()%-".toList.contains c

/-- What a handle of tags stands for. -/
def tagHandle : Scanning Token := do
  let _ ← takeBlanks isSpace
  let handle ← handle
  guard (isSpace (← peek 0))
  let _ ← takeBlanks isSpace
  let start ← take fun c => isTagChar c || c == '!' || c == ','
  guard (start ≠ [] ∧ isGap (← peek 0))
  return .tagHandle (String.ofList handle) (String.ofList start)

/-- A directive, which is alone on its line. Those of other names say nothing. -/
def directive : Scanning Unit := do
  closeBlocks (-1)
  dropKey
  allowKey false
  skip 1
  let name ← take (!isGap ·)
  guard (name ≠ [])
  let token ← match String.ofList name with
    | "YAML" => version
    | "TAG" => tagHandle
    | _ => do
      comment
      pure (.tagHandle "" "")
  emptyLine
  if (← peek 0) = '\n' then skipLine
  push token

/-- The name of an anchor. -/
def anchorName : Scanning String := do
  skip 1
  let name ← take fun c => !isGap c && !isBracketing c
  guard (name ≠ [])
  return String.ofList name

/-- A tag: in full between angle brackets, or with a handle in front. -/
def tag : Scanning Token := do
  let token ← if (← peek 1) = '<' then do
      skip 2
      let suffix ← take fun c => isTagChar c || isBracketing c || c == '!'
      guard (suffix ≠ [] ∧ (← peek 0) = '>')
      skip 1
      pure (Token.tag "" (String.ofList suffix))
    else do
      skip 1
      let name ← take isWordChar
      if (← peek 0) = '!' then
        skip 1
        let suffix ← take isTagChar
        guard (suffix ≠ [])
        pure (.tag (String.ofList ('!' :: name ++ ['!'])) (String.ofList suffix))
      else
        match name ++ (← take isTagChar) with
        | [] => pure (.tag "" "!")
        | suffix => pure (.tag "!" (String.ofList suffix))
  let c ← peek 0
  guard (isGap c || ((← get).inBrackets && isBracketing c))
  return token

/-! ## Structure -/

/-- The mark for the start or the end of a document. -/
def documentMark (token : Token) : Scanning Unit := do
  guard !(← get).inBrackets
  closeBlocks (-1)
  dropKey
  allowKey false
  skip 3
  push token
  if token = .documentEnd then emptyLine

/-- How deep brackets may nest. -/
def maxBrackets : Nat := 255

/-- A bracket that opens. It may be the first token of a key. -/
def openBracket (token : Token) : Scanning Unit := do
  saveKey
  indentByOne
  guard ((← get).brackets.length < maxBrackets)
  modify fun s => { s with brackets := token :: s.brackets, keys := {} :: s.keys }
  allowKey true
  skip 1
  let _ ← lineBlanks true
  push token

/-- A bracket that closes. It ends the innermost one, of whatever kind. -/
def closeBracket (token : Token) : Scanning Unit := do
  guard (← get).inBrackets
  dropKey
  modify fun s => { s with brackets := s.brackets.drop 1, keys := s.keys.drop 1 }
  allowKey false
  skip 1
  let _ ← lineBlanks true
  modify fun s => if s.inBrackets then { s with adjacent := some s.index } else s
  push token

/-- The comma after an item in brackets. -/
def comma : Scanning Unit := do
  dropKey
  allowKey true
  skip 1
  let _ ← lineBlanks true
  push .comma

/-- The dash before an item of a block. -/
def entry : Scanning Unit := do
  let start ← get
  guard (!start.inBrackets && start.keyAllowed)
  skip 1
  openBlock start.column none .blockSequence
  let passed ← lineBlanks true
  guard !(passed.tabs && (← peek 0) == '-' && isGap (← peek 1))
  let c ← peek 0
  if c = '\n' ∨ isBracketing c then indentByOne
  dropKey
  allowKey true
  push .entry

/-- A question mark before a key. -/
def explicitKey : Scanning Unit := do
  let start ← get
  if !start.inBrackets then
    guard start.keyAllowed
    openBlock start.column none .blockMapping
  dropKey
  allowKey !start.inBrackets
  skip 1
  gap
  push .key

/-- The colon after a key. What the key starts with now follows the token of a key. -/
def value : Scanning Unit := do
  let start ← get
  let key := start.keys.headD {}
  skip 1
  if (← peek 0) = '\t' then
    let passed ← lineBlanks true
    guard (passed.spaces || !isWordChar (← peek 0))
  if key.possible then
    guard !(start.brackets.head? == some .openSequence && decide (key.line < start.line))
    insertAt key.token .key
    openBlock key.column (some key.token) .blockMapping
    indentByOne
    modify fun s =>
      { s with keys := { key with possible := false } :: s.keys.drop 1, keyAllowed := false }
  else
    if !start.inBrackets then
      guard start.keyAllowed
      openBlock start.column none .blockMapping
    indentByOne
    allowKey !start.inBrackets
  push .value

/-- A scalar or what belongs to a node, where a key may start. -/
def node (token : Scanning Token) (keyAfter : Bool) : Scanning Unit := do
  saveKey
  allowKey keyAfter
  push (← token)

/-- A quoted scalar. In brackets its value may follow without a blank. -/
def quotedNode (quote : Char) : Scanning Unit := do
  saveKey
  allowKey false
  let token ← quoted quote
  gap
  modify fun s => { s with adjacent := some s.index }
  push token

/-! ## All tokens -/

/-- A colon that follows a key. -/
def isValueMark (s : Scanner) : Bool :=
  isGap (s.at? 1) || (s.inBrackets && (isBracketing (s.at? 1) || s.adjacent == some s.index))

/-- Takes the next token. -/
def next : Scanning Unit := do
  let s ← get
  if s.column = 0 ∧ s.at? 0 = '%' then directive
  else if s.isAtMark '-' then documentMark .documentStart
  else if s.isAtMark '.' then documentMark .documentEnd
  else
    guard !s.isOutside
    match s.at? 0 with
    | '[' => openBracket .openSequence
    | '\x7b' => openBracket .openMapping
    | ']' => closeBracket .closeSequence
    | '\x7d' => closeBracket .closeMapping
    | ',' => comma
    | '*' => node (do return .reference (← anchorName)) false
    | '&' => node (do return .anchor (← anchorName)) false
    | '!' => node tag false
    | '\'' => quotedNode '\''
    | '"' => quotedNode '"'
    | '-' => if isGap (s.at? 1) then entry else node plain false
    | '?' => if isGap (s.at? 1) then explicitKey else node plain false
    | ':' => if isValueMark s then value else node plain false
    | '|' => if s.inBrackets then node plain false else node (block true) true
    | '>' => if s.inBrackets then node plain false else node (block false) true
    | '%' | '@' | '\x60' => failure
    | _ => node plain false

/-- The tokens up to the end of the text. -/
def all : Scanning Unit := do
  repeatAll do
    gap
    dropStaleKeys
    closeBlocks (← get).column
    if (← peek 0) = ending then return false
    next
    return true
  guard !(← get).inBrackets
  guard !((← get).keys.any fun k => k.required && k.possible)
  closeBlocks (-1)

end Scanning

/-- Line ends in one form, up to a character that no text contains. -/
def lines : List Char → List Char
  | '\r' :: '\n' :: rest => '\n' :: lines rest
  | '\r' :: rest => '\n' :: lines rest
  | c :: rest => if c = ending then [] else c :: lines rest
  | [] => []

/-- The tokens of a text. -/
def tokens? (cs : List Char) : Option (List Token) :=
  (Scanning.all.run { rest := lines cs }).map fun (_, s) => s.tokens.toList

end ActiveObjects.Yaml

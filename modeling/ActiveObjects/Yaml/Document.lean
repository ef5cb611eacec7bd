import ActiveObjects.Yaml.Basic
import ActiveObjects.Yaml.Lexer

/-!
# YAML documents

The nodes that the tokens of a text make. A node may be named by an anchor, and what refers to the
name later is the same node again.
-/

namespace ActiveObjects.Yaml

/-- The tokens that are left, the anchors with their nodes, newest first, and what the handles of
tags stand for. The node of an anchor is unknown until it is complete. -/
structure Composer where
  tokens : List Token
  anchors : List (String × Option Yaml) := []
  handles : List (String × String) := []

/-- A step that takes tokens, or fails. -/
abbrev Composing := StateT Composer Option

namespace Composing

def peek : Composing (Option Token) := do return (← get).tokens.head?

def skip : Composing Unit := modify fun s => { s with tokens := s.tokens.drop 1 }

/-- Whether one of these tokens comes next. -/
def isNext (tokens : List Token) : Composing Bool := do return (← peek).any tokens.contains

/-- What an item gives, or null where one of these tokens comes next. -/
def orNull (ends : List Token) (item : Composing Yaml) : Composing Yaml := do
  if ← isNext ends then return .null else item

/-- Items until there is none. Each takes at least one token. -/
def collect {α : Type} (item : Composing (Option α)) : (limit : Nat) → Composing (List α)
  | 0 => failure
  | limit + 1 => do
    match ← item with
    | none => return []
    | some a => return a :: (← collect item limit)

/-- The items up to the first that is none. -/
def collectAll {α : Type} (item : Composing (Option α)) : Composing (List α) := do
  collect item ((← get).tokens.length + 1)

/-! ## Anchors and tags -/

/-- The node that was named last by an anchor. -/
def refer (name : String) : Composing Yaml := do
  match (← get).anchors.lookup name with
  | none => failure
  | some found => return found.getD .unfit

/-- Names the node that follows; gives the place of the anchor, counted from the oldest. -/
def declare (name : String) : Composing Nat := do
  let count := (← get).anchors.length
  modify fun s => { s with anchors := (name, none) :: s.anchors }
  return count

/-- Tells the node of an anchor. -/
def complete (place : Nat) (v : Yaml) : Composing Unit :=
  modify fun s =>
    let change := fun (name, _) => (name, some v)
    { s with anchors := s.anchors.modify (s.anchors.length - 1 - place) change }

/-- A tag with what its handle stands for. -/
def resolveTag (handle suffix : String) : Composing (String × String) := do
  match (← get).handles.lookup handle with
  | some start => return (start, suffix)
  | none =>
    if handle = "!!" then return (coreTags, suffix)
    guard (handle = "" ∨ handle = "!")
    return (handle, suffix)

/-- The place of the anchor that stands next, if one does. -/
def anchor? : Composing (Option Nat) := do
  match ← peek with
  | some (.anchor name) =>
    skip
    return some (← declare name)
  | _ => return none

/-- The tag that stands next, if one does. -/
def tag? : Composing (Option (String × String)) := do
  match ← peek with
  | some (.tag handle suffix) =>
    skip
    return some (← resolveTag handle suffix)
  | _ => return none

/-! ## Nodes -/

/-- A scalar without quotes. -/
def plain (tag : Option (String × String)) (cs : List Char) : Yaml :=
  match tag with
  | none => ofPlain cs
  | some (handle, suffix) => ofTagged handle suffix cs

/-- The items of a block up to its end. -/
def blockItem (item : Composing Yaml) : Composing (Option Yaml) := do
  match ← peek with
  | some .blockEnd => skip; return none
  | some .entry =>
    skip
    return some (← orNull [.entry, .blockEnd] item)
  | _ => failure

/-- An item of a block that is not indented. -/
def looseItem (item : Composing Yaml) : Composing (Option Yaml) := do
  match ← peek with
  | some .entry =>
    skip
    return some (← orNull [.entry, .key, .value, .blockEnd] item)
  | _ => return none

/-- The value after a key. -/
def valueAfter (ends : List Token) (item : Composing Yaml) : Composing Yaml := do
  if ← isNext [.value] then
    skip
    orNull ends item
  else return .null

/-- A field of a block. -/
def blockField (item : Composing Yaml) : Composing (Option (Yaml × Yaml)) := do
  let ends : List Token := [.key, .value, .blockEnd]
  match ← peek with
  | some .blockEnd => skip; return none
  | some .key =>
    skip
    let k ← orNull ends item
    return some (k, ← valueAfter ends item)
  | some .value => return some (.null, ← valueAfter ends item)
  | _ => failure

/-- A key and its value in brackets; either may be missing. -/
def pair (close : Token) (item : Composing Yaml) : Composing (Yaml × Yaml) := do
  let k ← if ← isNext [.key] then do
      skip
      orNull [.value, .comma, close] item
    else orNull [.value] item
  return (k, ← valueAfter [.comma, close] item)

/-- Items between brackets with commas between. A comma may follow the last one. -/
def bracketed {α : Type} (close : Token) (item : Composing α) : (limit : Nat) → Composing (List α)
  | 0 => failure
  | limit + 1 => do
    if ← isNext [close] then
      skip
      return []
    let a ← item
    if ← isNext [.comma] then
      skip
      return a :: (← bracketed close item limit)
    guard (← isNext [close])
    skip
    return [a]

/-- An item of a sequence in brackets, which may be a single field. -/
def flowItem (item : Composing Yaml) : Composing Yaml := do
  if ← isNext [.key, .value] then return .table [← pair .closeSequence item] else item

/-- A node whose tokens nest at most so deep. Blocks do not occur in brackets, and an item of a
field need not be indented. -/
def node : (room : Nat) → (inBlock loose : Bool) → Composing Yaml
  | 0, _, _ => failure
  | room + 1, inBlock, loose => do
    if let some (.reference name) ← peek then
      skip
      return ← refer name
    let early ← anchor?
    let tag ← tag?
    let place ← if early.isSome then pure early else anchor?
    let limit := (← get).tokens.length + 1
    let v ← match ← peek, inBlock, loose with
      | some .entry, _, true => do return .array (← collectAll (looseItem (node room true false)))
      | some (.plain cs), _, _ => do skip; pure (plain tag cs)
      | some (.quoted cs), _, _ => do skip; pure (.text (String.ofList cs))
      | some .openSequence, _, _ => do
        skip
        pure (.array (← bracketed .closeSequence (flowItem (node room false false)) limit))
      | some .openMapping, _, _ => do
        skip
        pure (.table (← bracketed .closeMapping (pair .closeMapping (node room false false)) limit))
      | some .blockSequence, true, _ => do
        skip
        pure (.array (← collectAll (blockItem (node room true false))))
      | some .blockMapping, true, _ => do
        skip
        pure (.table (← collectAll (blockField (node room true true))))
      | _, _, _ => do
        guard (place.isSome || tag.isSome)
        pure (plain tag [])
    if let some place := place then complete place v
    return v

/-! ## Documents -/

/-- Notes a directive; says whether there was one. -/
def directive : Composing Bool := do
  match ← peek with
  | some .version =>
    skip
    return true
  | some (.tagHandle handle start) =>
    skip
    modify fun s => { s with handles := (handle, start) :: s.handles }
    return true
  | _ => return false

/-- Directives up to the start of a document. -/
def directives : (limit : Nat) → Composing Unit
  | 0 => pure ()
  | limit + 1 => do
    if ← directive then directives limit

/-- A document, or none at the end. The mark for its start may be left out if it is the first, or if
a mark for the end stands before it. -/
def document : Composing (Option Yaml) := do
  let s ← get
  let after := s.tokens.dropWhile (· = .documentEnd)
  if after = [] then return none
  set { s with tokens := after, handles := [] }
  directives after.length
  let v ← if ← isNext [.documentStart] then do
      skip
      if (← isNext [.version, .documentStart, .documentEnd]) ∨ (← peek).isNone then pure .null
      else node after.length true false
    else do
      guard ((← get).tokens.length = after.length)
      node after.length true false
  let rest := (← get).tokens
  guard (rest = [] ∨ rest.head? = some .documentStart ∨ rest.head? = some .documentEnd)
  return some v

end Composing

/-- The documents in a text. -/
def documents? (text : String) : Option (List Yaml) := do
  let tokens ← tokens? text.toList
  return (← (Composing.collectAll Composing.document).run { tokens }).1

end ActiveObjects.Yaml

import ActiveObjects.Config.Setting
import ActiveObjects.Text.Case
import ActiveObjects.Text.Scan
import ActiveObjects.Word

/-!
# Laying settings over each other

A layer is a list of assignments to paths. Tables are merged field by field; all other values,
arrays among them, replace what was there. The names of fields lose their letter case. What a layer
assigns to one place more than once is assigned in the order of the list, in which a source may give
its keys, and a table its fields, in any order.
-/

namespace ActiveObjects

open Text

/-! ## Paths -/

inductive PathStep where
  | field (name : String)
  /-- An item of an array; negative numbers count from the end. -/
  | item (index : Int)
deriving DecidableEq, Repr

namespace PathStep

def isNameChar (c : Char) : Bool := c.isAlphanum || c == ' ' || c == '_' || c == '-'

def name : Scan PathStep := do
  return .field (String.ofList ((← Scan.chars₁ isNameChar).map Char.toLower))

/-- A number of 64 bits in brackets, maybe with spaces around. -/
def bracketed : Scan PathStep := do
  let spaces := Scan.chars fun c => c == ' ' || c == '\t'
  Scan.exactly '['
  let _ ← spaces
  let negative ← Scan.accept '-'
  let n ← (readDecimal? (← Scan.chars₁ Char.isDigit) : Option Nat)
  let index : Int := if negative then -n else n
  guard (minInteger ≤ index ∧ index ≤ maxInteger)
  let _ ← spaces
  Scan.exactly ']'
  return .item index

end PathStep

/-- The steps of a path such as `a.b[0]`. A key that is no path is a name as it stands. -/
def pathOfKey (key : String) : List PathStep :=
  let path : Scan (List PathStep) := do
    let first ← PathStep.name
    let more ← Scan.many ((do Scan.exactly '.'; PathStep.name) <|> PathStep.bracketed)
    return first :: more
  (Scan.all? path key.toList).getD [.field key]

/-! ## Assigning -/

namespace Setting

/-- The fields of a table; other values have none. -/
def fields : Setting → List (String × Setting)
  | .table fields => fields
  | _ => []

/-- The items of an array; other values have none. -/
def items : Setting → List Setting
  | .array items => items
  | _ => []

mutual

/-- Lays a value over the field of a name. What is no table becomes one. -/
def overlay (target : Setting) (name : String) : Setting → Setting
  | .table incoming =>
    let old := (target.fields.lookup (lowerCase name)).getD (.table [])
    .table (put target.fields (lowerCase name) (overlayAll old incoming))
  | v => .table (put target.fields (lowerCase name) v)

def overlayAll (target : Setting) : List (String × Setting) → Setting
  | [] => target
  | (name, v) :: rest => overlayAll (overlay target name v) rest

end

/-- The place of an item in an array of so many. -/
def position (count : Nat) (index : Int) : Nat :=
  if 0 ≤ index then index.toNat else count - index.natAbs

/-- Changes an item of an array, which is filled up with nulls as far as needed. -/
def changeItem (target : Setting) (index : Int) (change : Setting → Setting) : Setting :=
  let place := position target.items.length index
  let filled := target.items ++ List.replicate (place + 1 - target.items.length) .null
  .array (filled.modify place change)

/-- Lays a value over the place to which a path leads. What stands in the way becomes a table or an
array. -/
def assign (v : Setting) : (path : List PathStep) → (target : Setting) → Setting
  | [], target => target
  | [.field name], target => overlay target name v
  | .field name :: path, target =>
    .table (put target.fields name (assign v path ((target.fields.lookup name).getD .null)))
  | [.item index], target => changeItem target index fun _ => v
  | .item index :: path, target => changeItem target index (assign v path)

end Setting

/-- What a file or the variables set, by key. -/
abbrev Layer := List (String × Setting)

/-- A table of settings under one more layer. -/
def Setting.withLayer (target : Setting) (layer : Layer) : Setting :=
  layer.foldl (fun target (key, v) => assign v (pathOfKey key) target) target

/-- The settings of some layers, each over those before it. -/
def Setting.ofLayers (layers : List Layer) : Setting :=
  layers.foldl Setting.withLayer (.table [])

end ActiveObjects

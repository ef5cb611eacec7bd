import ActiveObjects.Json.Basic
import ActiveObjects.Record
import ActiveObjects.Text.Utf8

/-!
# Reading typed values

A record is written as an object, or as an array of its fields in order. Fields that it does not
have are skipped, a field that it has may occur once. A tagged record has one more field that names
its kind.
-/

namespace ActiveObjects.Json

/-- The text of a string, if it is one. -/
def Quoted.text? : Quoted → Option String
  | .text s => some s
  | .loose _ _ => none

def Tree.isNull : Tree → Bool
  | .null => true
  | _ => false

/-- The given fields among the known ones; none of these occurs twice. -/
def knownFields? (known : List String) (fields : List (String × Tree)) : Option (Record Tree) :=
  let keys := (fields.map (·.1)).filter known.contains
  if keys.Nodup then some ⟨(fields.lookup ·), false, Tree.isNull⟩ else none

/-- Array items as the known fields in order. -/
def positionalFields? (known : List String) (items : List Tree) : Option (Record Tree) :=
  if items.length ≤ known.length then
    some ⟨((known.zip items).lookup ·), true, Tree.isNull⟩
  else none

namespace Tree

/-- The fields of an object as texts and trees. -/
def plainFields? (fields : List (Quoted × Tree)) : Option (List (String × Tree)) :=
  fields.mapM fun (key, t) => key.text?.map (·, t)

/-- Reads a record with the given fields. -/
def record? (known : List String) : Tree → Option (Record Tree)
  | .object fields => do
    let fields ← plainFields? fields
    guard ((fields.filter fun (key, _) => !known.contains key).all fun (_, t) => t.isSkippable)
    knownFields? known fields
  | .array items => positionalFields? known items
  | _ => none

/-! ## Scalars -/

def text? : Tree → Option String
  | .string s => s.text?
  | _ => none

def bool? : Tree → Option Bool
  | .bool b => some b
  | _ => none

/-- An integer from zero up to a limit. -/
def nat? (limit : Nat) : Tree → Option Nat
  | .number (.number (.integer n)) =>
    if 0 ≤ n ∧ n.toNat ≤ limit then some n.toNat else none
  | _ => none

/-- A list of values. -/
def list? {α : Type} (read : Tree → Option α) : Tree → Option (List α)
  | .array items => items.mapM read
  | _ => none

/-- Octets: an array of numbers, or the octets of a string. -/
def octets? : Tree → Option (List UInt8)
  | .array items => items.mapM fun t => (t.nat? 255).map UInt8.ofNat
  | .string (.text s) => some (Text.Utf8.encode s.toList)
  | .string (.loose octets _) => some octets
  | _ => none

/-- The name of a case without fields: alone, or as the only key with the value null. -/
def case? : Tree → Option String
  | .string s => s.text?
  | .object [(key, .null)] => key.text?
  | _ => none

/-- As `case?`, where the value may also be an empty object. -/
def looseCase? : Tree → Option String
  | .object [(key, .object [])] => key.text?
  | t => t.case?

/-! ## Tagged records -/

/-- The kind of a tagged record and a reader of its fields. In an array the kind stands first. -/
def tagged? (tag : String) (room : Nat) (t : Tree) :
    Option (String × (List String → Option (Record Tree))) := do
  guard (t.value? room).isSome
  match t with
  | .object fields =>
    let fields ← plainFields? fields
    match fields.filter (·.1 = tag) with
    | [(_, kind)] => return (← kind.text?, (knownFields? · (fields.filter (·.1 ≠ tag))))
    | _ => none
  | .array (kind :: items) => return (← kind.text?, (positionalFields? · items))
  | _ => none

end Tree

end ActiveObjects.Json

import ActiveObjects.Config.Layers
import ActiveObjects.Decimal.Reading
import ActiveObjects.Text.Alphanumeric
import ActiveObjects.Text.Split

/-!
# Variables

The variables of the environment are used twice: those with the name of a setting override it, and
references to variables in some settings are replaced by their values.
-/

namespace ActiveObjects

open Text

abbrev Variables := List (String × String)

namespace Variables

/-! ## Overriding settings -/

/-- The names of variables that set something start like this, in any letter case. -/
def start : List Char := "runtime_".toList

/-- Between the names of a table and of its field stand two underscores. -/
def dotted : List Char → List Char
  | '_' :: '_' :: rest => '.' :: dotted rest
  | c :: rest => c :: dotted rest
  | [] => []

/-- The key that a variable sets. -/
def key? (name : String) : Option String :=
  (after? start (name.toList.map Char.toLower)).map fun rest => String.ofList (dotted rest)

/-- What the text of a variable sets: a truth value, an integer or a number if it looks like one. -/
def setting (value : String) : Setting :=
  match String.ofList (value.toList.map Char.toLower) with
  | "true" => .bool true
  | "false" => .bool false
  | _ =>
    match Decimal.integer? value.toList, Decimal.number? value.toList with
    | some n, _ => .integer n
    | none, some x => .float x
    | none, none => .text value

/-- All that the variables set. -/
def layer (vars : Variables) : Layer :=
  vars.filterMap fun (name, value) => (key? name).map fun key => (key, setting value)

/-! ## References -/

/-- A reference in braces: the name, and what stands for an unset variable. A name is not empty. -/
def withDefault (cs : List Char) : List Char × Option (List Char) :=
  match cutAt? [':', '-'] cs with
  | some (c :: name, otherwise) => (c :: name, some otherwise)
  | some ([], _) | none => (cs, none)

/-- The value of a variable, or its replacement if it is unset. -/
def value? (vars : Variables) (name : List Char) (otherwise : Option (List Char)) :
    Option (List Char) :=
  match vars.lookup (String.ofList name) with
  | some value => some value.toList
  | none => otherwise

def isNameChar (c : Char) : Bool := isAlphanumeric c || c == '_'

/-- Replaces `$name`, `${name}` and `${name:-otherwise}`, and `$$` by a dollar sign. A dollar sign
before anything else stands for itself, and so does a brace that is never closed. There are at most
`limit` references. -/
def expandUpTo (vars : Variables) : (limit : Nat) → List Char → Option (List Char)
  | 0, cs => some cs
  | limit + 1, cs =>
    let plain := cs.takeWhile (· ≠ '$')
    match cs.dropWhile (· ≠ '$') with
    | [] => some plain
    | _ :: '$' :: rest => do return plain ++ '$' :: (← expandUpTo vars limit rest)
    | _ :: '\x7b' :: rest =>
      match cutAt? ['\x7d'] rest with
      | none => do return plain ++ '$' :: '\x7b' :: (← expandUpTo vars limit rest)
      | some (inside, rest) => do
        let (name, otherwise) := withDefault inside
        let value ← value? vars name otherwise
        return plain ++ value ++ (← expandUpTo vars limit rest)
    | _ :: rest =>
      let name := rest.takeWhile isNameChar
      if name = [] then do return plain ++ '$' :: (← expandUpTo vars limit rest)
      else do
        let value ← value? vars name none
        return plain ++ value ++ (← expandUpTo vars limit (rest.drop name.length))

/-- Replaces the references to variables in a text; `none` if one of these is unset. -/
def expand? (vars : Variables) (s : String) : Option String :=
  (expandUpTo vars (s.toList.count '$') s.toList).map String.ofList

end Variables

end ActiveObjects

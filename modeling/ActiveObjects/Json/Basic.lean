import ActiveObjects.Decimal.Shortest

/-!
# JSON

`Json` is a value as programs hold it. `Json.Tree` is what a text says, which is more: fields may
repeat, strings may hold what is no text, and numbers may be out of range. Which of these matter
depends on what the text is read as.
-/

namespace ActiveObjects

/-- A number of JSON: an integer of at most 64 bits, or `m · 2 ^ q` with a sign. -/
inductive Json.Number where
  | integer (n : Int)
  | float (negative : Bool) (m : Nat) (q : Int)
deriving DecidableEq, Repr

inductive Json where
  | null
  | bool (b : Bool)
  | number (n : Json.Number)
  | string (s : String)
  | array (items : List Json)
  | object (fields : List (String × Json))

namespace Json

def ofNat (n : Nat) : Json := .number (.integer n)

/-- A value or null. -/
def ofOption {α : Type} (f : α → Json) : Option α → Json
  | none => .null
  | some a => f a

def ofList {α : Type} (f : α → Json) (items : List α) : Json := .array (items.map f)

/-- Octets are written as an array of numbers. -/
def ofOctets (octets : List UInt8) : Json := .array (octets.map fun b => ofNat b.toNat)

/-! ## What a text says -/

/-- A quoted text. What is no text, because of half a surrogate pair or a bare control character,
still denotes octets; `control` tells of the latter. -/
inductive Quoted where
  | text (s : String)
  | loose (octets : List UInt8) (control : Bool)
deriving DecidableEq, Repr

/-- A number as written: in range, or too large. -/
inductive Numeral where
  | number (n : Number)
  | tooLarge
deriving DecidableEq, Repr

inductive Tree where
  | null
  | bool (b : Bool)
  | number (n : Numeral)
  | string (s : Quoted)
  | array (items : List Tree)
  | object (fields : List (Quoted × Tree))

/-! ## Between the two -/

/-- The last value of each field, in the order in which the fields first occur. -/
def lastOfEach (fields : List (String × Json)) : List (String × Json) :=
  fields.foldl (fun kept (key, value) =>
    if kept.any (·.1 = key) then kept.map fun (k, v) => if k = key then (k, value) else (k, v)
    else kept ++ [(key, value)]) []

namespace Tree

mutual

/-- The value of a tree, if all in it is proper and it nests at most `room` levels deep. -/
def value? (room : Nat) : Tree → Option Json
  | .null => some .null
  | .bool b => some (.bool b)
  | .number (.number n) => some (.number n)
  | .number .tooLarge => none
  | .string (.text s) => some (.string s)
  | .string (.loose _ _) => none
  | .array items => if room = 0 then none else (values? (room - 1) items).map .array
  | .object fields =>
    if room = 0 then none
    else (fieldValues? (room - 1) fields).map fun fields => .object (lastOfEach fields)

def values? (room : Nat) : List Tree → Option (List Json)
  | [] => some []
  | t :: ts => do return (← value? room t) :: (← values? room ts)

def fieldValues? (room : Nat) : List (Quoted × Tree) → Option (List (String × Json))
  | [] => some []
  | (.text key, t) :: ts => do return (key, ← value? room t) :: (← fieldValues? room ts)
  | (.loose _ _, _) :: _ => none

end

mutual

/-- The tree that says just a given value. -/
def ofValue : Json → Tree
  | .null => .null
  | .bool b => .bool b
  | .number n => .number (.number n)
  | .string s => .string (.text s)
  | .array items => .array (ofValues items)
  | .object fields => .object (ofFieldValues fields)

def ofValues : List Json → List Tree
  | [] => []
  | j :: js => ofValue j :: ofValues js

def ofFieldValues : List (String × Json) → List (Quoted × Tree)
  | [] => []
  | (key, j) :: js => (.text key, ofValue j) :: ofFieldValues js

end

/-- How deep a value may nest when it is read from a text. -/
def maxDepth : Nat := 127

mutual

/-- A tree may be skipped unless a string in it has a bare control character. -/
def isSkippable : Tree → Bool
  | .null | .bool _ | .number _ | .string (.text _) => true
  | .string (.loose _ control) => !control
  | .array items => areSkippable items
  | .object fields => areFieldsSkippable fields

def areSkippable : List Tree → Bool
  | [] => true
  | t :: ts => isSkippable t && areSkippable ts

def areFieldsSkippable : List (Quoted × Tree) → Bool
  | [] => true
  | (.text _, t) :: ts => isSkippable t && areFieldsSkippable ts
  | (.loose _ control, t) :: ts => !control && isSkippable t && areFieldsSkippable ts

end

end Tree

end Json

end ActiveObjects

import ActiveObjects.Body.Basic
import ActiveObjects.Text.Utf8
import ActiveObjects.Word

/-! # Constructors of simple classes -/

namespace ActiveObjects.BodyConstructor

open Text

/-- An integer of 64 bits in a field of an object. -/
def intField? (key : String) : Json → Option Int
  | .object fields =>
    match fields.lookup key with
    | some (.number (.integer n)) => if n ≤ maxInteger then some n else none
    | _ => none
  | _ => none

/-- The decimal text of the argument `start`, which may not be negative. -/
def counter : BodyConstructor := fun args =>
  match intField? "start" args with
  | none => .error "missing start"
  | some n =>
    if n < 0 then .error s!"negative start {n}" else .ok (Utf8.encode (toString n).toList)

/-- The argument itself, a text. -/
def text : BodyConstructor := fun args =>
  match args with
  | .string s => .ok (Utf8.encode s.toList)
  | _ => .error "args is not a string"

/-- Nothing. -/
def empty : BodyConstructor := fun _ => .ok []

/-- Always fails. -/
def failing (reason : String) : BodyConstructor := fun _ => .error reason

end ActiveObjects.BodyConstructor

/-!
# Records by field name

What a reader of typed values sees of a record, whatever it is written in. Records of objects name
their fields; positional ones list them in order.
-/

namespace ActiveObjects

/-- The fields that were given. -/
structure Record (V : Type) where
  find : String → Option V
  positional : Bool
  isNull : V → Bool

namespace Record

variable {V α : Type}

def required (r : Record V) (key : String) (read : V → Option α) : Option α :=
  (r.find key).bind read

/-- A field that may be null. It may be left out of an object, but not of a list. -/
def optional (r : Record V) (key : String) (read : V → Option α) : Option (Option α) :=
  match r.find key with
  | none => if r.positional then none else some none
  | some v => if r.isNull v then some none else (read v).map some

/-- A field with a value of its own when it is left out. -/
def defaulted (r : Record V) (key : String) (value : α) (read : V → Option α) : Option α :=
  match r.find key with
  | none => some value
  | some v => read v

/-- A field that may be null or left out. -/
def nullable (r : Record V) (key : String) (read : V → Option α) : Option (Option α) :=
  r.defaulted key none fun v => if r.isNull v then some none else (read v).map some

end Record

end ActiveObjects

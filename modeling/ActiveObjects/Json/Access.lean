import ActiveObjects.Json.Record

/-!
# Looking into JSON values

Look-ups for values whose fields are all optional. A field that is null counts as absent.
-/

namespace ActiveObjects.Json

def field? (j : Json) (key : String) : Option Json :=
  match j with
  | .object fields =>
    match fields.lookup key with
    | some .null => none
    | found => found
  | _ => none

def text? (j : Json) (key : String) : Option String :=
  match j.field? key with
  | some (.string s) => some s
  | _ => none

/-- A text, empty if it is absent. -/
def text (j : Json) (key : String) : String := (j.text? key).getD ""

def flag (j : Json) (key : String) (default : Bool) : Bool :=
  match j.field? key with
  | some (.bool b) => b
  | _ => default

/-- An integer from zero up to a limit. -/
def nat? (j : Json) (key : String) (limit : Nat) : Option Nat :=
  (j.field? key).bind fun value => (Tree.ofValue value).nat? limit

/-- The items of an array, none if it is absent. -/
def items (j : Json) (key : String) : List Json :=
  match j.field? key with
  | some (.array items) => items
  | _ => []

/-- The texts in an array. -/
def texts (j : Json) (key : String) : List String :=
  (j.items key).filterMap fun item =>
    match item with
    | .string s => some s
    | _ => none

/-- A typed field: absent, read, or malformed. -/
def typed? {α : Type} (j : Json) (key : String) (read? : Tree → Option α) :
    Option (Option α) :=
  match j.field? key with
  | none => some none
  | some value => (read? (Tree.ofValue value)).map some

end ActiveObjects.Json

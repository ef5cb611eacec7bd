import ActiveObjects.Config.Reading
import ActiveObjects.Toml.Basic

/-!
# Settings in TOML

Every setting has to be written as a value of its own type.
-/

namespace ActiveObjects.Toml

def text? : Toml → Option String
  | .text s => some s
  | _ => none

def flag? : Toml → Option Bool
  | .bool b => some b
  | _ => none

def natural? (limit : Nat) : Toml → Option Nat
  | .integer n => if 0 ≤ n ∧ n.toNat ≤ limit then some n.toNat else none
  | _ => none

def items? : Toml → Option (List Toml)
  | .array items => some items
  | _ => none

/-- A table, or an array with the fields in order, of which more may follow. A date is a record
that has none of the fields. -/
def record? (known : List String) : Toml → Option (Record Toml)
  | .table fields => some ⟨(fields.lookup ·), false, fun _ => false⟩
  | .array items => some ⟨((known.zip items).lookup ·), true, fun _ => false⟩
  | .moment _ => some ⟨fun _ => none, false, fun _ => false⟩
  | _ => none

instance : SettingValue Toml where
  text? := text?
  flag? := flag?
  natural? := natural?
  items? := items?
  record? := record?

end ActiveObjects.Toml

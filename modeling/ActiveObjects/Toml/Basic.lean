import ActiveObjects.Decimal.Binary64

/-!
# TOML

The values that a TOML document can hold.
-/

namespace ActiveObjects

inductive Toml where
  | text (s : String)
  | integer (n : Int)
  | float (x : Binary64)
  | bool (b : Bool)
  /-- A date, a time of day or both, in canonical form. -/
  | moment (s : String)
  | array (items : List Toml)
  | table (fields : List (String × Toml))

end ActiveObjects

import ActiveObjects.Decimal.Reading

/-!
# YAML

The nodes of a YAML document, and what a scalar without quotes says.
-/

namespace ActiveObjects

/-- The node of a document. -/
inductive Yaml where
  | null
  | bool (b : Bool)
  | integer (n : Int)
  /-- A number, as it is written. -/
  | real (cs : List Char)
  | text (s : String)
  | array (items : List Yaml)
  | table (fields : List (Yaml × Yaml))
  /-- What its tag does not allow, and what refers to a node that it is part of. -/
  | unfit

namespace Yaml

open Text

/-- Numbers contain a digit, but for infinity and not-a-number. -/
def isReal (cs : List Char) : Bool :=
  [".inf", ".Inf", ".INF", "+.inf", "+.Inf", "+.INF", "-.inf", "-.Inf", "-.INF", ".nan", "NaN",
    ".NAN"].contains (String.ofList cs) ||
    (cs.any Char.isDigit && (Decimal.number? cs).isSome)

/-- An integer in base sixteen or eight after its mark. -/
def based? : List Char → Option Int
  | '0' :: 'x' :: digits => Decimal.integerIn? 16 digits
  | '0' :: 'o' :: digits => Decimal.integerIn? 8 digits
  | _ => none

/-- What a scalar without quotes and tag says. -/
def ofPlain (cs : List Char) : Yaml :=
  match (based? cs).or (Decimal.integer? cs), String.ofList cs with
  | some n, _ => .integer n
  | none, "" | none, "~" | none, "null" => .null
  | none, "true" => .bool true
  | none, "false" => .bool false
  | none, s => if isReal cs then .real cs else .text s

/-- The types that tags may give to scalars without quotes. -/
def coreTags : String := "tag:yaml.org,2002:"

/-- What a scalar without quotes says that has a tag. -/
def ofTagged (handle suffix : String) (cs : List Char) : Yaml :=
  let s := String.ofList cs
  if handle ≠ coreTags then .text s
  else match suffix with
    | "bool" => if s = "true" then .bool true else if s = "false" then .bool false else .unfit
    | "int" => ((Decimal.integer? cs).map .integer).getD .unfit
    | "float" => if isReal cs then .real cs else .unfit
    | "null" => if s = "~" ∨ s = "null" then .null else .unfit
    | _ => .text s

end Yaml

end ActiveObjects

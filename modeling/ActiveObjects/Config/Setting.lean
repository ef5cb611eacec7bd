import ActiveObjects.Config.Reading
import ActiveObjects.Decimal.Shortest
import ActiveObjects.Json.Basic
import ActiveObjects.Text.Hex
import ActiveObjects.Toml.Scalar
import ActiveObjects.Yaml.Basic
import ActiveObjects.Word

/-!
# Layered settings

The values that layers of settings are made of, and how they are read: a setting of one scalar type
may be written as a value of another, as variables hold nothing but texts.
-/

namespace ActiveObjects

inductive Setting where
  | null
  | bool (b : Bool)
  | integer (n : Int)
  | float (x : Binary64)
  | text (s : String)
  | array (items : List Setting)
  | table (fields : List (String × Setting))

namespace Setting

/-- The fields of a table with one of them changed. -/
def put (fields : List (String × Setting)) (key : String) (v : Setting) : List (String × Setting) :=
  if fields.any (·.1 = key) then fields.map fun (k, old) => if k = key then (k, v) else (k, old)
  else fields ++ [(key, v)]

/-- A table of some fields. Of fields with the same name the last one counts. -/
def ofFields (fields : List (String × Setting)) : Setting :=
  .table (fields.foldl (fun before (key, v) => put before key v) [])

/-! ## From files -/

/-- A table whose first field has this name stands for a date or time, which is its value. -/
def momentKey : String := "$__toml_private_datetime"

/-- The date or time that a text says, in canonical form. -/
def moment? : Toml → Option Setting
  | .text s =>
    match Text.Scan.all? Toml.readMoment s.toList with
    | some (.moment s) => some (.text s)
    | _ => none
  | _ => none

mutual

def ofToml? : Toml → Option Setting
  | .text s | .moment s => some (.text s)
  | .integer n => some (.integer n)
  | .float x => some (.float x)
  | .bool b => some (.bool b)
  | .array items => do return .array (← ofTomls? items)
  | .table ((key, v) :: rest) =>
    if key = momentKey then moment? v else do return .table (← ofTomlFields? ((key, v) :: rest))
  | .table [] => some (.table [])

def ofTomls? : List Toml → Option (List Setting)
  | [] => some []
  | v :: rest => do return (← ofToml? v) :: (← ofTomls? rest)

def ofTomlFields? : List (String × Toml) → Option (List (String × Setting))
  | [] => some []
  | (key, v) :: rest => do return (key, ← ofToml? v) :: (← ofTomlFields? rest)

end

/-- Whole numbers of more than 63 bits are not exact. -/
def ofNumber : Json.Number → Setting
  | .integer n =>
    if n ≤ maxInteger then .integer n else .float (.ofNat n.toNat)
  | .float negative m q => .float (.finite negative m q)

mutual

def ofJson : Json → Setting
  | .null => .null
  | .bool b => .bool b
  | .number n => ofNumber n
  | .string s => .text s
  | .array items => .array (ofJsons items)
  | .object fields => .table (ofJsonFields fields)

def ofJsons : List Json → List Setting
  | [] => []
  | v :: rest => ofJson v :: ofJsons rest

def ofJsonFields : List (String × Json) → List (String × Setting)
  | [] => []
  | (key, v) :: rest => (key, ofJson v) :: ofJsonFields rest

end

/-- Scalars can be names of fields. -/
def yamlName? : Yaml → Option String
  | .text s => some s
  | .integer n => some (toString n)
  | .bool b => some (toString b)
  | .real cs => some (String.ofList cs)
  | .null | .array _ | .table _ | .unfit => none

mutual

/-- Of the numbers those with digits count. -/
def ofYaml? : Yaml → Option Setting
  | .null | .unfit => some .null
  | .bool b => some (.bool b)
  | .integer n => some (.integer n)
  | .real cs => (Decimal.number? cs).map .float
  | .text s => some (.text s)
  | .array items => do return .array (← ofYamls? items)
  | .table fields => do return ofFields (← ofYamlFields? fields)

def ofYamls? : List Yaml → Option (List Setting)
  | [] => some []
  | v :: rest => do return (← ofYaml? v) :: (← ofYamls? rest)

def ofYamlFields? : List (Yaml × Yaml) → Option (List (String × Setting))
  | [] => some []
  | (key, v) :: rest => do return (← yamlName? key, ← ofYaml? v) :: (← ofYamlFields? rest)

end

/-! ## As settings of a type -/

def isNull : Setting → Bool
  | .null => true
  | _ => false

/-- Scalars are written out. -/
def text? : Setting → Option String
  | .text s => some s
  | .integer n => some (toString n)
  | .float x => some (Decimal.plainText x)
  | .bool true => some "true"
  | .bool false => some "false"
  | .null | .array _ | .table _ => none

/-- The words for yes and no. -/
def word? (s : String) : Option Bool :=
  match String.ofList (s.toList.map Char.toLower) with
  | "true" | "on" | "yes" => some true
  | "false" | "off" | "no" => some false
  | _ => none

/-- A number other than zero means yes. -/
def flag? : Setting → Option Bool
  | .bool b => some b
  | .integer n => some (n ≠ 0)
  | .float x => some x.isNonzero
  | .text "1" => some true
  | .text "0" => some false
  | .text s => word? s
  | .null | .array _ | .table _ => none

/-- Decimal digits, maybe after a plus sign. -/
def digits? (s : String) : Option Nat :=
  let digits := match s.toList with
    | '+' :: rest => rest
    | cs => cs
  if digits = [] then none else Text.readDecimal? digits

/-- Fractions are rounded, and what lies outside the whole numbers goes to the nearest of them. -/
def natural? (limit : Nat) (v : Setting) : Option Nat :=
  let found : Option Nat := match v with
    | .bool b => some b.toNat
    | .integer n => if 0 ≤ n then some n.toNat else none
    | .float x => some (x.roundToNat maxWord)
    | .text s =>
      match word? s with
      | some b => some b.toNat
      | none => digits? s
    | .null | .array _ | .table _ => none
  found.filter (· ≤ limit)

def items? : Setting → Option (List Setting)
  | .array items => some items
  | _ => none

/-- A table, or an array with the fields in order, of which more may follow. -/
def record? (known : List String) : Setting → Option (Record Setting)
  | .table fields => some ⟨(fields.lookup ·), false, isNull⟩
  | .array items => some ⟨((known.zip items).lookup ·), true, isNull⟩
  | _ => none

instance : SettingValue Setting where
  text? := text?
  flag? := flag?
  natural? := natural?
  items? := items?
  record? := record?

end Setting

end ActiveObjects

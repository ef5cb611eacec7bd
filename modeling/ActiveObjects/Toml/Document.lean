import ActiveObjects.Toml.Scalar

/-!
# TOML documents

A document is a list of statements: headers that open a table, and assignments to keys of the table
that was opened last. Keys and headers with dots make the tables on their way. A table is opened by
at most one header, and what dotted keys made is changed by dotted keys alone.
-/

namespace ActiveObjects.Toml

open Text

/-! ## Tables under construction -/

/-- What made a table: its own header, a header of a table within, or a dotted key. -/
inductive Origin where
  | header
  | implied
  | dotted
deriving DecidableEq, Repr

inductive Item where
  | value (v : Toml)
  | table (origin : Origin) (entries : List (String × Item))
  /-- Tables in an array, newest first. -/
  | tables (elements : List (List (String × Item)))

abbrev Entries := List (String × Item)

/-- Replaces the item of a key, or adds one at the end. -/
def Entries.put (entries : Entries) (key : String) (item : Item) : Entries :=
  if entries.any (·.1 = key) then entries.map fun (k, i) => if k = key then (k, item) else (k, i)
  else entries ++ [(key, item)]

/-- Sets a key that is not set yet, in the table to which the path of a dotted key leads. -/
def Entries.assign (v : Toml) : (path : List String) → (key : String) → Entries → Option Entries
  | [], key, entries =>
    if entries.any (·.1 = key) then none else some (entries ++ [(key, .value v)])
  | step :: path, key, entries =>
    match entries.lookup step with
    | none => (assign v path key []).map fun inner => entries ++ [(step, .table .dotted inner)]
    | some (.table origin inner) =>
      if origin = .header ∨ (origin = .implied ∧ path = []) then none
      else (assign v path key inner).map fun inner => entries.put step (.table origin inner)
    | some (.tables (inner :: others)) =>
      if path = [] then none
      else (assign v path key inner).map fun inner => entries.put step (.tables (inner :: others))
    | some (.tables []) | some (.value _) => none

/-- Changes the table to which the path of a header leads; of an array it is the newest one. -/
def Entries.within (change : Entries → Option Entries) :
    (path : List String) → Entries → Option Entries
  | [], entries => change entries
  | step :: path, entries =>
    match entries.lookup step with
    | none => (within change path []).map fun inner => entries ++ [(step, .table .implied inner)]
    | some (.table origin inner) =>
      (within change path inner).map fun inner => entries.put step (.table origin inner)
    | some (.tables (inner :: others)) =>
      (within change path inner).map fun inner => entries.put step (.tables (inner :: others))
    | some (.tables []) | some (.value _) => none

/-- Opens a table that no header has opened before. -/
def Entries.openTable (key : String) (entries : Entries) : Option Entries :=
  match entries.lookup key with
  | none => some (entries ++ [(key, .table .header [])])
  | some (.table .implied inner) => some (entries.put key (.table .header inner))
  | some _ => none

/-- Adds a table to an array of tables. -/
def Entries.openElement (key : String) (entries : Entries) : Option Entries :=
  match entries.lookup key with
  | none => some (entries ++ [(key, .tables [[]])])
  | some (.tables elements) => some (entries.put key (.tables ([] :: elements)))
  | some _ => none

mutual

def Item.toToml : Item → Toml
  | .value v => v
  | .table _ entries => .table (tomlEntries entries)
  | .tables elements => .array (tomlTables elements).reverse

def tomlEntries : List (String × Item) → List (String × Toml)
  | [] => []
  | (key, item) :: rest => (key, item.toToml) :: tomlEntries rest

def tomlTables : List (List (String × Item)) → List Toml
  | [] => []
  | entries :: rest => .table (tomlEntries entries) :: tomlTables rest

end

/-! ## Values -/

/-- A key with its value. -/
def readPair (value : Scan Toml) : Scan ((List String × String) × Toml) := do
  let k ← key
  Scan.exactly '='
  spaces
  return (k, ← value)

/-- The pairs of a table on one line. -/
def readPairs (value : Scan Toml) : Scan (List ((List String × String) × Toml)) := do
  let pair ← readPair value
  spaces
  let more ← Scan.many do
    Scan.exactly ','
    let pair ← readPair value
    spaces
    return pair
  return pair :: more

/-- A value whose arrays and tables nest at most `room` levels deep. -/
def readValue : (room : Nat) → Scan Toml
  | 0 => readScalar
  | room + 1 => readScalar
    <|> (do
      Scan.exactly '['
      return .array (← Scan.list ']' gap (readValue room)))
    <|> do
      Scan.exactly '\x7b'
      spaces
      let pairs ← Scan.optional (readPairs (readValue room))
      Scan.exactly '\x7d'
      let entries ← ((pairs.getD []).foldlM (fun entries ((path, key), v) =>
        Entries.assign v path key entries) [] : Option Entries)
      return .table (tomlEntries entries)

/-- How deep values may nest. -/
def maxDepth : Nat := 79

/-! ## Statements -/

inductive Statement where
  | table (path : List String) (key : String)
  | element (path : List String) (key : String)
  | assign (path : List String) (key : String) (v : Toml)

/-- A header in so many brackets. -/
def readHeader (brackets : Nat) : Scan (List String × String) := do
  Scan.word (List.replicate brackets '[')
  let k ← key
  Scan.word (List.replicate brackets ']')
  return k

/-- A line of a document; it may be blank. -/
def readLine : Scan (Option Statement) := do
  spaces
  newline *> pure none
    <|> (do
      comment
      lineEnd
      return none)
    <|> (do
      let (path, key) ← readHeader 2
      restOfLine
      return some (.element path key))
    <|> (do
      let (path, key) ← readHeader 1
      restOfLine
      return some (.table path key))
    <|> do
      let ((path, key), v) ← readPair (readValue maxDepth)
      restOfLine
      return some (.assign path key v)

/-- The statements of a text, which may start with a byte order mark. -/
def statements? (cs : List Char) : Option (List Statement) :=
  Scan.all? (do
    let _ ← Scan.accept (Char.ofNat 0xFEFF)
    let lines ← Scan.many readLine
    spaces
    return lines.filterMap id) cs

/-- What has been stated, and the path of the table that is open. -/
structure Draft where
  entries : Entries := []
  position : List String := []

def Draft.step? (draft : Draft) : Statement → Option Draft
  | .table path key =>
    (draft.entries.within (Entries.openTable key) path).map (⟨·, path ++ [key]⟩)
  | .element path key =>
    (draft.entries.within (Entries.openElement key) path).map (⟨·, path ++ [key]⟩)
  | .assign path key v =>
    (draft.entries.within (Entries.assign v path key) draft.position).map (⟨·, draft.position⟩)

/-- The table that a document describes. -/
def parse? (text : String) : Option Toml := do
  let draft ← (← statements? text.toList).foldlM Draft.step? {}
  return .table (tomlEntries draft.entries)

end ActiveObjects.Toml

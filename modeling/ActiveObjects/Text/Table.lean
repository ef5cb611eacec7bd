import ActiveObjects.Text.Hex
import ActiveObjects.Text.Split

/-!
# Tables as texts

A long table is written as a text of words with blanks between. A word is a name, a hexadecimal
number or several of these with hyphens between.
-/

namespace ActiveObjects.Text

/-- The words of a table. -/
def tableWords (table : String) : List (List Char) :=
  (pieces (fun c => c == ' ' || c == '\n') table.toList).filter (· ≠ [])

/-- The number that a word writes; zero for a word that writes none. -/
def hexWord (word : List Char) : Nat := (readHex? word).getD 0

/-- A table of numbers. -/
def hexWords (table : String) : List Nat := (tableWords table).map hexWord

/-- A table of rows of numbers. -/
def hexRows (table : String) : List (List Nat) :=
  (tableWords table).map fun word => (pieces (· == '-') word).map hexWord

/-- A property whose value changes at some numbers: words by twos, a number and the value from there
on. -/
def steps (words : List (List Char)) : List (Nat × List Char) :=
  match words with
  | start :: value :: more => (hexWord start, value) :: steps more
  | _ => []

/-- The value of such a property at a number. -/
def stepAt? {α : Type} (rows : List (Nat × α)) (n : Nat) : Option α :=
  ((rows.takeWhile (·.1 ≤ n)).getLast?).map (·.2)

end ActiveObjects.Text

/-!
# Reading from the front of a text

A scan takes something off the front of a text or fails. An alternative starts over at the place
where the one before it started.
-/

namespace ActiveObjects.Text

abbrev Scan := StateT (List Char) Option

namespace Scan

variable {α : Type}

/-- A character of a class. -/
def char (p : Char → Bool) : Scan Char
  | c :: rest => if p c then some (c, rest) else none
  | [] => none

def exactly (c : Char) : Scan Unit := do let _ ← char (· == c)

/-- All characters of a class at the front, maybe none. -/
def chars (p : Char → Bool) : Scan (List Char) := fun cs => some (cs.takeWhile p, cs.dropWhile p)

/-- All characters of a class at the front, at least one. -/
def chars₁ (p : Char → Bool) : Scan (List Char) := do
  let found ← chars p
  guard (found ≠ [])
  return found

/-- A given text. -/
def word : List Char → Scan Unit
  | [] => pure ()
  | c :: rest => do exactly c; word rest

/-- The end of the text. -/
def ended : Scan Unit
  | [] => some ((), [])
  | _ :: _ => none

/-- What an item gives, or nothing if it fails. -/
def optional (item : Scan α) : Scan (Option α) := (do return some (← item)) <|> pure none

/-- Whether a character comes next, which is then taken. -/
def accept (c : Char) : Scan Bool := do return (← optional (exactly c)).isSome

/-- An item as often as it succeeds, up to a limit. -/
def upTo (item : Scan α) : (limit : Nat) → Scan (List α)
  | 0 => pure []
  | limit + 1 => do
    match ← optional item with
    | none => return []
    | some a => return a :: (← upTo item limit)

/-- An item as often as it succeeds. It takes at least one character each time. -/
def many (item : Scan α) : Scan (List α) := do upTo item (← get).length

/-- Items with commas between, up to a closing character; a comma may follow the last one. A gap may
stand around each item. -/
def listUpTo (close : Char) (gap : Scan Unit) (item : Scan α) : (limit : Nat) → Scan (List α)
  | 0 => failure
  | limit + 1 => do
    gap
    if ← accept close then return []
    let a ← item
    gap
    if ← accept ',' then return a :: (← listUpTo close gap item limit)
    exactly close
    return [a]

/-- All items up to a closing character. -/
def list (close : Char) (gap : Scan Unit) (item : Scan α) : Scan (List α) := do
  listUpTo close gap item ((← get).length + 1)

/-- All of a text. -/
def all? (item : Scan α) (cs : List Char) : Option α :=
  ((do let a ← item; ended; return a : Scan α).run cs).map (·.1)

end Scan

end ActiveObjects.Text

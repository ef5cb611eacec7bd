/-! # Cutting texts at separators -/

namespace ActiveObjects.Text

/-- Cuts at every character of a class; there is always at least one piece. -/
def pieces (isCut : Char → Bool) : List Char → List (List Char)
  | [] => [[]]
  | c :: rest =>
    if isCut c then [] :: pieces isCut rest
    else match pieces isCut rest with
      | [] => [[c]]
      | piece :: more => (c :: piece) :: more

theorem pieces_ne_nil (isCut : Char → Bool) (cs : List Char) : pieces isCut cs ≠ [] := by
  cases cs with
  | nil => simp [pieces]
  | cons c rest =>
    unfold pieces
    split
    · simp
    · split <;> simp

/-- Joins pieces with a separator between each two. -/
def join (separator : List Char) : List (List Char) → List Char
  | [] => []
  | [piece] => piece
  | piece :: more => piece ++ separator ++ join separator more

/-- Cuts at the first occurrence of a non-empty pattern: what stands before and after it. -/
def cutAt? (pattern : List Char) : List Char → Option (List Char × List Char)
  | [] => none
  | c :: rest =>
    if pattern.isPrefixOf (c :: rest) then some ([], (c :: rest).drop pattern.length)
    else (cutAt? pattern rest).map fun (before, after) => (c :: before, after)

/-- What follows a given start, or `none` if the text starts otherwise. -/
def after? : (start text : List Char) → Option (List Char)
  | [], text => some text
  | _ :: _, [] => none
  | s :: start, c :: text => if s = c then after? start text else none

/-- What precedes the last character, if that is the given one. -/
def beforeLast? (last : Char) (text : List Char) : Option (List Char) :=
  match text.reverse with
  | [] => none
  | c :: rest => if c = last then some rest.reverse else none

end ActiveObjects.Text

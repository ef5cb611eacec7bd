import ActiveObjects.Json.Token

/-!
# Reading JSON

The parser takes one token at a time and holds the containers it is in the middle of in a list, so
a text may nest to any depth.
-/

namespace ActiveObjects.Json

/-- A container part way through: the values before the current one, newest first. -/
inductive Frame where
  | array (before : List Tree)
  | object (before : List (Quoted × Tree)) (key : Quoted)

/-- What the parser expects. -/
inductive Parser where
  /-- A value. -/
  | value (stack : List Frame)
  /-- The first value of an array, or its end. -/
  | arrayStart (stack : List Frame)
  /-- The first key of an object, or its end. -/
  | objectStart (stack : List Frame)
  /-- A further key. -/
  | key (before : List (Quoted × Tree)) (stack : List Frame)
  /-- The colon after a key. -/
  | colon (before : List (Quoted × Tree)) (key : Quoted) (stack : List Frame)
  /-- What follows a complete value. -/
  | done (value : Tree) (stack : List Frame)

namespace Parser

/-- Takes the first token of a value. -/
def start? (stack : List Frame) : Token → Option Parser
  | .openArray => some (.arrayStart stack)
  | .openObject => some (.objectStart stack)
  | .null => some (.done .null stack)
  | .bool b => some (.done (.bool b) stack)
  | .number n => some (.done (.number n) stack)
  | .string s => some (.done (.string s) stack)
  | .closeArray | .closeObject | .comma | .colon => none

/-- Takes one token. -/
def step? : Parser → Token → Option Parser
  | .value stack, token => start? stack token
  | .arrayStart stack, .closeArray => some (.done (.array []) stack)
  | .arrayStart stack, token => start? (.array [] :: stack) token
  | .objectStart stack, .closeObject => some (.done (.object []) stack)
  | .objectStart stack, .string k => some (.colon [] k stack)
  | .key before stack, .string k => some (.colon before k stack)
  | .colon before k stack, .colon => some (.value (.object before k :: stack))
  | .done t (.array before :: stack), .comma => some (.value (.array (t :: before) :: stack))
  | .done t (.array before :: stack), .closeArray =>
    some (.done (.array (t :: before).reverse) stack)
  | .done t (.object before k :: stack), .comma => some (.key ((k, t) :: before) stack)
  | .done t (.object before k :: stack), .closeObject =>
    some (.done (.object ((k, t) :: before).reverse) stack)
  | _, _ => none

/-- The value, once the tokens have ended. -/
def finish? : Parser → Option Tree
  | .done t [] => some t
  | _ => none

end Parser

/-- The tree of a text. -/
def Tree.parse? (text : String) : Option Tree := do
  (← (← tokens? text.toList).foldlM Parser.step? (.value [])).finish?

/-- The value of a text. -/
def parse? (text : String) : Option Json :=
  (Tree.parse? text).bind (Tree.value? Tree.maxDepth)

end ActiveObjects.Json

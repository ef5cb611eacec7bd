/-!
# The tokens of a YAML text

Blocks are marked by nothing but indentation in the text; their tokens make starts and ends plain.
-/

namespace ActiveObjects.Yaml

/-- What the characters of a text say together. -/
inductive Token where
  /-- The version of the format. -/
  | version
  /-- What a handle of tags stands for. -/
  | tagHandle (handle start : String)
  | documentStart
  | documentEnd
  | blockSequence
  | blockMapping
  | blockEnd
  | openSequence
  | closeSequence
  | openMapping
  | closeMapping
  /-- The dash before an item. -/
  | entry
  | comma
  | key
  | value
  | reference (name : String)
  | anchor (name : String)
  | tag (handle suffix : String)
  | plain (cs : List Char)
  | quoted (cs : List Char)
deriving DecidableEq, Repr

end ActiveObjects.Yaml

import Std.Data.ExtTreeMap
import ActiveObjects.Text.Hex
import ActiveObjects.Text.Split

/-!
# Body identifiers

A body keeps one 128-bit identifier for its whole life, wherever it migrates.
-/

namespace ActiveObjects

structure BodyId where
  bits : BitVec 128
deriving DecidableEq

namespace BodyId

open Text

instance : Ord BodyId := ⟨compareOn bits⟩

instance : Std.TransOrd BodyId := inferInstanceAs (Std.TransCmp (compareOn bits))

instance : Std.LawfulEqOrd BodyId where
  compare_self := Std.ReflCmp.compare_self
  eq_of_compare {a b} h := by
    have e : a.bits = b.bits := Std.LawfulEqOrd.eq_of_compare h
    cases a; cases b; simp_all

/-- The identifier without any bit set. -/
def nil : BodyId := ⟨0⟩

/-! ## Writing -/

/-- The 32 hexadecimal digits. -/
def digits (id : BodyId) : List Char := hexDigits 32 id.bits.toNat

/-- The groups of 8, 4, 4, 4 and 12 digits with hyphens between. -/
def hyphenated (id : BodyId) : String :=
  let d := id.digits
  String.ofList (join ['-'] [d.take 8, (d.drop 8).take 4, (d.drop 12).take 4,
    (d.drop 16).take 4, d.drop 20])

/-- How messages name a body. -/
def display (id : BodyId) : String := "body-" ++ String.ofList id.digits

instance : ToString BodyId := ⟨display⟩

/-! ## Reading -/

/-- Exactly 32 hexadecimal digits. -/
def ofDigits? (cs : List Char) : Option BodyId :=
  if cs.length = 32 then (readHex? cs).map fun n => ⟨BitVec.ofNat 128 n⟩ else none

/-- Digits in groups of 8, 4, 4, 4 and 12. -/
def ofHyphenated? (cs : List Char) : Option BodyId :=
  let groups := pieces (· == '-') cs
  if groups.map List.length = [8, 4, 4, 4, 12] then ofDigits? groups.flatten else none

/-- What follows `urn:uuid:` in any letter case. -/
def afterUrn? (cs : List Char) : Option (List Char) :=
  let start := "urn:uuid:".toList
  if (cs.take start.length).map Char.toLower = start then some (cs.drop start.length) else none

/-- Reads the hyphenated form, bare, in braces or after `urn:uuid:`, or the digits alone. -/
def parse? (text : String) : Option BodyId :=
  let cs := text.toList
  match ofDigits? cs with
  | some id => some id
  | none =>
    match ofHyphenated? cs with
    | some id => some id
    | none =>
      match afterUrn? cs with
      | some rest => ofHyphenated? rest
      | none => ((after? ['\x7b'] cs).bind (beforeLast? '\x7d')).bind ofHyphenated?

end BodyId

end ActiveObjects

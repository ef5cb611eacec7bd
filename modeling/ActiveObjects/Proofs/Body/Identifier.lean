import ActiveObjects.BodyId
import ActiveObjects.Proofs.Text.Padded
import ActiveObjects.Proofs.Text.Split

/-!
# Identifiers written and read

An identifier is written as five groups of digits, and read back from them.
-/

namespace ActiveObjects.BodyId

open Text

/-- The groups of digits that are written with hyphens between. -/
def groups (id : BodyId) : List (List Char) :=
  let d := id.digits
  [d.take 8, (d.drop 8).take 4, (d.drop 12).take 4, (d.drop 16).take 4, d.drop 20]

theorem length_groups (id : BodyId) : id.groups.map List.length = [8, 4, 4, 4, 12] := by
  simp [groups, digits]

theorem flatten_groups (id : BodyId) : id.groups.flatten = id.digits := by
  have cut (n m : Nat) : (id.digits.drop n).take m ++ id.digits.drop (n + m) =
      id.digits.drop n := by
    rw [← List.drop_drop, List.take_append_drop]
  simp only [groups, List.flatten_cons, List.flatten_nil, List.append_nil]
  rw [cut 16 4, cut 12 4, cut 8 4, List.take_append_drop]

theorem hyphen_notMem_of_mem_groups {id : BodyId} {group : List Char} (hg : group ∈ id.groups) :
    '-' ∉ group := by
  intro hc
  have hm : '-' ∈ id.digits := by
    rw [← flatten_groups]
    exact List.mem_flatten.2 ⟨group, hg, hc⟩
  obtain ⟨d, hd, heq⟩ := exists_of_mem_hexDigits hm
  have other : ∀ d < 16, '-' ≠ hexDigit d := by decide
  exact other d hd heq

theorem ofDigits?_digits (id : BodyId) : ofDigits? id.digits = some id := by
  have length : id.digits.length = 32 := length_hexDigits 32 id.bits.toNat
  have small : id.bits.toNat % 16 ^ 32 = id.bits.toNat := Nat.mod_eq_of_lt id.bits.isLt
  rw [ofDigits?, if_pos length, digits, readHex?_hexDigits, small]
  simp

theorem ofHyphenated?_join (id : BodyId) : ofHyphenated? (join ['-'] id.groups) = some id := by
  have cut : pieces (· == '-') (join ['-'] id.groups) = id.groups :=
    pieces_join (List.cons_ne_nil _ _) fun _ => hyphen_notMem_of_mem_groups
  rw [ofHyphenated?, cut, if_pos id.length_groups, flatten_groups, ofDigits?_digits]

/-- An identifier is read back from its hyphenated form. -/
theorem parse?_hyphenated (id : BodyId) : parse? id.hyphenated = some id := by
  have text : id.hyphenated.toList = join ['-'] id.groups := String.toList_ofList
  have bare : ofDigits? (join ['-'] id.groups) = none := by
    -- There are four hyphens more than digits.
    have long : (join ['-'] id.groups).length = 36 := by simp [join, groups, digits]
    rw [ofDigits?, long]
    rfl
  simp only [parse?, text, bare, ofHyphenated?_join]

end ActiveObjects.BodyId

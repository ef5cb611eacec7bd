import Mathlib.Data.Nat.ModEq
import ActiveObjects.Proofs.Text.Digits

/-!
# Numbers of a fixed width

Hexadecimal digits give back the lowest places of a number, decimal digits with zeros in front the
whole number.
-/

namespace ActiveObjects.Text

variable {width n : Nat}

/-! ## Base sixteen -/

theorem hexValue?_hexDigit : ∀ d < 16, hexValue? (hexDigit d) = some d := by decide

@[simp] theorem length_hexDigits (width n : Nat) : (hexDigits width n).length = width := by
  induction width generalizing n with
  | zero => rfl
  | succ width ih => simp [hexDigits, ih]

theorem readHex?_hexDigits (width n : Nat) :
    readHex? (hexDigits width n) = some (n % 16 ^ width) := by
  induction width generalizing n with
  | zero => simp [hexDigits, readHex?, readDigits?, Nat.mod_one]
  | succ width ih =>
    have digit : hexValue? (hexDigit (n % 16)) = some (n % 16) :=
      hexValue?_hexDigit _ (Nat.mod_lt n (by omega))
    have front : readDigits? 16 hexValue? (hexDigits width (n / 16)) =
        some (n / 16 % 16 ^ width) := ih (n / 16)
    rw [hexDigits, readHex?, readDigits?_append, front]
    simp only [Option.bind_some, List.foldlM_cons, List.foldlM_nil, digit, Option.map_some]
    rw [pow_succ', Nat.mod_mul, Nat.add_comm]
    rfl

theorem exists_of_mem_hexDigits {c : Char} (h : c ∈ hexDigits width n) :
    ∃ d < 16, c = hexDigit d := by
  induction width generalizing n with
  | zero => cases h
  | succ width ih =>
    rw [hexDigits, List.mem_append, List.mem_singleton] at h
    rcases h with h | rfl
    · exact ih h
    · exact ⟨n % 16, Nat.mod_lt n (by omega), rfl⟩

/-! ## Base ten -/

theorem isDigit_of_mem_padDecimal {c : Char} (h : c ∈ padDecimal width n) : c.isDigit := by
  rw [padDecimal, List.mem_append] at h
  rcases h with h | h
  · rw [List.eq_of_mem_replicate h]
    rfl
  · exact isDigit_of_mem_toDigits n c h

theorem padDecimal_ne_nil : padDecimal width n ≠ [] := by
  rw [padDecimal]
  simp [Nat.toDigits_ne_nil]

theorem length_padDecimal (hw : 0 < width) (hn : n < 10 ^ width) :
    (padDecimal width n).length = width := by
  have short : (Nat.toDigits 10 n).length ≤ width :=
    (Nat.length_toDigits_le_iff (by omega) hw).2 hn
  simp [padDecimal, short]

/-- Zeros in front do not change the number. -/
theorem readDecimal?_padDecimal (width n : Nat) : readDecimal? (padDecimal width n) = some n := by
  have zeros (k : Nat) : readDigits? 10 decimalValue? (List.replicate k '0') = some 0 := by
    induction k with
    | zero => rfl
    | succ k ih =>
      have zero : decimalValue? '0' = some 0 := by decide
      rw [List.replicate_succ', readDigits?_append, ih]
      simp [zero]
  rw [padDecimal, readDecimal?, readDigits?_append, zeros]
  exact readDecimal?_toDigits n

end ActiveObjects.Text

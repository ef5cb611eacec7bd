import Mathlib.Data.List.TakeWhile
import Mathlib.Data.Option.Basic
import ActiveObjects.Json.Number
import ActiveObjects.Proofs.Text.Digits

/-!
# Natural numbers in JSON

The digits of a natural number of 64 bits are read as that number, and not as a fraction.
-/

namespace ActiveObjects.Json

open Text

/-! ## The leading digit -/

theorem toDigits_eq_cons {n : Nat} (h : 0 < n) :
    ∃ c cs, Nat.toDigits 10 n = c :: cs ∧ c ≠ '0' := by
  induction n using Nat.strong_induction_on with
  | _ n ih =>
    by_cases hn : n < 10
    · have leading : ∀ d < 10, 0 < d → Nat.digitChar d ≠ '0' := by decide
      exact ⟨_, [], Nat.toDigits_of_lt_base hn, leading n hn h⟩
    · obtain ⟨c, cs, heq, hc⟩ := ih (n / 10) (by omega) (by omega)
      refine ⟨c, cs ++ [Nat.digitChar (n % 10)], ?_, hc⟩
      rw [Nat.toDigits_of_base_le (by omega) (by omega), heq, List.cons_append]

/-- The value of a digit. -/
def digitValue (c : Char) : Nat := c.toNat - '0'.toNat

/-- No zero stands in front of other digits. -/
theorem leads_toDigits (n : Nat) :
    ((Nat.toDigits 10 n).map digitValue).head? ≠ some 0 ∨
      ((Nat.toDigits 10 n).map digitValue).length = 1 := by
  by_cases h : n = 0
  · subst h
    exact .inr rfl
  · obtain ⟨c, cs, heq, hc⟩ := toDigits_eq_cons (Nat.pos_of_ne_zero h)
    have digit : c.isDigit := isDigit_of_mem_toDigits n c (by simp [heq])
    refine .inl ?_
    rw [heq]
    simp only [List.map_cons, List.head?_cons, ne_eq, Option.some.injEq]
    intro zero
    apply hc
    have bounds : 48 ≤ c.toNat ∧ c.toNat ≤ 57 := by
      simpa [Char.isDigit, UInt32.le_iff_toNat_le] using digit
    have value : c.toNat - 48 = 0 := zero
    rw [← Char.ofNat_toNat c, show c.toNat = 48 by omega]

/-! ## Words -/

theorem le_foldl_digits (n : Nat) (ds : List Nat) : n ≤ ds.foldl (fun n d => 10 * n + d) n := by
  induction ds generalizing n with
  | nil => exact Nat.le_refl n
  | cons d ds ih =>
    have rest := ih (10 * n + d)
    rw [List.foldl_cons]
    omega

/-- Digits are taken as long as the number fits. -/
theorem takeWord_eq {n : Nat} {ds : List Nat}
    (h : ds.foldl (fun n d => 10 * n + d) n ≤ maxWord) :
    takeWord n ds = (ds.foldl (fun n d => 10 * n + d) n, []) := by
  induction ds generalizing n with
  | nil => rfl
  | cons d ds ih =>
    have fits : n * 10 + d ≤ maxWord := by
      have rest := le_foldl_digits (10 * n + d) ds
      rw [List.foldl_cons] at h
      omega
    rw [takeWord, if_pos fits, Nat.mul_comm n 10, ih h, List.foldl_cons]

theorem takeWord_toDigits {n : Nat} (h : n ≤ maxWord) :
    takeWord 0 ((Nat.toDigits 10 n).map digitValue) = (n, []) := by
  have value : ((Nat.toDigits 10 n).map digitValue).foldl (fun n d => 10 * n + d) 0 = n := by
    rw [List.foldl_map]
    exact Nat.ofDigitChars_ten_toDigits
  rw [takeWord_eq (by rw [value]; exact h), value]

/-! ## The number -/

theorem numberParts?_toDigits (n : Nat) :
    numberParts? (Nat.toDigits 10 n) =
      some ⟨false, (Nat.toDigits 10 n).map digitValue, [], none⟩ := by
  have digits := isDigit_of_mem_toDigits n
  have cut : cutDigits (Nat.toDigits 10 n) = ((Nat.toDigits 10 n).map digitValue, []) := by
    rw [cutDigits, List.takeWhile_eq_self_iff.2 digits, List.dropWhile_eq_nil_iff.2 digits]
    rfl
  have whole : (Nat.toDigits 10 n).map digitValue ≠ [] ∧
      (((Nat.toDigits 10 n).map digitValue).head? ≠ some 0 ∨
        ((Nat.toDigits 10 n).map digitValue).length = 1) :=
    ⟨by simp [Nat.toDigits_ne_nil], leads_toDigits n⟩
  have unsigned (rest : List Char) : Nat.toDigits 10 n ≠ '-' :: rest := by
    intro heq
    have digit : Char.isDigit '-' := digits '-' (by simp [heq])
    cases digit
  have fraction : cutFraction? [] = some ([], []) := rfl
  rw [numberParts?, cut]
  · refine (congrArg (· >>= _) (if_pos whole)).trans ?_
    rw [fraction]
    rfl
  · exact fun rest => unsigned rest

/-- The digits of a natural number of 64 bits are read as that number. -/
theorem numeral?_toDigits {n : Nat} (h : n ≤ maxWord) :
    numeral? (Nat.toDigits 10 n) = some (.number (.integer n)) := by
  rw [numeral?, numberParts?_toDigits, Option.bind_eq_bind, Option.bind_some]
  dsimp only
  rw [takeWord_toDigits h]
  rfl

end ActiveObjects.Json

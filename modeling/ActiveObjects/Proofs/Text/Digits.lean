import Mathlib.Data.List.Induction
import Mathlib.Data.Nat.Init
import ActiveObjects.Text.Hex

/-!
# Numbers written and read

The digits of a number read back as that number, in base ten and in base sixteen. Whatever reads as
a number is made of digits.
-/

namespace ActiveObjects.Text

variable {base : Nat} {value? : Char → Option Nat} {cs : List Char} {n : Nat}

theorem readDigits?_append (front back : List Char) :
    readDigits? base value? (front ++ back) =
      (readDigits? base value? front).bind fun n =>
        back.foldlM (fun n c => (value? c).map (base * n + ·)) n :=
  List.foldlM_append

/-- Digits that have the same values are read as the same number. -/
theorem readDigits?_map {f : Char → Char} (h : ∀ c, value? (f c) = value? c) (cs : List Char) :
    readDigits? base value? (cs.map f) = readDigits? base value? cs := by
  rw [readDigits?, readDigits?, List.foldlM_map]
  simp only [h]

/-- Digits whose values are read one by one are read as the number that they write. -/
theorem readDigits?_toDigits (hb : 1 < base)
    (hv : ∀ d < base, value? (Nat.digitChar d) = some d) (n : Nat) :
    readDigits? base value? (Nat.toDigits base n) = some n := by
  induction n using Nat.strong_induction_on with
  | _ n ih =>
    by_cases hn : n < base
    · rw [Nat.toDigits_of_lt_base hn]
      simp [readDigits?, hv n hn]
    · have hmod : n % base < base := Nat.mod_lt n (by omega)
      have hdiv : n / base < n := Nat.div_lt_self (by omega) hb
      rw [Nat.toDigits_of_base_le hb (by omega), readDigits?_append, ih _ hdiv]
      simp [hv _ hmod, Nat.div_add_mod]

/-- What reads as a number is made of digits. -/
theorem isSome_of_mem_readDigits? (h : readDigits? base value? cs = some n) :
    ∀ c ∈ cs, (value? c).isSome := by
  induction cs using List.reverseRecOn generalizing n with
  | nil => simp
  | append_singleton front c ih =>
    rw [readDigits?_append] at h
    obtain ⟨m, hm, hc⟩ := Option.bind_eq_some_iff.1 h
    intro d hd
    rcases List.mem_append.1 hd with hd | hd
    · exact ih hm d hd
    · rw [List.mem_singleton.1 hd]
      cases hv : value? c with
      | none => simp [hv] at hc
      | some _ => rfl

theorem exists_of_mem_toDigits (hb : 1 < base) {c : Char} (h : c ∈ Nat.toDigits base n) :
    ∃ d < base, c = Nat.digitChar d := by
  induction n using Nat.strong_induction_on with
  | _ n ih =>
    by_cases hn : n < base
    · rw [Nat.toDigits_of_lt_base hn, List.mem_singleton] at h
      exact ⟨n, hn, h⟩
    · rw [Nat.toDigits_of_base_le hb (by omega), List.mem_append, List.mem_singleton] at h
      rcases h with h | h
      · exact ih _ (Nat.div_lt_self (by omega) hb) h
      · exact ⟨n % base, Nat.mod_lt n (by omega), h⟩

/-! ## Base ten -/

theorem decimalValue?_digitChar : ∀ d < 10, decimalValue? (Nat.digitChar d) = some d := by
  decide

theorem readDecimal?_toDigits (n : Nat) : readDecimal? (Nat.toDigits 10 n) = some n :=
  readDigits?_toDigits (by omega) decimalValue?_digitChar n

theorem isDigit_of_mem_readDecimal? (h : readDecimal? cs = some n) : ∀ c ∈ cs, c.isDigit := by
  intro c hc
  have hs := isSome_of_mem_readDigits? h c hc
  unfold decimalValue? at hs
  split at hs
  · assumption
  · cases hs

theorem isDigit_of_mem_toDigits (n : Nat) : ∀ c ∈ Nat.toDigits 10 n, c.isDigit :=
  fun _ hc => Nat.isDigit_of_mem_toDigits (by omega) (by omega) hc

/-! ## Base sixteen -/

theorem hexValue?_digitChar : ∀ d < 16, hexValue? (Nat.digitChar d) = some d := by
  decide

theorem readHex?_hexNumber (n : Nat) : readHex? (hexNumber n) = some n :=
  readDigits?_toDigits (by omega) hexValue?_digitChar n

theorem toLower_of_mem_hexNumber {c : Char} (h : c ∈ hexNumber n) : c.toLower = c := by
  obtain ⟨d, hd, rfl⟩ := exists_of_mem_toDigits (by omega) h
  have all : ∀ d < 16, (Nat.digitChar d).toLower = Nat.digitChar d := by decide
  exact all d hd

theorem isSome_hexValue?_of_mem_readHex? (h : readHex? cs = some n) :
    ∀ c ∈ cs, (hexValue? c).isSome :=
  isSome_of_mem_readDigits? h

end ActiveObjects.Text

import Mathlib.Data.List.Basic
import ActiveObjects.Text.Utf8

/-!
# UTF-8 there and back

A text is read back from its octets, one character at a time. Octets below `0x80` stand for ASCII
characters only.
-/

namespace ActiveObjects.Text.Utf8

theorem encode_cons (c : Char) (cs : List Char) :
    encode (c :: cs) = String.utf8EncodeChar c ++ encode cs := rfl

/-! ## One character -/

theorem scalar?_toNat {least : Nat} {c : Char} (h : least ≤ c.toNat) :
    scalar? least c.toNat = some c := by
  have hv : c.toNat.isValidChar := c.valid
  rw [scalar?, dif_pos hv, if_pos h]
  congr 1

theorem toNat_ofNat_of_lt {n : Nat} (h : n < 256) : (UInt8.ofNat n).toNat = n := by
  rw [UInt8.toNat_ofNat']
  omega

theorem tail?_ofNat {n : Nat} (h : n < 64) : tail? (UInt8.ofNat (n + 128)) = some n := by
  have hn : (UInt8.ofNat (n + 128)).toNat = n + 128 := toNat_ofNat_of_lt (by omega)
  have hr : (0x80 : UInt8) ≤ UInt8.ofNat (n + 128) ∧ UInt8.ofNat (n + 128) ≤ 0xBF := by
    simp only [UInt8.le_iff_toNat_le, hn, UInt8.reduceToNat]
    omega
  rw [tail?, if_pos hr, hn, Nat.add_sub_cancel]

section

variable {a b c d : UInt8} {rest : List UInt8} {x y z : Nat} {found : Char}

theorem decode_one (ha : a.toNat < 0x80) (hc : scalar? 0 a.toNat = some found) :
    decode (a :: rest) = (decode rest).map (found :: ·) := by
  have h1 : a < 0x80 := by simpa only [UInt8.lt_iff_toNat_lt, UInt8.reduceToNat]
  rw [decode.eq_def]
  dsimp only
  rw [if_pos h1, hc]
  cases decode rest <;> rfl

theorem decode_two (ha : 0xC0 ≤ a.toNat ∧ a.toNat ≤ 0xDF) (hb : tail? b = some x)
    (hc : scalar? 0x80 ((a.toNat - 0xC0) * 64 + x) = some found) :
    decode (a :: b :: rest) = (decode rest).map (found :: ·) := by
  have h1 : ¬ a < 0x80 := by
    simp only [UInt8.lt_iff_toNat_lt, UInt8.reduceToNat]
    omega
  have h2 : 0xC0 ≤ a ∧ a ≤ 0xDF := by
    simpa only [UInt8.le_iff_toNat_le, UInt8.reduceToNat]
  rw [decode.eq_def]
  dsimp only
  rw [if_neg h1, if_pos h2, hb, Option.bind_eq_bind, Option.bind_some, hc]
  cases decode rest <;> rfl

theorem decode_three (ha : 0xE0 ≤ a.toNat ∧ a.toNat ≤ 0xEF) (hb : tail? b = some x)
    (hc : tail? c = some y)
    (hs : scalar? 0x800 (((a.toNat - 0xE0) * 64 + x) * 64 + y) = some found) :
    decode (a :: b :: c :: rest) = (decode rest).map (found :: ·) := by
  have h1 : ¬ a < 0x80 := by
    simp only [UInt8.lt_iff_toNat_lt, UInt8.reduceToNat]
    omega
  have h2 : ¬ (0xC0 ≤ a ∧ a ≤ 0xDF) := by
    simp only [UInt8.le_iff_toNat_le, UInt8.reduceToNat]
    omega
  have h3 : 0xE0 ≤ a ∧ a ≤ 0xEF := by
    simpa only [UInt8.le_iff_toNat_le, UInt8.reduceToNat]
  rw [decode.eq_def]
  dsimp only
  rw [if_neg h1, if_neg h2, if_pos h3, hb, hc]
  simp only [Option.bind_eq_bind, Option.bind_some, hs]
  cases decode rest <;> rfl

theorem decode_four (ha : 0xF0 ≤ a.toNat ∧ a.toNat ≤ 0xF7) (hb : tail? b = some x)
    (hc : tail? c = some y) (hd : tail? d = some z)
    (hs : scalar? 0x10000 ((((a.toNat - 0xF0) * 64 + x) * 64 + y) * 64 + z) = some found) :
    decode (a :: b :: c :: d :: rest) = (decode rest).map (found :: ·) := by
  have h1 : ¬ a < 0x80 := by
    simp only [UInt8.lt_iff_toNat_lt, UInt8.reduceToNat]
    omega
  have h2 : ¬ (0xC0 ≤ a ∧ a ≤ 0xDF) := by
    simp only [UInt8.le_iff_toNat_le, UInt8.reduceToNat]
    omega
  have h3 : ¬ (0xE0 ≤ a ∧ a ≤ 0xEF) := by
    simp only [UInt8.le_iff_toNat_le, UInt8.reduceToNat]
    omega
  have h4 : 0xF0 ≤ a ∧ a ≤ 0xF7 := by
    simpa only [UInt8.le_iff_toNat_le, UInt8.reduceToNat]
  rw [decode.eq_def]
  dsimp only
  rw [if_neg h1, if_neg h2, if_neg h3, if_pos h4, hb, hc, hd]
  simp only [Option.bind_eq_bind, Option.bind_some, hs]
  cases decode rest <;> rfl

end

/-- The octets of a character are read as that character. -/
theorem decode_utf8EncodeChar_append (c : Char) (rest : List UInt8) :
    decode (String.utf8EncodeChar c ++ rest) = (decode rest).map (c :: ·) := by
  have hmax : c.toNat < 0x110000 := by
    rcases c.valid with h | h
    · exact Nat.lt_trans h (by decide)
    · exact h.2
  have hs {least n : Nat} (hn : n = c.toNat) (h : least ≤ c.toNat) :
      scalar? least n = some c := hn ▸ scalar?_toNat h
  unfold String.utf8EncodeChar
  rw [show c.val.toNat = c.toNat from rfl]
  dsimp only
  -- the cases are those of the encoding, by the number of octets
  split
  · rename_i h1
    have ha : (UInt8.ofNat c.toNat).toNat = c.toNat := toNat_ofNat_of_lt (by omega)
    exact decode_one (by omega) (hs ha (by omega))
  split
  · rename_i h1 h2
    have ha : (UInt8.ofNat (c.toNat / 64 % 32 + 192)).toNat = c.toNat / 64 % 32 + 192 :=
      toNat_ofNat_of_lt (by omega)
    exact decode_two (by omega) (tail?_ofNat (by omega)) (hs (by omega) (by omega))
  split
  · rename_i h1 h2 h3
    have ha : (UInt8.ofNat (c.toNat / 4096 % 16 + 224)).toNat = c.toNat / 4096 % 16 + 224 :=
      toNat_ofNat_of_lt (by omega)
    exact decode_three (by omega) (tail?_ofNat (by omega)) (tail?_ofNat (by omega))
      (hs (by omega) (by omega))
  · rename_i h1 h2 h3
    have ha : (UInt8.ofNat (c.toNat / 262144 % 8 + 240)).toNat = c.toNat / 262144 % 8 + 240 :=
      toNat_ofNat_of_lt (by omega)
    exact decode_four (by omega) (tail?_ofNat (by omega)) (tail?_ofNat (by omega))
      (tail?_ofNat (by omega)) (hs (by omega) (by omega))

/-- A text is read back from its octets. -/
theorem decode_encode (cs : List Char) : decode (encode cs) = some cs := by
  induction cs with
  | nil => simp [encode, decode]
  | cons c cs ih => rw [encode_cons, decode_utf8EncodeChar_append, ih, Option.map_some]

/-- An octet below `0x80` is the number of a character of the text. -/
theorem exists_of_mem_encode {cs : List Char} {b : UInt8} (h : b ∈ encode cs)
    (hb : b.toNat < 0x80) : ∃ c ∈ cs, c.toNat = b.toNat := by
  obtain ⟨c, hc, hm⟩ := List.mem_flatMap.1 h
  refine ⟨c, hc, ?_⟩
  unfold String.utf8EncodeChar at hm
  rw [show c.val.toNat = c.toNat from rfl] at hm
  dsimp only at hm
  split at hm
  · rw [List.mem_singleton.1 hm, toNat_ofNat_of_lt (by omega)]
  -- all octets of the longer forms are too large
  have small {n : Nat} (hn : 128 ≤ n ∧ n < 256) : b ≠ UInt8.ofNat n := by
    rintro rfl
    rw [toNat_ofNat_of_lt hn.2] at hb
    omega
  split at hm
  · simp only [List.mem_cons, List.not_mem_nil, or_false] at hm
    rcases hm with hm | hm <;> exact absurd hm (small (by omega))
  split at hm <;> simp only [List.mem_cons, List.not_mem_nil, or_false] at hm
  · rcases hm with hm | hm | hm <;> exact absurd hm (small (by omega))
  · rcases hm with hm | hm | hm | hm <;> exact absurd hm (small (by omega))

end ActiveObjects.Text.Utf8

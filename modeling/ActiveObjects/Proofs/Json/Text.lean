import Mathlib.Data.List.Forall2
import ActiveObjects.Json.Parser
import ActiveObjects.Json.Printer
import ActiveObjects.Proofs.Text.Padded

/-!
# Strings in JSON there and back

The written form of a string is one token, and reads as that string, whichever of its characters
had to be escaped.
-/

namespace ActiveObjects.Json

open Text Lexer

variable (tokens : List Token) (read : List Piece)

/-! ## Escapes -/

/-- The four digits of a unit are read as the unit. -/
theorem foldlM_unitEscape {n : Nat} (h : n < 0x10000) :
    (unitEscape n).foldlM step? ⟨tokens, .string read false⟩ =
      some ⟨tokens, .string (.unit n :: read) false⟩ := by
  have hd (m : Nat) : hexValue? (hexDigit (m % 16)) = some (m % 16) :=
    hexValue?_hexDigit _ (Nat.mod_lt m (by omega))
  have hn : 16 * (16 * (16 * (n / 16 / 16 / 16 % 16) + n / 16 / 16 % 16) + n / 16 % 16) + n % 16 =
      n := by omega
  simp [unitEscape, hexDigits, step?, hd, hn]

/-- What a piece may be that is read for a character: the character itself, or the number of a
control character. -/
def Stands (p : Piece) (c : Char) : Prop :=
  p = .char c ∨ (p = .unit c.toNat ∧ c.toNat < 0x20)

/-- The escape of a character is read as a piece that stands for it. -/
theorem foldlM_escape (c : Char) :
    ∃ p, Stands p c ∧ (escape c).foldlM step? ⟨tokens, .string read false⟩ =
      some ⟨tokens, .string (p :: read) false⟩ := by
  by_cases hn : c ∈ ['"', '\\', '\n', '\r', '\t', Char.ofNat 8, Char.ofNat 12]
  · -- these have an escape of two characters each
    simp only [List.mem_cons, List.not_mem_nil, or_false] at hn
    rcases hn with rfl | rfl | rfl | rfl | rfl | rfl | rfl <;> exact ⟨.char _, .inl rfl, rfl⟩
  · simp only [List.mem_cons, List.not_mem_nil, or_false, not_or] at hn
    obtain ⟨hquote, hslash, h1, h2, h3, h4, h5⟩ := hn
    unfold escape
    rw [if_neg hquote, if_neg hslash, if_neg h1, if_neg h2, if_neg h3, if_neg h4, if_neg h5]
    by_cases hc : c.toNat < 0x20
    · rw [if_pos hc]
      exact ⟨.unit c.toNat, .inr ⟨rfl, hc⟩, foldlM_unitEscape tokens read (by omega)⟩
    · rw [if_neg hc]
      exact ⟨.char c, .inl rfl, by simp [step?, hquote, hslash, hc]⟩

/-- All characters of a string are read one by one. -/
theorem foldlM_escapes (cs : List Char) :
    ∃ ps, List.Forall₂ Stands ps cs ∧
      (cs.flatMap escape).foldlM step? ⟨tokens, .string read false⟩ =
        some ⟨tokens, .string (ps.reverse ++ read) false⟩ := by
  induction cs generalizing read with
  | nil => exact ⟨[], .nil, rfl⟩
  | cons c cs ih =>
    obtain ⟨p, hp, hc⟩ := foldlM_escape tokens read c
    obtain ⟨ps, hps, hcs⟩ := ih (p :: read)
    refine ⟨p :: ps, .cons hp hps, ?_⟩
    rw [List.flatMap_cons, List.foldlM_append, hc]
    simpa using hcs

/-! ## The token of a string -/

/-- No piece of these is half of a pair. -/
theorem joinSurrogates_of_stands {ps : List Piece} {cs : List Char}
    (h : List.Forall₂ Stands ps cs) : joinSurrogates ps = cs.map Piece.char := by
  induction h with
  | nil => rfl
  | @cons p c ps cs hp hps ih =>
    rcases hp with rfl | ⟨rfl, hc⟩
    · simp [joinSurrogates, ih]
    · have hsmall : ¬ (0xD800 ≤ c.toNat ∧ c.toNat < 0xE000) := by omega
      have hlead : ∀ b, ¬ (0xD800 ≤ c.toNat ∧ c.toNat < 0xDC00 ∧ 0xDC00 ≤ b ∧ b < 0xE000) := by
        omega
      unfold joinSurrogates
      split
      · rename_i heq
        cases heq
        rw [if_neg (hlead _), if_neg hsmall, ih, Char.ofNat_toNat, List.map_cons]
      · rename_i heq
        cases heq
        rw [if_neg hsmall, ih, Char.ofNat_toNat, List.map_cons]
      · rename_i heq
        cases heq
      · rename_i heq
        cases heq

theorem ofPieces_of_stands {ps : List Piece} {cs : List Char} (h : List.Forall₂ Stands ps cs) :
    Quoted.ofPieces ps false = .text (String.ofList cs) := by
  have hm : (cs.map Piece.char).mapM Piece.char? = some cs := by
    induction cs generalizing ps with
    | nil => rfl
    | cons c cs ih =>
      cases h with
      | cons _ hps => simp [Piece.char?, ih hps]
  simp only [Quoted.ofPieces, joinSurrogates_of_stands h, hm]

theorem tokens?_quote (s : String) : tokens? (quote escape s) = some [.string (.text s)] := by
  obtain ⟨ps, hps, hread⟩ := foldlM_escapes [] [] s.toList
  have hopen : step? ⟨[], .between⟩ '"' = some ⟨[], .string [] false⟩ := rfl
  have hclose : step? ⟨[], .string ps.reverse false⟩ '"' =
      some ⟨[.string (.ofPieces ps false)], .between⟩ := by
    simp [step?]
  rw [List.append_nil] at hread
  rw [tokens?, quote, List.cons_append, List.foldlM_cons, hopen, Option.bind_eq_bind,
    Option.bind_eq_bind, Option.bind_some, List.foldlM_append, hread, Option.bind_eq_bind,
    Option.bind_some, List.foldlM_cons, hclose, ofPieces_of_stands hps, String.ofList_toList]
  rfl

/-- A string is read back from its text. -/
theorem Tree.parse?_render_string (s : String) :
    Tree.parse? (render (.string s)) = some (.string (.text s)) := by
  rw [Tree.parse?, render, renderOnto, List.append_nil, String.toList_ofList, tokens?_quote]
  rfl

end ActiveObjects.Json

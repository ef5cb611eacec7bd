import Mathlib.Data.List.Basic
import ActiveObjects.Text.Blank
import ActiveObjects.Text.Split

/-!
# Texts cut and put together

Pieces joined by a separator that none of them holds come apart at the same places. What a cut
leaves over is a part of the text.
-/

namespace ActiveObjects.Text

/-! ## Starts and ends -/

theorem after?_eq_some_iff {start text rest : List Char} :
    after? start text = some rest ↔ text = start ++ rest := by
  induction start generalizing text with
  | nil => simp [after?]
  | cons c start ih =>
    cases text with
    | nil => simp [after?]
    | cons d text =>
      unfold after?
      split
      · rename_i h
        simp [ih, h]
      · rename_i h
        simp [Ne.symm h]

theorem beforeLast?_eq_some_iff {last : Char} {text front : List Char} :
    beforeLast? last text = some front ↔ text = front ++ [last] := by
  rw [← List.reverse_inj, List.reverse_append, List.reverse_singleton, List.singleton_append]
  unfold beforeLast?
  cases text.reverse with
  | nil => simp
  | cons c rest =>
    dsimp only
    by_cases hc : c = last
    · simp [hc, List.reverse_eq_iff]
    · simp [hc]

section

variable {p : Char → Bool} {front rest : List Char} {c : Char}

/-- The characters with a property are taken up to the first one without it. -/
theorem takeWhile_append_cons (h : ∀ d ∈ front, p d) (hc : ¬ p c) :
    (front ++ c :: rest).takeWhile p = front := by
  rw [List.takeWhile_append_of_pos h, List.takeWhile_cons_of_neg hc, List.append_nil]

theorem dropWhile_append_cons (h : ∀ d ∈ front, p d) (hc : ¬ p c) :
    (front ++ c :: rest).dropWhile p = c :: rest := by
  rw [List.dropWhile_append_of_pos h, List.dropWhile_cons_of_neg hc]

end

theorem trimBoth_eq_self {p : Char → Bool} {cs : List Char} (h : ∀ c ∈ cs, ¬ p c) :
    trimBoth p cs = cs := by
  have hd : ∀ ds : List Char, (∀ c ∈ ds, ¬ p c) → ds.dropWhile p = ds := by
    intro ds hds
    cases ds with
    | nil => rfl
    | cons d ds => exact List.dropWhile_cons_of_neg (hds d (List.mem_cons_self ..))
  rw [trimBoth, hd cs h, hd cs.reverse fun c hc => h c (List.mem_reverse.1 hc),
    List.reverse_reverse]

/-! ## Pieces -/

variable {isCut : Char → Bool} {text : List Char}

theorem not_isCut_of_mem_pieces {piece : List Char} (h : piece ∈ pieces isCut text) :
    ∀ c ∈ piece, ¬ isCut c := by
  induction text generalizing piece with
  | nil =>
    cases List.mem_singleton.1 h
    simp
  | cons c text ih =>
    unfold pieces at h
    split at h
    · rcases List.mem_cons.1 h with rfl | h
      · simp
      · exact ih h
    · rename_i hc
      split at h
      · cases List.mem_singleton.1 h
        simpa using hc
      · rename_i first more hp
        rw [hp] at ih
        rcases List.mem_cons.1 h with rfl | h
        · simpa [hc] using ih (List.mem_cons_self ..)
        · exact ih (List.mem_cons_of_mem _ h)

theorem pieces_eq_singleton (h : ∀ c ∈ text, ¬ isCut c) : pieces isCut text = [text] := by
  induction text with
  | nil => rfl
  | cons c text ih =>
    rw [pieces, if_neg (h c (List.mem_cons_self ..)),
      ih fun d hd => h d (List.mem_cons_of_mem _ hd)]

/-- Every character is a cut or belongs to a piece. -/
theorem mem_iff_mem_pieces (isCut : Char → Bool) {c : Char} (hc : ¬ isCut c) :
    c ∈ text ↔ ∃ piece ∈ pieces isCut text, c ∈ piece := by
  induction text with
  | nil => simp [pieces]
  | cons d text ih =>
    by_cases hd : isCut d
    · have hne : c ≠ d := by
        rintro rfl
        exact hc hd
      simp [pieces, hd, hne, ih]
    · rw [pieces, if_neg hd, List.mem_cons, ih]
      cases hp : pieces isCut text with
      | nil => exact absurd hp (pieces_ne_nil isCut text)
      | cons piece more => simp [or_assoc]

theorem mem_of_mem_pieces {piece : List Char} {c : Char} (hp : piece ∈ pieces isCut text)
    (hc : c ∈ piece) : c ∈ text :=
  (mem_iff_mem_pieces isCut (not_isCut_of_mem_pieces hp c hc)).2 ⟨piece, hp, hc⟩

theorem pieces_map {f : Char → Char} (h : ∀ c, isCut (f c) = isCut c) (text : List Char) :
    pieces isCut (text.map f) = (pieces isCut text).map (List.map f) := by
  induction text with
  | nil => rfl
  | cons c rest ih =>
    rw [List.map_cons, pieces, pieces, h, ih]
    cases isCut c with
    | true => rfl
    | false => cases pieces isCut rest <;> rfl

theorem pieces_append {front rest : List Char} {c : Char} (hc : isCut c) :
    pieces isCut (front ++ c :: rest) = pieces isCut front ++ pieces isCut rest := by
  induction front with
  | nil => simp [pieces, hc]
  | cons d front ih =>
    rw [List.cons_append, pieces, pieces, ih]
    split
    · rfl
    · cases hp : pieces isCut front with
      | nil => exact absurd hp (pieces_ne_nil isCut front)
      | cons piece more => rfl

/-- A piece in front of a cut comes off. -/
theorem pieces_append_cons {piece rest : List Char} {c : Char} (hp : ∀ d ∈ piece, ¬ isCut d)
    (hc : isCut c) : pieces isCut (piece ++ c :: rest) = piece :: pieces isCut rest := by
  rw [pieces_append hc, pieces_eq_singleton hp, List.singleton_append]

theorem pieces_join {c : Char} {all : List (List Char)} (hne : all ≠ [])
    (h : ∀ piece ∈ all, c ∉ piece) : pieces (· == c) (join [c] all) = all := by
  have apart : ∀ piece : List Char, c ∉ piece → ∀ d ∈ piece, ¬ (d == c) = true := by
    intro piece hp d hd hdc
    exact hp (beq_iff_eq.1 hdc ▸ hd)
  induction all with
  | nil => exact absurd rfl hne
  | cons piece more ih =>
    have hpiece := apart piece (h piece (List.mem_cons_self ..))
    cases more with
    | nil => exact pieces_eq_singleton hpiece
    | cons next rest =>
      rw [join, List.append_assoc, List.singleton_append,
        pieces_append_cons hpiece (beq_self_eq_true c),
        ih (List.cons_ne_nil next rest) fun p hp => h p (List.mem_cons_of_mem _ hp)]
      simp

theorem mem_join {c : Char} {separator : List Char} {all : List (List Char)}
    (h : c ∈ join separator all) : c ∈ separator ∨ ∃ piece ∈ all, c ∈ piece := by
  induction all with
  | nil => cases h
  | cons piece more ih =>
    cases more with
    | nil => exact .inr ⟨piece, List.mem_cons_self .., h⟩
    | cons next rest =>
      rw [join, List.mem_append, List.mem_append] at h
      rcases h with (h | h) | h
      · exact .inr ⟨piece, List.mem_cons_self .., h⟩
      · exact .inl h
      · exact (ih h).imp_right fun ⟨p, hp, hc⟩ => ⟨p, List.mem_cons_of_mem _ hp, hc⟩
      · simp

/-! ## The first occurrence of a pattern -/

theorem cutAt?_eq_some {pattern before after : List Char}
    (h : cutAt? pattern text = some (before, after)) : text = before ++ pattern ++ after := by
  induction text generalizing before with
  | nil => cases h
  | cons c rest ih =>
    unfold cutAt? at h
    split at h
    · rename_i hp
      cases h
      rw [List.nil_append]
      exact (List.prefix_iff_eq_append.1 (List.isPrefixOf_iff_prefix.1 hp)).symm
    · obtain ⟨⟨front, after'⟩, hr, he⟩ := Option.map_eq_some_iff.1 h
      cases he
      rw [ih hr]
      rfl

/-- Characters that do not start the pattern stand before its first occurrence. -/
theorem cutAt?_append {p : Char} {pattern front rest : List Char} (h : p ∉ front) :
    cutAt? (p :: pattern) (front ++ rest) =
      (cutAt? (p :: pattern) rest).map fun (before, after) => (front ++ before, after) := by
  induction front with
  | nil => simp
  | cons c front ih =>
    obtain ⟨hc, hf⟩ := not_or.1 (mt List.mem_cons.2 h)
    have hp : ¬ (p :: pattern).isPrefixOf (c :: (front ++ rest)) := by simp [hc]
    rw [List.cons_append, cutAt?, if_neg hp, ih hf, Option.map_map]
    rfl

end ActiveObjects.Text

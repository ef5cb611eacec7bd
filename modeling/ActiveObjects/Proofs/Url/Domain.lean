import Mathlib.Data.Option.Basic
import ActiveObjects.Proofs.Address.Ipv4
import ActiveObjects.Proofs.Url.Parts

/-!
# Domains that stand for themselves

Letter case does not matter to the ASCII form of a domain. A domain of host characters is its own
ASCII form, but for letter case, if it has no encoded labels.
-/

namespace ActiveObjects

/-- A relation between characters and their small forms need only be seen of the characters that
have no other form, and of the letters of the alphabet. -/
theorem toLower_induction {P : Char → Char → Prop} (same : ∀ c : Char, ¬ c.isUpper → P c c)
    (capital : ∀ n < 26, P (Char.ofNat (65 + n)) (Char.ofNat (97 + n))) (c : Char) :
    P c c.toLower := by
  by_cases capitals : 65 ≤ c.toNat ∧ c.toNat ≤ 90
  · have letter : Char.ofNat (65 + (c.toNat - 65)) = c := by
      rw [show 65 + (c.toNat - 65) = c.toNat by omega, Char.ofNat_toNat]
    have small : ∀ n < 26, (Char.ofNat (65 + n)).toLower = Char.ofNat (97 + n) := by decide
    have found := capital (c.toNat - 65) (by omega)
    rwa [← small (c.toNat - 65) (by omega), letter] at found
  · have kept : c.toLower = c := dif_neg capitals
    rw [kept]
    exact same c fun upper => capitals (of_decide_eq_true upper)

theorem toNat_toLower_lt_iff {c : Char} : c.toLower.toNat < 0x80 ↔ c.toNat < 0x80 :=
  toLower_induction (P := fun c d => d.toNat < 0x80 ↔ c.toNat < 0x80) (fun _ _ => Iff.rfl)
    (by decide) c

theorem toLower_eq_bracket_iff {c : Char} : c.toLower = '[' ↔ c = '[' :=
  toLower_induction (P := fun c d => d = '[' ↔ c = '[') (fun _ _ => Iff.rfl) (by decide) c

/-- Digits and marks have no case, and two letters are turned into a small x. -/
theorem numeral_toLower (c : Char) :
    c.toLower.isDigit = c.isDigit ∧ (c.toLower == '.') = (c == '.') ∧
      (c.toLower = '0' ↔ c = '0') ∧ (c.toLower = 'x' ↔ c = 'x' ∨ c = 'X') ∧ c.toLower ≠ 'X' := by
  refine toLower_induction (P := fun c d => d.isDigit = c.isDigit ∧ (d == '.') = (c == '.') ∧
    (d = '0' ↔ c = '0') ∧ (d = 'x' ↔ c = 'x' ∨ c = 'X') ∧ d ≠ 'X') (fun c h => ?_) (by decide) c
  have hX : c ≠ 'X' := by
    rintro rfl
    exact h rfl
  simp [hX]

/-- A digit has the same value in either case. -/
theorem value_toLower (c : Char) :
    Text.decimalValue? c.toLower = Text.decimalValue? c ∧
      Text.hexValue? c.toLower = Text.hexValue? c :=
  toLower_induction (P := fun c d => Text.decimalValue? d = Text.decimalValue? c ∧
    Text.hexValue? d = Text.hexValue? c) (fun _ _ => ⟨rfl, rfl⟩) (by decide) c

namespace Ipv4

open Text

theorem loosePart?_map_toLower (cs : List Char) :
    loosePart? (cs.map Char.toLower) = loosePart? cs := by
  have hex (digits : List Char) : readHex? (digits.map Char.toLower) = readHex? digits :=
    readDigits?_map (fun c => (value_toLower c).2) digits
  have octal (c : Char) : (decimalValue? c.toLower).filter (· < 8) =
      (decimalValue? c).filter (· < 8) := by rw [(value_toLower c).1]
  fun_cases loosePart? cs with
  | case1 => rfl
  | case2 digits => exact hex digits
  | case3 digits => exact hex digits
  | case4 c digits hx hX =>
    rw [List.map_cons, List.map_cons, show '0'.toLower = '0' from rfl, loosePart?]
    · exact readDigits?_map octal (c :: digits)
    · exact fun he => ((numeral_toLower c).2.2.2.1.1 he).elim hx hX
    · exact (numeral_toLower c).2.2.2.2
  | case5 =>
    rename_i empty _ _ single
    cases cs with
    | nil => exact absurd rfl empty
    | cons c rest =>
      by_cases zero : c = '0'
      · subst zero
        cases rest with
        | nil => rfl
        | cons d digits => exact absurd rfl (single d digits)
      · have kept : c.toLower ≠ '0' := fun he => zero ((numeral_toLower c).2.2.1.1 he)
        have number : readDecimal? ((c :: rest).map Char.toLower) = readDecimal? (c :: rest) :=
          readDigits?_map (fun c => (value_toLower c).1) (c :: rest)
        rw [List.map_cons] at number ⊢
        rw [loosePart?]
        · exact number
        all_goals simp [kept]

theorem looseParts_map_toLower (cs : List Char) :
    looseParts (cs.map Char.toLower) = (looseParts cs).map (List.map Char.toLower) := by
  rw [looseParts, looseParts, pieces_map fun c => (numeral_toLower c).2.1, List.getLast?_map]
  generalize pieces (· == '.') cs = all
  have empty : all.getLast?.map (List.map Char.toLower) = some [] ↔ all.getLast? = some [] := by
    cases all.getLast? <;> simp
  by_cases last : all.getLast? = some []
  · rw [if_pos last, if_pos (empty.2 last), List.map_dropLast]
  · rw [if_neg last, if_neg (mt empty.1 last)]

/-- Letter case does not matter to whether a host looks like an address. -/
theorem endsInNumber_map_toLower (cs : List Char) :
    endsInNumber (cs.map Char.toLower) = endsInNumber cs := by
  rw [endsInNumber, endsInNumber, looseParts_map_toLower, List.getLast?_map]
  cases (looseParts cs).getLast? with
  | none => rfl
  | some last => simp [loosePart?_map_toLower, Function.comp_def, (numeral_toLower _).1]

end Ipv4

namespace Url

open Text Domain

variable {cs d : List Char}

/-! ## Letter case -/

theorem mapped?_toLower {c : Char} (h : c.toNat < 0x80) : mapped? c.toLower = mapped? c := by
  rw [mapped?, if_pos (toNat_toLower_lt_iff.2 h), mapped?, if_pos h, toLower_toLower]

theorem mapText?_map_toLower (h : ∀ c ∈ cs, c.toNat < 0x80) :
    mapText? (cs.map Char.toLower) = mapText? cs := by
  have hm : (cs.map Char.toLower).mapM mapped? = cs.mapM mapped? := by
    induction cs with
    | nil => rfl
    | cons c cs ih =>
      rw [List.map_cons, List.mapM_cons, List.mapM_cons, mapped?_toLower (h c (by simp)),
        ih fun d hd => h d (List.mem_cons_of_mem _ hd)]
  rw [mapText?, mapText?, hm]

theorem isDomainExcluded_toLower (c : Char) :
    (decide (c.toLower.toNat < 0x80) && !isDomainExcluded c.toLower) =
      (decide (c.toNat < 0x80) && !isDomainExcluded c) :=
  toLower_induction (P := fun c d => (decide (d.toNat < 0x80) && !isDomainExcluded d) =
    (decide (c.toNat < 0x80) && !isDomainExcluded c)) (fun _ _ => rfl) (by decide) c

theorem isPlain_map_toLower (cs : List Char) : isPlain (cs.map Char.toLower) = isPlain cs := by
  simp only [isPlain, List.all_map, List.map_map, Function.comp_def, isDomainExcluded_toLower,
    toLower_toLower]

/-- Letter case does not matter to the ASCII form. -/
theorem domainToAscii?_map_toLower (h : ∀ c ∈ cs, c.toNat < 0x80) :
    domainToAscii? (cs.map Char.toLower) = domainToAscii? cs := by
  have hc : convert? (cs.map Char.toLower) = convert? cs := by
    rw [convert?, mapText?_map_toLower h, convert?]
  rw [domainToAscii?, domainToAscii?, isPlain_map_toLower, hc, List.map_map]
  simp only [Function.comp_def, toLower_toLower]

/-! ## The form of a form -/

/-- A domain with encoded labels is its own form by the tables. So are the domains that come from
the tables, but for labels with a code that is too long to be read. -/
def Domain.Stands (cs : List Char) : Prop :=
  (labels cs).any mark.isPrefixOf → convert? cs = some cs

instance (cs : List Char) : Decidable (Domain.Stands cs) :=
  inferInstanceAs (Decidable (_ → _))

/-- A domain in small letters that stands for itself is its own ASCII form. -/
theorem domainToAscii?_eq_self (hl : cs.map Char.toLower = cs)
    (hc : ∀ c ∈ cs, c.toNat < 0x80 ∧ ¬ isDomainExcluded c) (stands : Domain.Stands cs) :
    domainToAscii? cs = some cs := by
  have ascii : cs.all fun c => c.toNat < 0x80 && !isDomainExcluded c :=
    List.all_eq_true.2 fun c hm => by simpa using hc c hm
  have plain : isPlain cs = !(labels cs).any mark.isPrefixOf := by
    rw [isPlain, ascii, hl, Bool.true_and, List.not_any_eq_all_not]
  by_cases hm : (labels cs).any mark.isPrefixOf
  · rw [domainToAscii?, plain, hm, if_neg (by simp), stands hm]
  · rw [domainToAscii?, plain, if_pos (by simpa using hm), hl]

theorem encodeLabel?_head {label text code : List Char} (hl : '[' ∉ label)
    (hd : decodeLabel? label = some text) (he : encodeLabel? text = some code) :
    code.head? ≠ some '[' := by
  unfold encodeLabel? at he
  split at he
  · rename_i hbasic
    cases he
    unfold decodeLabel? at hd
    split at hd
    · cases hd
      intro hh
      exact hl (List.mem_of_mem_head? hh)
    · -- the text of an encoded label is not all ASCII
      simp only [Option.bind_eq_bind, Option.bind_eq_some_iff] at hd
      obtain ⟨_, -, found, -, _, hg, hf⟩ := hd
      cases hf
      have hnot := ((Option.guard_eq_some' _).1 hg).1
      simp only [hbasic] at hnot
      exact absurd hnot (by decide)
  · split at he
    · cases he
      simp [mark]
    · cases he

theorem mapM_cons_eq_some {α β : Type} {f : α → Option β} {a : α} {as : List α} {found : List β}
    (h : (a :: as).mapM f = some found) :
    ∃ b bs, f a = some b ∧ as.mapM f = some bs ∧ found = b :: bs := by
  rw [List.mapM_cons] at h
  simp only [Option.bind_eq_bind, Option.bind_eq_some_iff] at h
  obtain ⟨b, hb, bs, hbs, hf⟩ := h
  cases hf
  exact ⟨b, bs, hb, hbs, rfl⟩

theorem join_head {separator piece : List Char} {more : List (List Char)} {c : Char}
    (hs : separator.head? ≠ some c) (hp : piece.head? ≠ some c) (hne : separator ≠ []) :
    (join separator (piece :: more)).head? ≠ some c := by
  cases more with
  | nil => exact hp
  | cons next rest =>
    cases piece with
    | cons d piece => simpa [join] using hp
    | nil =>
      cases separator with
      | nil => exact absurd rfl hne
      | cons d separator => simpa [join] using hs

/-- No ASCII form looks like an address in brackets. -/
theorem domainToAscii?_head (h : domainToAscii? cs = some d) : d.head? ≠ some '[' := by
  unfold domainToAscii? at h
  split at h
  · rename_i hp
    cases h
    intro hh
    rw [List.head?_map, Option.map_eq_some_iff] at hh
    obtain ⟨c, hc, hl⟩ := hh
    rw [toLower_eq_bracket_iff] at hl
    have hall := List.all_eq_true.1 (Bool.and_eq_true_iff.1 hp).1 c (List.mem_of_mem_head? hc)
    rw [hl] at hall
    exact absurd hall (by decide)
  · unfold convert? at h
    simp only [Option.bind_eq_bind, Option.bind_eq_some_iff] at h
    obtain ⟨text, -, _, hg, found, hfound, _, -, codes, hcodes, hd⟩ := h
    cases hd
    have hno : '[' ∉ text := by
      intro hm
      have hnone := (Option.guard_eq_some' _).1 hg
      rw [Bool.not_eq_true', List.any_eq_false] at hnone
      exact hnone '[' hm (by decide)
    cases hl : labels text with
    | nil => exact absurd hl (pieces_ne_nil _ _)
    | cons label rest =>
      have hlabel : '[' ∉ label := by
        have hmem : label ∈ labels text := hl ▸ List.mem_cons_self ..
        exact fun hm => hno (mem_of_mem_pieces hmem hm)
      rw [hl] at hfound
      obtain ⟨first, others, hdecode, -, rfl⟩ := mapM_cons_eq_some hfound
      obtain ⟨code, more, hencode, -, rfl⟩ := mapM_cons_eq_some hcodes
      exact join_head (by decide) (encodeLabel?_head hlabel hdecode hencode) (by decide)

/-- A text of digits and dots is an ASCII form. -/
theorem domainToAscii?_of_digits (h : ∀ c ∈ cs, c.isDigit ∨ c = '.') :
    domainToAscii? cs = some cs := by
  have hall : ∀ c ∈ cs, c.toLower = c ∧ c ≠ 'x' ∧ (c.toNat < 0x80 && !isDomainExcluded c) := by
    intro c hc
    have hlt : c.toNat < 0x80 := by
      rcases h c hc with hd | rfl
      · exact toNat_lt_of_isAlphanum (by simp [Char.isAlphanum, hd])
      · decide
    exact forall_ascii (P := fun c => c.isDigit ∨ c = '.' →
      c.toLower = c ∧ c ≠ 'x' ∧ (c.toNat < 0x80 && !isDomainExcluded c)) (by decide +kernel) hlt
      (h c hc)
  have hlower : cs.map Char.toLower = cs := by
    simpa using List.map_congr_left fun c hc => (hall c hc).1
  have hplain : isPlain cs := by
    unfold isPlain
    rw [hlower, Bool.and_eq_true, List.all_eq_true, List.all_eq_true]
    refine ⟨fun c hc => (hall c hc).2.2, ?_⟩
    intro label hm
    cases label with
    | nil => rfl
    | cons c label =>
      have hx : c ≠ 'x' := (hall c (mem_of_mem_pieces hm (List.mem_cons_self ..))).2.1
      simp [mark, List.isPrefixOf, hx.symm]
  rw [domainToAscii?, if_pos hplain, hlower]

end Url

end ActiveObjects

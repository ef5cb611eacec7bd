import ActiveObjects.Proofs.Json.Numerals
import ActiveObjects.Proofs.Json.Text

/-!
# The tokens of a written value

What is written between the marks of arrays and objects ends where a mark follows, so the text of
a value is cut into its tokens whatever stands behind it.
-/

namespace ActiveObjects.Json

open Text

/-- Values whose numbers are natural numbers of 64 bits. -/
inductive Exact : Json → Prop where
  | null : Exact .null
  | bool (b : Bool) : Exact (.bool b)
  | number {n : Nat} (h : n ≤ maxWord) : Exact (ofNat n)
  | string (s : String) : Exact (.string s)
  | array {items : List Json} (h : ∀ item ∈ items, Exact item) : Exact (.array items)
  | object {fields : List (String × Json)} (h : ∀ field ∈ fields, Exact field.2) :
    Exact (.object fields)

mutual

/-- The tokens that a value is written in. -/
def tokens : Json → List Token
  | .null => [.null]
  | .bool b => [.bool b]
  | .number n => [.number (.number n)]
  | .string s => [.string (.text s)]
  | .array [] => [.openArray, .closeArray]
  | .array (item :: more) => .openArray :: (tokens item ++ itemTokens more)
  | .object [] => [.openObject, .closeObject]
  | .object ((key, value) :: more) =>
    .openObject :: .string (.text key) :: .colon :: (tokens value ++ fieldTokens more)

/-- The tokens of further items, up to the end of the array. -/
def itemTokens : List Json → List Token
  | [] => [.closeArray]
  | item :: more => .comma :: (tokens item ++ itemTokens more)

/-- The tokens of further fields, up to the end of the object. -/
def fieldTokens : List (String × Json) → List Token
  | [] => [.closeObject]
  | (key, value) :: more =>
    .comma :: .string (.text key) :: .colon :: (tokens value ++ fieldTokens more)

end

namespace Lexer

/-- The tokens of the rest of a text. -/
def run? (lexer : Lexer) (cs : List Char) : Option (List Token) :=
  (cs.foldlM step? lexer).bind finish?

variable {lexer next : Lexer} {tokens : List Token} {token : Token} {c : Char}
  {cs after : List Char}

theorem run?_cons (h : step? lexer c = some next) : run? lexer (c :: cs) = run? next cs := by
  rw [run?, List.foldlM_cons, h]
  rfl

theorem run?_append (h : cs.foldlM step? lexer = some next) :
    run? lexer (cs ++ after) = run? next after := by
  rw [run?, List.foldlM_append, h]
  rfl

/-- The text is at its end, or at a mark behind a value. -/
def Ends (after : List Char) : Prop := ∀ c ∈ after.head?, c = ',' ∨ c = ']' ∨ c = '\x7d'

theorem ends_nil : Ends [] := by
  intro c hc
  cases hc

theorem ends_cons (h : c = ',' ∨ c = ']' ∨ c = '\x7d') : Ends (c :: cs) := by
  intro d hd
  cases hd
  exact h

/-! ## Words and numbers -/

/-- A word is complete where a mark follows. -/
theorem run?_word {read : List Char} (h : word? read.reverse = some token) (ha : Ends after) :
    run? ⟨tokens, .word read⟩ after = run? ⟨token :: tokens, .between⟩ after := by
  cases after with
  | nil => simp [run?, finish?, h]
  | cons c after =>
    have other : c.isAlpha = false := by
      rcases ha c rfl with rfl | rfl | rfl <;> rfl
    have taken : step? ⟨tokens, .word read⟩ c = step? ⟨token :: tokens, .between⟩ c := by
      simp [step?, other, h]
    rw [run?, run?, List.foldlM_cons, List.foldlM_cons, taken]

/-- A number is complete where a mark follows. -/
theorem run?_numeral {read : List Char} {n : Numeral} (h : numeral? read.reverse = some n)
    (ha : Ends after) :
    run? ⟨tokens, .numeral read⟩ after = run? ⟨.number n :: tokens, .between⟩ after := by
  cases after with
  | nil => simp [run?, finish?, h]
  | cons c after =>
    have other : isNumeral c = false := by
      rcases ha c rfl with rfl | rfl | rfl <;> rfl
    have taken : step? ⟨tokens, .numeral read⟩ c = step? ⟨.number n :: tokens, .between⟩ c := by
      simp [step?, other, h]
    rw [run?, run?, List.foldlM_cons, List.foldlM_cons, taken]

theorem foldlM_digits {read ds : List Char} (h : ∀ d ∈ ds, d.isDigit) :
    ds.foldlM step? ⟨tokens, .numeral read⟩ = some ⟨tokens, .numeral (ds.reverse ++ read)⟩ := by
  induction ds generalizing read with
  | nil => rfl
  | cons d ds ih =>
    have numeral : isNumeral d = true := by simp [isNumeral, h d (List.mem_cons_self ..)]
    have taken : step? ⟨tokens, .numeral read⟩ d = some ⟨tokens, .numeral (d :: read)⟩ := by
      simp [step?, numeral]
    rw [List.foldlM_cons, taken]
    exact (ih fun c hc => h c (List.mem_cons_of_mem _ hc)).trans (by simp)

theorem step?_digitChar {d : Nat} (h : d < 10) :
    step? ⟨tokens, .between⟩ (Nat.digitChar d) = some ⟨tokens, .numeral [Nat.digitChar d]⟩ := by
  have kinds : ∀ d < 10, isSpace (Nat.digitChar d) = false ∧
      punctuation? (Nat.digitChar d) = none ∧ Nat.digitChar d ≠ '"' ∧
      (Nat.digitChar d).isDigit = true := by decide
  obtain ⟨space, mark, quote, digit⟩ := kinds d h
  simp [step?, start?, space, mark, quote, digit]

theorem run?_toDigits {n : Nat} (h : n ≤ maxWord) (ha : Ends after) :
    run? ⟨tokens, .between⟩ (Nat.toDigits 10 n ++ after) =
      run? ⟨.number (.number (.integer n)) :: tokens, .between⟩ after := by
  obtain ⟨c, cs, heq⟩ := List.exists_cons_of_ne_nil (Nat.toDigits_ne_nil (b := 10) (n := n))
  have member : c ∈ Nat.toDigits 10 n := by simp [heq]
  obtain ⟨d, hd, rfl⟩ := exists_of_mem_toDigits (by omega) member
  have rest : ∀ d ∈ cs, d.isDigit := fun d hd =>
    isDigit_of_mem_toDigits n d (heq ▸ List.mem_cons_of_mem _ hd)
  have read : numeral? (cs.reverse ++ [Nat.digitChar d]).reverse = some (.number (.integer n)) := by
    rw [List.reverse_append, List.reverse_reverse, List.reverse_singleton, List.singleton_append,
      ← heq]
    exact numeral?_toDigits h
  rw [heq, List.cons_append, run?_cons (step?_digitChar hd), run?_append (foldlM_digits rest),
    run?_numeral read ha]

/-! ## Strings -/

theorem run?_quote (s : String) (after : List Char) :
    run? ⟨tokens, .between⟩ (quote escape s ++ after) =
      run? ⟨.string (.text s) :: tokens, .between⟩ after := by
  obtain ⟨ps, hps, hread⟩ := foldlM_escapes tokens [] s.toList
  have opens : step? ⟨tokens, .between⟩ '"' = some ⟨tokens, .string [] false⟩ := rfl
  have closes : step? ⟨tokens, .string ps.reverse false⟩ '"' =
      some ⟨.string (.text s) :: tokens, .between⟩ := by
    simp [step?, ofPieces_of_stands hps]
  rw [List.append_nil] at hread
  rw [quote, List.cons_append, List.cons_append, List.append_assoc, run?_cons opens,
    run?_append hread, List.singleton_append, run?_cons closes]

/-! ## Values -/

theorem ends_renderItemsOnto (after : List Char) (more : List Json) :
    Ends (renderItemsOnto escape (']' :: after) more) := by
  cases more <;> exact ends_cons (by simp)

theorem ends_renderFieldsOnto (after : List Char) (more : List (String × Json)) :
    Ends (renderFieldsOnto escape ('\x7d' :: after) more) := by
  cases more <;> exact ends_cons (by simp)

/-- The text of the value is cut into its tokens whatever mark stands behind it. -/
def Cuts (j : Json) : Prop :=
  ∀ (tokens : List Token) (after : List Char), Ends after →
    run? ⟨tokens, .between⟩ (renderOnto escape after j) =
      run? ⟨j.tokens.reverse ++ tokens, .between⟩ after

theorem run?_renderItemsOnto {more : List Json} (h : ∀ item ∈ more, Cuts item)
    (tokens : List Token) (after : List Char) :
    run? ⟨tokens, .between⟩ (renderItemsOnto escape (']' :: after) more) =
      run? ⟨(itemTokens more).reverse ++ tokens, .between⟩ after := by
  induction more generalizing tokens with
  | nil => rfl
  | cons item more ih =>
    have comma : step? ⟨tokens, .between⟩ ',' = some ⟨.comma :: tokens, .between⟩ := rfl
    rw [renderItemsOnto, run?_cons comma,
      h item (List.mem_cons_self ..) _ _ (ends_renderItemsOnto after more),
      ih fun other ho => h other (List.mem_cons_of_mem _ ho)]
    simp [itemTokens]

theorem run?_renderFieldsOnto {more : List (String × Json)} (h : ∀ field ∈ more, Cuts field.2)
    (tokens : List Token) (after : List Char) :
    run? ⟨tokens, .between⟩ (renderFieldsOnto escape ('\x7d' :: after) more) =
      run? ⟨(fieldTokens more).reverse ++ tokens, .between⟩ after := by
  induction more generalizing tokens with
  | nil => rfl
  | cons field more ih =>
    have comma : step? ⟨tokens, .between⟩ ',' = some ⟨.comma :: tokens, .between⟩ := rfl
    have colon (tokens : List Token) :
        step? ⟨tokens, .between⟩ ':' = some ⟨.colon :: tokens, .between⟩ := rfl
    rw [renderFieldsOnto, run?_cons comma, run?_quote, run?_cons (colon _),
      h field (List.mem_cons_self ..) _ _ (ends_renderFieldsOnto after more),
      ih fun other ho => h other (List.mem_cons_of_mem _ ho)]
    simp [fieldTokens]

theorem cuts_of_exact {j : Json} (h : j.Exact) : Cuts j := by
  induction h with
  | null =>
    intro tokens after ha
    have word : word? ['l', 'l', 'u', 'n'].reverse = some .null := rfl
    exact run?_word word ha
  | bool b =>
    intro tokens after ha
    cases b with
    | true =>
      have word : word? ['e', 'u', 'r', 't'].reverse = some (.bool true) := rfl
      exact run?_word word ha
    | false =>
      have word : word? ['e', 's', 'l', 'a', 'f'].reverse = some (.bool false) := rfl
      exact run?_word word ha
  | @number n hn =>
    intro tokens after ha
    have text : (Number.integer n).render = Nat.toDigits 10 n := by
      have digits : (Nat.repr n).toList = Nat.toDigits 10 n := by
        rw [Nat.repr_eq_ofList_toDigits, String.toList_ofList]
      exact digits
    rw [ofNat, renderOnto, text]
    exact run?_toDigits hn ha
  | string s => exact fun tokens after _ => run?_quote s after
  | @array items hi ih =>
    intro tokens after ha
    cases items with
    | nil => rfl
    | cons item more =>
      have opens : step? ⟨tokens, .between⟩ '[' = some ⟨.openArray :: tokens, .between⟩ := rfl
      rw [renderOnto, run?_cons opens,
        ih item (List.mem_cons_self ..) _ _ (ends_renderItemsOnto after more),
        run?_renderItemsOnto fun other ho => ih other (List.mem_cons_of_mem _ ho)]
      simp [Json.tokens]
  | @object fields hf ih =>
    intro tokens after ha
    cases fields with
    | nil => rfl
    | cons field more =>
      have opens : step? ⟨tokens, .between⟩ '\x7b' = some ⟨.openObject :: tokens, .between⟩ := rfl
      have colon (tokens : List Token) :
          step? ⟨tokens, .between⟩ ':' = some ⟨.colon :: tokens, .between⟩ := rfl
      rw [renderOnto, run?_cons opens, run?_quote, run?_cons (colon _),
        ih field (List.mem_cons_self ..) _ _ (ends_renderFieldsOnto after more),
        run?_renderFieldsOnto fun other ho => ih other (List.mem_cons_of_mem _ ho)]
      simp [Json.tokens]

end Lexer

/-- The text of a value is cut into its tokens. -/
theorem tokens?_render {j : Json} (h : j.Exact) : tokens? (render j).toList = some j.tokens := by
  have cut := Lexer.cuts_of_exact h [] [] Lexer.ends_nil
  rw [render, String.toList_ofList]
  refine cut.trans ?_
  simp [Lexer.run?, Lexer.finish?]

end ActiveObjects.Json

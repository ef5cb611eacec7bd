import Mathlib.Data.List.Forall2
import Mathlib.Data.Option.Basic
import ActiveObjects.Text.Scan

/-!
# What scans can give

A property of all that a scan can give, whatever text it reads, and of what it gives together with
the text that it takes for it. There is one rule for each way to build scans.
-/

namespace ActiveObjects.Text.Scan

variable {α β : Type} {P : α → Prop} {Q : β → Prop} {scan other : Scan α}

/-- Whatever the scan gives has the property. -/
def Yields (scan : Scan α) (P : α → Prop) : Prop :=
  ∀ ⦃cs rest : List Char⦄ ⦃a : α⦄, scan.run cs = some (a, rest) → P a

theorem yields_trivial (scan : Scan α) : scan.Yields fun _ => True := fun _ _ _ _ => trivial

theorem yields_pure {a : α} (h : P a) : (pure a : Scan α).Yields P := by
  intro cs rest b hb
  cases hb
  exact h

theorem yields_failure : (failure : Scan α).Yields P := fun _ _ _ h => nomatch h

theorem yields_lift {found : Option α} (h : ∀ a, found = some a → P a) :
    (liftM found : Scan α).Yields P := by
  intro cs rest a ha
  obtain ⟨b, hb, ha⟩ := Option.bind_eq_some_iff.1 ha
  cases ha
  exact h a hb

theorem Yields.bind {next : α → Scan β} (h : scan.Yields P)
    (hn : ∀ a, P a → (next a).Yields Q) : (scan >>= next).Yields Q := by
  intro cs rest b hb
  obtain ⟨⟨a, left⟩, ha, hb⟩ := Option.bind_eq_some_iff.1 hb
  exact hn a (h ha) hb

/-- What comes first does not matter, as long as all that follows has the property. -/
theorem yields_bind {next : α → Scan β} (h : ∀ a, (next a).Yields Q) : (scan >>= next).Yields Q :=
  (yields_trivial scan).bind fun a _ => h a

theorem Yields.orElse (h : scan.Yields P) (ho : other.Yields P) :
    (scan <|> other).Yields P := by
  intro cs rest a ha
  cases hs : scan.run cs with
  | some found =>
    have ha : scan.run cs = some (a, rest) := by
      rw [hs, ← ha]
      exact (congrArg (· <|> other.run cs) hs).symm
    exact h ha
  | none => exact ho ((congrArg (· <|> other.run cs) hs).symm.trans ha)

theorem Yields.optional (h : scan.Yields P) :
    (optional scan).Yields fun found => ∀ a ∈ found, P a :=
  .orElse (h.bind fun a ha => yields_pure (by simpa using ha)) (yields_pure (by simp))

theorem Yields.upTo (h : scan.Yields P) (limit : Nat) :
    (upTo scan limit).Yields fun found => ∀ a ∈ found, P a := by
  induction limit with
  | zero => exact yields_pure (by simp)
  | succ limit ih =>
    refine h.optional.bind fun found hf => ?_
    cases found with
    | none => exact yields_pure (by simp)
    | some a => exact ih.bind fun more hm => yields_pure (List.forall_mem_cons.2 ⟨hf a rfl, hm⟩)

theorem Yields.many (h : scan.Yields P) : (many scan).Yields fun found => ∀ a ∈ found, P a :=
  yields_bind fun text => h.upTo text.length

theorem Yields.listUpTo {close : Char} {gap : Scan Unit} (h : scan.Yields P) (limit : Nat) :
    (listUpTo close gap scan limit).Yields fun found => ∀ a ∈ found, P a := by
  induction limit with
  | zero => exact yields_failure
  | succ limit ih =>
    refine yields_bind fun _ => yields_bind fun closed => ?_
    split
    · exact yields_pure (by simp)
    · refine h.bind fun a ha => yields_bind fun _ => yields_bind fun comma => ?_
      split
      · exact ih.bind fun more hm => yields_pure (List.forall_mem_cons.2 ⟨ha, hm⟩)
      · exact yields_bind fun _ => yields_pure (by simpa using ha)

theorem Yields.list {close : Char} {gap : Scan Unit} (h : scan.Yields P) :
    (list close gap scan).Yields fun found => ∀ a ∈ found, P a :=
  yields_bind fun text => h.listUpTo (text.length + 1)

/-- So it is when all of a text is read. -/
theorem Yields.all? (h : scan.Yields P) {cs : List Char} {a : α} (ha : all? scan cs = some a) :
    P a := by
  obtain ⟨⟨b, rest⟩, hb, rfl⟩ := Option.map_eq_some_iff.1 ha
  exact h.bind (fun a ha => yields_bind fun _ => yields_pure ha) hb

/-! ## What is taken for it -/

section

variable {R : List Char → α → Prop} {S : List Char → β → Prop}

/-- The scan takes something off the front, which stands in a relation to what it gives. -/
def Takes (scan : Scan α) (R : List Char → α → Prop) : Prop :=
  ∀ ⦃cs rest : List Char⦄ ⦃a : α⦄, scan.run cs = some (a, rest) →
    ∃ taken, cs = taken ++ rest ∧ R taken a

theorem takes_pure {a : α} (h : R [] a) : (pure a : Scan α).Takes R := by
  intro cs rest b hb
  cases hb
  exact ⟨[], rfl, h⟩

theorem takes_lift (found : Option α) : (liftM found : Scan α).Takes fun taken _ => taken = [] := by
  intro cs rest a ha
  obtain ⟨b, -, ha⟩ := Option.bind_eq_some_iff.1 ha
  cases ha
  exact ⟨[], rfl, rfl⟩

theorem takes_guard (p : Prop) [Decidable p] :
    (guard p : Scan Unit).Takes fun taken _ => taken = [] := by
  unfold guard
  split
  · exact takes_pure rfl
  · exact fun _ _ _ h => nomatch h

theorem Takes.bind {next : α → Scan β} (h : scan.Takes R)
    (hn : ∀ taken a, R taken a → (next a).Takes fun more b => S (taken ++ more) b) :
    (scan >>= next).Takes S := by
  intro cs rest b hrun
  obtain ⟨⟨a, left⟩, ha, hb⟩ := Option.bind_eq_some_iff.1 hrun
  obtain ⟨taken, rfl, first⟩ := h ha
  obtain ⟨more, rfl, all⟩ := hn taken a first hb
  exact ⟨taken ++ more, (List.append_assoc ..).symm, all⟩

theorem Takes.mono {R' : List Char → α → Prop} (h : scan.Takes R)
    (hr : ∀ taken a, R taken a → R' taken a) : scan.Takes R' := by
  intro cs rest a ha
  obtain ⟨taken, heq, first⟩ := h ha
  exact ⟨taken, heq, hr taken a first⟩

theorem Takes.orElse (h : scan.Takes R) (ho : other.Takes R) : (scan <|> other).Takes R := by
  intro cs rest a ha
  cases hs : scan.run cs with
  | some found =>
    have ha : scan.run cs = some (a, rest) := by
      rw [hs, ← ha]
      exact (congrArg (· <|> other.run cs) hs).symm
    exact h ha
  | none => exact ho ((congrArg (· <|> other.run cs) hs).symm.trans ha)

theorem takes_char (p : Char → Bool) : (char p).Takes fun taken c => taken = [c] := by
  intro cs rest c hc
  cases cs with
  | nil => cases hc
  | cons first cs =>
    have hc : (if p first then some (first, cs) else none) = some (c, rest) := hc
    split at hc <;> cases hc
    exact ⟨[c], rfl, rfl⟩

theorem takes_exactly (c : Char) : (exactly c).Takes fun taken _ => taken = [c] := by
  intro cs rest u hu
  obtain ⟨⟨found, left⟩, hf, hu⟩ := Option.bind_eq_some_iff.1 hu
  cases hu
  obtain ⟨taken, rfl, rfl⟩ := takes_char _ hf
  have hf : (if found == c then some (found, rest) else none) = some (found, rest) := hf
  split at hf
  · rename_i same
    exact ⟨[found], rfl, by rw [eq_of_beq same]⟩
  · cases hf

theorem takes_chars (p : Char → Bool) : (chars p).Takes fun taken found => taken = found := by
  intro cs rest found h
  cases h
  exact ⟨_, List.takeWhile_append_dropWhile.symm, rfl⟩

theorem takes_chars₁ (p : Char → Bool) : (chars₁ p).Takes fun taken found => taken = found := by
  refine (takes_chars p).bind fun taken found first => (takes_guard _).bind fun none _ hn => ?_
  exact takes_pure (by rw [hn, List.append_nil, List.append_nil, first])

theorem Takes.optional (h : scan.Takes R) :
    (Scan.optional scan).Takes fun taken found => match found with
      | some a => R taken a
      | none => taken = [] :=
  .orElse (h.bind fun taken a first => takes_pure (by rwa [List.append_nil])) (takes_pure rfl)

theorem Takes.upTo (h : scan.Takes R) (limit : Nat) :
    (Scan.upTo scan limit).Takes fun taken found =>
      ∃ pieces, taken = pieces.flatten ∧ List.Forall₂ R pieces found := by
  induction limit with
  | zero => exact takes_pure ⟨[], rfl, .nil⟩
  | succ limit ih =>
    refine h.optional.bind fun taken found first => ?_
    cases found with
    | none =>
      obtain rfl : taken = [] := first
      exact takes_pure ⟨[], rfl, .nil⟩
    | some a =>
      refine ih.bind fun more others ⟨pieces, hm, all⟩ => takes_pure ⟨taken :: pieces, ?_, ?_⟩
      · rw [hm, List.append_nil, List.flatten_cons]
      · exact .cons first all

theorem Takes.many (h : scan.Takes R) :
    (Scan.many scan).Takes fun taken found =>
      ∃ pieces, taken = pieces.flatten ∧ List.Forall₂ R pieces found :=
  fun cs _ _ hf => h.upTo cs.length hf

/-- When all of a text is read, all of it is taken. -/
theorem Takes.all? (h : scan.Takes R) {cs : List Char} {a : α}
    (ha : Scan.all? scan cs = some a) : R cs a := by
  obtain ⟨⟨b, rest⟩, hb, rfl⟩ := Option.map_eq_some_iff.1 ha
  obtain ⟨⟨b, left⟩, hb, hrest⟩ := Option.bind_eq_some_iff.1 hb
  obtain ⟨taken, rfl, first⟩ := h hb
  cases left with
  | nil =>
    cases hrest
    rwa [List.append_nil]
  | cons c left => cases hrest

end

/-! ## Runs -/

/-- A class takes a text all of whose characters belong to it. -/
theorem run_chars₁ {p : Char → Bool} {cs : List Char} (h : ∀ c ∈ cs, p c) (hn : cs ≠ []) :
    (chars₁ p).run cs = some (cs, []) := by
  have taken : cs.takeWhile p = cs := by
    rw [← List.append_nil cs, List.takeWhile_append_of_pos h]
    rfl
  have left : cs.dropWhile p = [] := by
    rw [← List.append_nil cs, List.dropWhile_append_of_pos h]
    rfl
  have found : (chars p).run cs = some (cs, []) := congrArg some (Prod.ext taken left)
  have passed : (guard (cs ≠ []) : Scan Unit) = pure () := if_pos hn
  simp [chars₁, found, passed]

end ActiveObjects.Text.Scan

import ActiveObjects.Proofs.Text.Padded
import ActiveObjects.Proofs.Text.Split
import ActiveObjects.Timestamp

/-!
# Instants written and read

The text of an instant is read back as that instant, in whatever year it is.
-/

namespace ActiveObjects.Timestamp

open Text

variable {cs rest : List Char} {n width : Nat}

/-! ## Parts of the text -/

theorem isBlank_of_isDigit {c : Char} (h : c.isDigit) : isBlank c = false := by
  have bounds : 48 ≤ c.toNat ∧ c.toNat ≤ 57 := by
    simpa [Char.isDigit, UInt32.le_iff_toNat_le] using h
  simp only [isBlank, Bool.or_eq_false_iff, Bool.and_eq_false_iff, decide_eq_false_iff_not,
    beq_eq_false_iff_ne]
  omega

theorem skipBlanks_cons {c : Char} (h : isBlank c = false) : skipBlanks (c :: rest) = c :: rest :=
  List.dropWhile_cons_of_neg (by simp [h])

theorem skipBlanks_digits (h : ∀ c ∈ cs, c.isDigit) (hne : cs ≠ []) :
    skipBlanks (cs ++ rest) = cs ++ rest := by
  obtain ⟨c, more, rfl⟩ := List.exists_cons_of_ne_nil hne
  exact skipBlanks_cons (isBlank_of_isDigit (h c (List.mem_cons_self ..)))

/-- A number of full width is read whatever follows it. -/
theorem number?_padDecimal (hw : 0 < width) (hn : n < 10 ^ width) (rest : List Char) :
    number? width (padDecimal width n ++ rest) = some (n, rest) := by
  have digits : ∀ c ∈ padDecimal width n, c.isDigit := fun c => isDigit_of_mem_padDecimal
  have length := length_padDecimal hw hn
  have front : ((padDecimal width n ++ rest).takeWhile Char.isDigit).take width =
      padDecimal width n := by
    rw [List.takeWhile_append_of_pos digits, List.take_append_of_le_length length.ge]
    exact List.take_of_length_le length.le
  rw [number?, skipBlanks_digits digits padDecimal_ne_nil, front, if_neg padDecimal_ne_nil,
    readDecimal?_padDecimal, Option.map_some, List.drop_left]

theorem mark?_cons {mark : Char} (h : isBlank mark = false) (rest : List Char) :
    mark? mark (mark :: rest) = some rest := by
  rw [mark?, skipBlanks_cons h]
  exact if_pos rfl

theorem year?_yearText (year : Int) (rest : List Char) :
    year? (yearText year ++ '-' :: rest) = some (year, '-' :: rest) := by
  have digits : ∀ c ∈ padDecimal 4 year.natAbs, c.isDigit := fun c => isDigit_of_mem_padDecimal
  have cut : ((padDecimal 4 year.natAbs ++ '-' :: rest).takeWhile Char.isDigit) =
      padDecimal 4 year.natAbs := takeWhile_append_cons digits (by decide)
  have read : readDecimal? (padDecimal 4 year.natAbs) = some year.natAbs :=
    readDecimal?_padDecimal 4 year.natAbs
  unfold yearText
  split
  · rename_i h
    have four : number? 4 (padDecimal 4 year.natAbs ++ '-' :: rest) =
        some (year.natAbs, '-' :: rest) := number?_padDecimal (by omega) (by omega) _
    have natAbs : (year.natAbs : Int) = year := by omega
    obtain ⟨c, more, hcons⟩ := List.exists_cons_of_ne_nil (@padDecimal_ne_nil 4 year.natAbs)
    have digit : c.isDigit := digits c (by simp [hcons])
    rw [year?, skipBlanks_digits digits padDecimal_ne_nil]
    rw [hcons, List.cons_append] at four ⊢
    split
    · rename_i heq
      cases heq
      cases digit
    · rename_i heq
      cases heq
      cases digit
    · rw [four]
      exact congrArg (fun n => some (n, '-' :: rest)) natAbs
  · by_cases neg : year < 0
    · have value : -1 * (year.natAbs : Int) = year := by omega
      rw [if_pos neg, List.cons_append, year?, skipBlanks_cons (by decide)]
      simp only [cut, if_neg padDecimal_ne_nil, read, List.drop_left]
      exact congrArg (fun n => some (n, '-' :: rest)) value
    · have value : 1 * (year.natAbs : Int) = year := by omega
      rw [if_neg neg, List.cons_append, year?, skipBlanks_cons (by decide)]
      simp only [cut, if_neg padDecimal_ne_nil, read, List.drop_left]
      exact congrArg (fun n => some (n, '-' :: rest)) value

/-- Digits after the point that count all. -/
theorem fraction?_padDecimal (hw : 0 < width) (hle : width ≤ 9) (hn : n < 10 ^ width) :
    fraction? ('.' :: padDecimal width n ++ ['Z']) = some (n * 10 ^ (9 - width), ['Z']) := by
  have cut : ((padDecimal width n ++ ['Z']).takeWhile Char.isDigit) = padDecimal width n :=
    takeWhile_append_cons (fun _ => isDigit_of_mem_padDecimal) (by decide)
  have length := length_padDecimal hw hn
  have counted : (padDecimal width n).take 9 = padDecimal width n :=
    List.take_of_length_le (length.le.trans hle)
  rw [List.cons_append, fraction?]
  have rest : (padDecimal width n ++ ['Z']).drop (padDecimal width n).length = ['Z'] :=
    List.drop_left
  simp only [cut, if_neg padDecimal_ne_nil, counted, readDecimal?_padDecimal, Option.map_some,
    rest]
  rw [length]
  rfl

theorem fraction?_fractionText {nanosecond : Nat} (h : nanosecond < 1000000000) :
    fraction? (fractionText nanosecond ++ ['Z']) = some (nanosecond, ['Z']) := by
  unfold fractionText
  split
  · rename_i whole
    rw [whole]
    rfl
  split
  · rename_i milli
    rw [fraction?_padDecimal (by omega) (by omega) (by omega)]
    simp only [Option.some.injEq, Prod.mk.injEq, and_true]
    omega
  split
  · rename_i micro
    rw [fraction?_padDecimal (by omega) (by omega) (by omega)]
    simp only [Option.some.injEq, Prod.mk.injEq, and_true]
    omega
  · rw [fraction?_padDecimal (by omega) (by omega) (by omega)]
    simp

/-! ## The whole -/

/-- The bounds of the fields. -/
theorem bounds (t : Timestamp) : t.month ≤ 12 ∧ t.day ≤ 31 ∧ t.hour ≤ 23 ∧ t.minute ≤ 59 ∧
    t.second ≤ 60 ∧ t.nanosecond < 1000000000 := by
  have proper := t.proper
  simp only [isProper, Bool.and_eq_true, decide_eq_true_eq] at proper
  have days : daysIn t.year t.month ≤ 31 := by
    unfold daysIn
    split
    · split <;> omega
    · split <;> omega
  omega

theorem atOffset?_zero (t : Timestamp) :
    atOffset? t.year t.month t.day t.hour t.minute t.second t.nanosecond 0 = some t := by
  obtain ⟨-, -, hour, minute, -, -⟩ := t.bounds
  have minutes : (60 * (t.hour : Int) + t.minute - 0) = (60 * t.hour + t.minute : Nat) := by omega
  have left : ((60 * t.hour + t.minute : Nat) % 1440 : Int).toNat = 60 * t.hour + t.minute := by
    omega
  have hours : (60 * t.hour + t.minute) / 60 = t.hour := by omega
  have rest : (60 * t.hour + t.minute) % 60 = t.minute := by omega
  have early : ¬ ((60 * t.hour + t.minute : Nat) : Int) < 0 := by omega
  have late : ¬ (1440 : Int) ≤ ((60 * t.hour + t.minute : Nat) : Int) := by omega
  unfold atOffset?
  simp only [minutes, left, hours, rest, if_neg early, if_neg late, t.proper, if_true, dite_true]

/-- An instant is read back from its text. -/
theorem parse?_render (t : Timestamp) : parse? t.render = some t := by
  obtain ⟨month, day, hour, minute, second, nanosecond⟩ := t.bounds
  have text : t.render.toList = yearText t.year ++ '-' :: (padDecimal 2 t.month ++
      '-' :: (padDecimal 2 t.day ++ 'T' :: (padDecimal 2 t.hour ++ ':' :: (padDecimal 2 t.minute ++
      ':' :: (padDecimal 2 t.second ++ (fractionText t.nanosecond ++ ['Z'])))))) := by
    rw [render, String.toList_ofList]
    simp
  have two {n : Nat} (hn : n < 10 ^ 2) :
      ∀ rest, number? 2 (padDecimal 2 n ++ rest) = some (n, rest) :=
    number?_padDecimal (by omega) hn
  have dash : ∀ rest, mark? '-' ('-' :: rest) = some rest := mark?_cons (by decide)
  have colon : ∀ rest, mark? ':' (':' :: rest) = some rest := mark?_cons (by decide)
  have zone : offset? (skipBlanks ['Z']) = some (0, []) := rfl
  have done : skipBlanks [] = [] ∧ (0 : Int).natAbs < 1440 := ⟨rfl, by decide⟩
  have apart : isDateEnd 'T' = true := rfl
  rw [parse?, text, year?_yearText]
  dsimp only [Option.bind_eq_bind, Option.bind_some]
  rw [dash, Option.bind_some, two (by omega : t.month < 10 ^ 2), Option.bind_some, dash,
    Option.bind_some, two (by omega : t.day < 10 ^ 2), Option.bind_some]
  dsimp only
  rw [if_pos apart, two (by omega : t.hour < 10 ^ 2), Option.bind_some, colon,
    Option.bind_some, two (by omega : t.minute < 10 ^ 2), Option.bind_some, colon,
    Option.bind_some, two (by omega : t.second < 10 ^ 2), Option.bind_some,
    fraction?_fractionText nanosecond, Option.bind_some, zone, Option.bind_some]
  dsimp only
  rw [guard, if_pos done]
  exact t.atOffset?_zero

end ActiveObjects.Timestamp

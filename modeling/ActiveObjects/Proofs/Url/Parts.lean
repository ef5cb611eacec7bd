import ActiveObjects.Proofs.Address.Ipv6
import ActiveObjects.Proofs.Text.Utf8
import ActiveObjects.Url.Parse

/-!
# Valid parts of a URL

What tags, hosts and names may look like, in the form in which a reader meets them: which
characters they hold, and which marks of a URL they cannot be taken for.
-/

namespace ActiveObjects

/-- A property of the ASCII characters, seen one by one. -/
theorem forall_ascii {P : Char → Prop} (h : ∀ n < 0x80, P (Char.ofNat n)) {c : Char}
    (hc : c.toNat < 0x80) : P c := by
  simpa using h c.toNat hc

theorem toNat_lt_of_isAlphanum {c : Char} (h : c.isAlphanum) : c.toNat < 0x80 := by
  -- a capital letter, a small one or a digit, each up to the last one of its kind
  have below (last : Char) (hl : last.toNat < 0x80) (h : c.val ≤ last.val) : c.toNat < 0x80 :=
    Nat.lt_of_le_of_lt (UInt32.le_iff_toNat_le.1 h) hl
  rcases Bool.or_eq_true_iff.1 h with h | h
  · rcases Bool.or_eq_true_iff.1 h with h | h
    · exact below 'Z' (by decide) (of_decide_eq_true h).2
    · exact below 'z' (by decide) (of_decide_eq_true (Bool.and_eq_true_iff.1 h).2)
  · exact Nat.lt_of_le_of_lt (Char.isDigit_iff_toNat.1 h).2 (by decide)

theorem toList_lowerCase (s : String) : (lowerCase s).toList = s.toList.map Char.toLower :=
  String.toList_ofList

namespace Url

open Text

variable {tag host name : String} {c : Char}

/-! ## Characters -/

/-- What a character of a tag, a host or a name may be without being taken for a mark between two
parts of a URL: it is no blank, and ends neither user info nor an authority. -/
structure Inner (c : Char) : Prop where
  visible : 0x20 < c.toNat
  notEnd : ¬ isAuthorityEnd true c
  notAt : c ≠ '@'

instance (c : Char) : Decidable (Inner c) :=
  decidable_of_iff (0x20 < c.toNat ∧ ¬ isAuthorityEnd true c ∧ c ≠ '@')
    ⟨fun h => ⟨h.1, h.2.1, h.2.2⟩, fun h => ⟨h.visible, h.notEnd, h.notAt⟩⟩

theorem Inner.not_isAuthorityEnd (h : Inner c) (special : Bool) : ¬ isAuthorityEnd special c := by
  intro he
  apply h.notEnd
  unfold isAuthorityEnd at *
  cases special <;> simp_all

/-- Characters of a host without brackets. -/
def isHostChar (c : Char) : Bool := c.isAlphanum || c == '-' || c == '.'

theorem toNat_lt_of_isHostChar (h : isHostChar c) : c.toNat < 0x80 := by
  simp only [isHostChar, Bool.or_eq_true, beq_iff_eq] at h
  rcases h with (h | rfl) | rfl
  · exact toNat_lt_of_isAlphanum h
  · decide
  · decide

theorem toNat_lt_of_isTagChar (h : isTagChar c) : c.toNat < 0x80 := by
  simp only [isTagChar, Bool.or_eq_true, beq_iff_eq] at h
  rcases h with ((h | rfl) | rfl) | rfl
  · exact toNat_lt_of_isAlphanum h
  all_goals decide

theorem toNat_lt_of_isAddressChar (h : Ipv6.isAddressChar c) : c.toNat < 0x80 := by
  by_contra hc
  have hd : ¬ c.isDigit := by
    intro hd
    exact hc (toNat_lt_of_isAlphanum (by simp [Char.isAlphanum, hd]))
  have hle : ∀ d : Char, d.toNat < 0x80 → ¬ c ≤ d := by
    intro d hd hcd
    exact hc (Nat.lt_of_le_of_lt hcd hd)
  have hcolon : c ≠ ':' := by
    rintro rfl
    exact hc (by decide)
  have hdot : c ≠ '.' := by
    rintro rfl
    exact hc (by decide)
  simp [Ipv6.isAddressChar, hexValue?, hd, hcolon, hdot, hle 'f' (by decide),
    hle 'F' (by decide)] at h

theorem inner_of_isTagChar (h : isTagChar c) : Inner c ∧ c ≠ ':' :=
  forall_ascii (P := fun c => isTagChar c → Inner c ∧ c ≠ ':') (by decide +kernel)
    (toNat_lt_of_isTagChar h) h

theorem inner_of_isHostChar (h : isHostChar c) : Inner c :=
  forall_ascii (P := fun c => isHostChar c → Inner c) (by decide +kernel)
    (toNat_lt_of_isHostChar h) h

/-- The marks of a host are no characters of one. -/
theorem isHostChar_marks (h : isHostChar c) : c ≠ ':' ∧ c ≠ '[' ∧ c ≠ ']' ∧ c ≠ '%' :=
  forall_ascii (P := fun c => isHostChar c → c ≠ ':' ∧ c ≠ '[' ∧ c ≠ ']' ∧ c ≠ '%')
    (by decide +kernel) (toNat_lt_of_isHostChar h) h

theorem inner_of_isAddressChar (h : Ipv6.isAddressChar c) : Inner c ∧ c ≠ '[' ∧ c ≠ ']' :=
  forall_ascii (P := fun c => Ipv6.isAddressChar c → Inner c ∧ c ≠ '[' ∧ c ≠ ']')
    (by decide +kernel) (toNat_lt_of_isAddressChar h) h

theorem not_isReserved_of_not_isNameExcluded (h : ¬ isNameExcluded c) : ¬ isReserved c := by
  intro hr
  exact h (by simp [isNameExcluded, hr])

/-- A character of a name is visible, and none that a URL is divided at. -/
theorem inner_of_not_isNameExcluded (h : ¬ isNameExcluded c) : Inner c := by
  have hr := not_isReserved_of_not_isNameExcluded h
  refine ⟨?_, ?_, ?_⟩
  · by_contra hv
    apply h
    have hlt : c.toNat < 0x20 ∨ c.toNat = 0x20 := by omega
    rcases hlt with hlt | heq
    · simp [isNameExcluded, isControl, hlt]
    · simp [isNameExcluded, isBlank, heq]
  · intro he
    simp only [isAuthorityEnd, Bool.true_and, Bool.or_eq_true, beq_iff_eq] at he
    rcases he with ((rfl | rfl) | rfl) | rfl <;> exact hr (by decide)
  · rintro rfl
    exact hr (by decide)

/-! ## Tags, hosts and names -/

theorem tagFault?_eq_none_iff :
    tagFault? tag = none ↔
      ∃ c rest, tag.toList = c :: rest ∧ c.isAlpha ∧ ∀ d ∈ rest, isTagChar d := by
  unfold tagFault?
  cases tag.toList with
  | nil => simp
  | cons c rest =>
    by_cases hc : c.isAlpha
    · simp [hc]
    · simp [hc]

theorem bracketed?_eq_some_iff {cs literal : List Char} :
    bracketed? cs = some literal ↔ cs = '[' :: (literal ++ [']']) := by
  unfold bracketed?
  constructor
  · intro h
    obtain ⟨rest, hr, hl⟩ := Option.bind_eq_some_iff.1 h
    rw [after?_eq_some_iff.1 hr, beforeLast?_eq_some_iff.1 hl]
    rfl
  · rintro rfl
    exact Option.bind_eq_some_iff.2
      ⟨_, after?_eq_some_iff.2 rfl, beforeLast?_eq_some_iff.2 rfl⟩

theorem bracketed?_eq_none {cs : List Char} (h : cs.head? ≠ some '[') : bracketed? cs = none := by
  cases hb : bracketed? cs with
  | none => rfl
  | some literal =>
    rw [bracketed?_eq_some_iff.1 hb] at h
    exact absurd rfl h

theorem hostFault?_eq_none_iff :
    hostFault? host = none ↔
      (∃ literal, bracketed? host.toList = some literal ∧ (Ipv6.parse? literal).isSome) ∨
        (bracketed? host.toList = none ∧ host.toList ≠ [] ∧
          ∀ c ∈ host.toList, isHostChar c) := by
  unfold hostFault?
  by_cases he : host.toList = []
  · simp [he, bracketed?, after?]
  · have hall : (host.toList.all fun c => c.isAlphanum || c == '-' || c == '.') =
        host.toList.all isHostChar := rfl
    rw [if_neg he, hall]
    cases hb : bracketed? host.toList with
    | none => simp [he]
    | some literal => simp [Option.isSome_iff_ne_none]

/-- A valid host without brackets is made of host characters. -/
theorem isHostChar_of_mem (h : hostFault? host = none) (hb : bracketed? host.toList = none) :
    ∀ c ∈ host.toList, isHostChar c := by
  rcases hostFault?_eq_none_iff.1 h with ⟨literal, hl, -⟩ | ⟨-, -, hall⟩
  · rw [hb] at hl
    cases hl
  · exact hall

theorem nameFault?_eq_none_iff :
    nameFault? name = none ↔
      name.toList ≠ [] ∧ (name ≠ "." ∧ name ≠ "..") ∧ ∀ c ∈ name.toList, ¬ isNameExcluded c := by
  unfold nameFault?
  by_cases he : name.toList = []
  · simp [he]
  rw [if_neg he]
  by_cases hd : name = "." ∨ name = ".."
  · rw [if_pos hd]
    tauto
  · simp only [if_neg hd, ite_eq_right_iff, List.any_eq_true, reduceCtorEq, imp_false, not_exists,
      not_and]
    exact ⟨fun h => ⟨he, not_or.1 hd, h⟩, fun h => h.2.2⟩

theorem partsFault?_eq_none_iff :
    partsFault? tag host name = none ↔
      tagFault? tag = none ∧ hostFault? host = none ∧ nameFault? name = none := by
  simp [partsFault?, Option.or_eq_none_iff]

/-- A host holds nothing that ends it early. -/
theorem inner_of_mem_host (h : hostFault? host = none) : ∀ c ∈ host.toList, Inner c := by
  rcases hostFault?_eq_none_iff.1 h with ⟨literal, hb, hs⟩ | ⟨-, -, hall⟩
  · obtain ⟨x, hx⟩ := Option.isSome_iff_exists.1 hs
    rw [bracketed?_eq_some_iff.1 hb]
    intro c hc
    simp only [List.mem_cons, List.mem_append, List.not_mem_nil, or_false] at hc
    rcases hc with rfl | hc | rfl
    · decide
    · exact (inner_of_isAddressChar (Ipv6.isAddressChar_of_parse? hx c hc)).1
    · decide
  · exact fun c hc => inner_of_isHostChar (hall c hc)

theorem host_ne_nil (h : hostFault? host = none) : host.toList ≠ [] := by
  intro he
  simp [hostFault?, he] at h

theorem slash_notMem_name (u : Url) : '/' ∉ u.name.toList := fun h =>
  (nameFault?_eq_none_iff.1 (partsFault?_eq_none_iff.1 u.noFault).2.2).2.2 '/' h (by decide)

/-! ## New URLs -/

/-- Which URL comes of given parts. -/
theorem new_eq_ok_iff {port : UInt16} {u : Url} :
    new tag host port name = .ok u ↔
      lowerCase tag = u.tag ∧ lowerCase host = u.host ∧ port = u.port ∧ name = u.name := by
  obtain ⟨utag, uhost, uport, uname, ht, hh, hf⟩ := u
  unfold new
  constructor
  · intro h
    split at h
    · cases h
    · cases h
      exact ⟨rfl, rfl, rfl, rfl⟩
  · rintro ⟨rfl, rfl, rfl, rfl⟩
    split
    · rename_i fault hfault
      rw [hf] at hfault
      cases hfault
    · rfl

/-! ## Escapes -/

theorem percentDecode_eq_self {bs : List UInt8} (h : ∀ b ∈ bs, b ≠ 0x25) :
    percentDecode bs = bs := by
  fun_induction percentDecode bs with
  | case1 => rfl
  | case2 a b rest x y hx hy ih => exact absurd rfl (h 0x25 (List.mem_cons_self ..))
  | case3 a b rest hn ih => exact absurd rfl (h 0x25 (List.mem_cons_self ..))
  | case4 a rest hne ih => rw [ih fun b hb => h b (List.mem_cons_of_mem _ hb)]

/-- A text without percent signs stands for itself. -/
theorem percentDecodeText?_eq_self {cs : List Char} (h : '%' ∉ cs) :
    percentDecodeText? cs = some cs := by
  have hb : ∀ b ∈ Utf8.encode cs, b ≠ 0x25 := by
    rintro b hb rfl
    obtain ⟨c, hc, hn⟩ := Utf8.exists_of_mem_encode hb (by decide)
    have hpercent : c = '%' := by
      rw [← Char.ofNat_toNat c, hn]
      rfl
    exact h (hpercent ▸ hc)
  rw [percentDecodeText?, percentDecode_eq_self hb, Utf8.decode_encode]

theorem percentEncodeControls_eq_self {cs : List Char}
    (h : ∀ c ∈ cs, 0x20 ≤ c.toNat ∧ c.toNat < 0x7F) : percentEncodeControls cs = cs := by
  induction cs with
  | nil => rfl
  | cons c cs ih =>
    have hcs := ih fun d hd => h d (List.mem_cons_of_mem _ hd)
    unfold percentEncodeControls at *
    rw [List.flatMap_cons, if_pos (h c (List.mem_cons_self ..)), hcs]
    rfl

end Url

end ActiveObjects

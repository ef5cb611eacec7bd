import Mathlib.Data.List.TakeWhile
import Mathlib.Data.Option.Basic
import ActiveObjects.Address.Ipv6
import ActiveObjects.Proofs.Text.Digits
import ActiveObjects.Proofs.Text.Split

/-!
# IPv6 addresses written and read

An address is read back from its groups, whether or not a run of zeros is left out. Whatever reads
as an address holds hexadecimal digits, colons and dots only.
-/

namespace ActiveObjects.Ipv6

open Text

/-! ## Groups -/

theorem isSome_hexValue?_of_mem_hexNumber {n : Nat} {c : Char} (h : c ∈ hexNumber n) :
    (hexValue? c).isSome :=
  isSome_hexValue?_of_mem_readHex? (readHex?_hexNumber n) c h

theorem colon_notMem_hexNumber (n : Nat) : ':' ∉ hexNumber n := fun h =>
  absurd (isSome_hexValue?_of_mem_hexNumber h) (by decide)

theorem group?_hexNumber (g : UInt16) : group? (hexNumber g.toNat) = some g := by
  have hne : hexNumber g.toNat ≠ [] := Nat.toDigits_ne_nil
  have hlength : (hexNumber g.toNat).length ≤ 4 :=
    (Nat.length_toDigits_le_iff (by omega) (by omega)).2 g.toNat_lt
  rw [group?, if_pos ⟨hne, hlength⟩, readHex?_hexNumber, Option.map_some, UInt16.ofNat_toNat]

theorem groupsOfPieces?_hexNumber (quadAllowed : Bool) (groups : List UInt16) :
    groupsOfPieces? quadAllowed (groups.map fun g => hexNumber g.toNat) = some groups := by
  induction groups with
  | nil => rfl
  | cons g more ih =>
    cases more with
    | nil => simp [groupsOfPieces?, group?_hexNumber]
    | cons next rest =>
      simp only [List.map_cons] at ih ⊢
      simp [groupsOfPieces?, group?_hexNumber, ih]

/-- A run of groups starts with a digit. -/
theorem exists_colonSeparated_cons (g : UInt16) (more : List UInt16) :
    ∃ c rest, c ≠ ':' ∧ colonSeparated (g :: more) = c :: rest := by
  have hg := colon_notMem_hexNumber g.toNat
  cases hd : hexNumber g.toNat with
  | nil => exact absurd hd Nat.toDigits_ne_nil
  | cons c digits =>
    rw [hd] at hg
    have hc : c ≠ ':' := fun h => hg (h ▸ List.mem_cons_self ..)
    cases more with
    | nil => exact ⟨c, digits, hc, hd⟩
    | cons next rest => exact ⟨c, _, hc, by simp [colonSeparated, join, hd]; rfl⟩

/-- A run of groups is read back. -/
theorem run?_colonSeparated (quadAllowed : Bool) (groups : List UInt16) :
    run? quadAllowed (colonSeparated groups) = some groups := by
  cases groups with
  | nil => rfl
  | cons g more =>
    have hne : colonSeparated (g :: more) ≠ [] := by
      obtain ⟨c, rest, -, he⟩ := exists_colonSeparated_cons g more
      simp [he]
    have hcolon : ∀ piece ∈ (g :: more).map fun g => hexNumber g.toNat, ':' ∉ piece := by
      intro piece hp
      obtain ⟨g, -, rfl⟩ := List.mem_map.1 hp
      exact colon_notMem_hexNumber _
    have hpieces := pieces_join (by simp) hcolon
    rw [run?, if_neg hne, colonSeparated, hpieces, groupsOfPieces?_hexNumber]

/-- Between groups there are single colons only. -/
theorem cutAt?_colonSeparated_append (groups : List UInt16) (rest : List Char) :
    cutAt? [':', ':'] (colonSeparated groups ++ rest) =
      (cutAt? [':', ':'] rest).map fun (before, after) =>
        (colonSeparated groups ++ before, after) := by
  induction groups with
  | nil => simp [colonSeparated, join]
  | cons g more ih =>
    cases more with
    | nil => exact cutAt?_append (colon_notMem_hexNumber g.toNat)
    | cons next rest' =>
      have hcut : colonSeparated (g :: next :: rest') =
          hexNumber g.toNat ++ ':' :: colonSeparated (next :: rest') := by
        simp [colonSeparated, join]
      have hsingle : ¬ [':', ':'].isPrefixOf
          (':' :: (colonSeparated (next :: rest') ++ rest)) := by
        obtain ⟨c, tail, hc, he⟩ := exists_colonSeparated_cons next rest'
        simp [he, hc.symm]
      rw [hcut, List.append_assoc, cutAt?_append (colon_notMem_hexNumber _), List.cons_append,
        cutAt?, if_neg hsingle, ih]
      cases cutAt? [':', ':'] rest <;> simp

/-! ## The longest run of zeros -/

theorem takeWhile_eq_replicate (groups : List UInt16) :
    groups.takeWhile (· == 0) = List.replicate (zeroRun groups) 0 :=
  List.eq_replicate_iff.2 ⟨rfl, fun _ hg => by simpa using List.mem_takeWhile_imp hg⟩

/-- The longest run of zeros stands where it is said to stand. -/
theorem longestZeros_spec (start : Nat) (groups : List UInt16) :
    ∃ front back,
      groups = front ++ List.replicate (longestZeros start groups).2 0 ++ back ∧
      (longestZeros start groups).1 = start + front.length := by
  induction groups generalizing start with
  | nil => exact ⟨[], [], rfl, rfl⟩
  | cons g more ih =>
    unfold longestZeros
    by_cases hle : (longestZeros (start + 1) more).2 ≤ zeroRun (g :: more)
    · refine ⟨[], (g :: more).dropWhile (· == 0), ?_, ?_⟩
      · rw [if_pos hle, List.nil_append, ← takeWhile_eq_replicate, List.takeWhile_append_dropWhile]
      · rw [if_pos hle]
        rfl
    · obtain ⟨front, back, hmore, hstart⟩ := ih (start + 1)
      refine ⟨g :: front, back, ?_, ?_⟩
      · rw [if_neg hle, List.cons_append, List.cons_append, ← hmore]
      · rw [if_neg hle, hstart, List.length_cons]
        omega

/-! ## Whole addresses -/

theorem ofGroups?_groups (x : Ipv6) : ofGroups? x.groups = some x := by
  rw [ofGroups?, dif_pos x.length_groups]

/-- An address is read back from its groups. -/
theorem parse?_renderGroups (x : Ipv6) : parse? x.renderGroups.toList = some x := by
  obtain ⟨front, back, hgroups, hstart⟩ := longestZeros_spec 0 x.groups
  have hlength := x.length_groups
  unfold renderGroups
  generalize longestZeros 0 x.groups = found at *
  obtain ⟨start, zeros⟩ := found
  dsimp only at *
  by_cases hz : 1 < zeros
  · have hcut : cutAt? [':', ':'] (colonSeparated front ++ [':', ':'] ++ colonSeparated back) =
        some (colonSeparated front, colonSeparated back) := by
      rw [List.append_assoc, cutAt?_colonSeparated_append]
      simp [cutAt?]
    have hcount : front.length + zeros + back.length = 8 := by
      rw [← hlength, hgroups]
      simp
      omega
    have hzeros : 8 - front.length - back.length = zeros := by omega
    have htake : x.groups.take start = front := by
      rw [hstart, Nat.zero_add, hgroups, List.append_assoc, List.take_left]
    have hdrop : x.groups.drop (start + zeros) = back := by
      rw [hstart, Nat.zero_add, hgroups]
      exact List.drop_left' (by simp)
    rw [if_pos hz, String.toList_ofList, htake, hdrop, parse?, hcut]
    simp only [run?_colonSeparated, Option.bind_eq_bind, Option.bind_some]
    rw [guard, if_pos (by omega), Option.pure_def, Option.bind_some, hzeros, ← hgroups,
      ofGroups?_groups]
  · have hcut : cutAt? [':', ':'] (colonSeparated x.groups) = none := by
      simpa [cutAt?] using cutAt?_colonSeparated_append x.groups []
    rw [if_neg hz, String.toList_ofList, parse?, hcut]
    simp [run?_colonSeparated, ofGroups?_groups]

/-! ## Characters of an address -/

theorem toLower_of_mem_colonSeparated {groups : List UInt16} {c : Char}
    (h : c ∈ colonSeparated groups) : c.toLower = c := by
  rcases mem_join h with h | ⟨piece, hp, hc⟩
  · rw [List.mem_singleton.1 h]
    rfl
  · obtain ⟨g, -, rfl⟩ := List.mem_map.1 hp
    exact toLower_of_mem_hexNumber hc

/-- The groups are written in small letters. -/
theorem toLower_of_mem_renderGroups {x : Ipv6} {c : Char} (h : c ∈ x.renderGroups.toList) :
    c.toLower = c := by
  unfold renderGroups at h
  rw [String.toList_ofList] at h
  split at h
  · simp only [List.mem_append, List.mem_cons, List.not_mem_nil, or_false, or_self] at h
    rcases h with (h | rfl) | h
    · exact toLower_of_mem_colonSeparated h
    · rfl
    · exact toLower_of_mem_colonSeparated h
  · exact toLower_of_mem_colonSeparated h

/-- The characters that addresses are written with. -/
def isAddressChar (c : Char) : Bool := (hexValue? c).isSome || c == ':' || c == '.'

theorem isAddressChar_of_isDigit {c : Char} (h : c.isDigit) : isAddressChar c := by
  simp [isAddressChar, hexValue?, h]

theorem isAddressChar_of_octet? {cs : List Char} {b : UInt8} (h : Ipv4.octet? cs = some b) :
    ∀ c ∈ cs, isAddressChar c := by
  unfold Ipv4.octet? at h
  split at h
  · cases h
  · cases h
  split at h
  · split at h
    · rename_i hn
      exact fun c hc => isAddressChar_of_isDigit (isDigit_of_mem_readDecimal? hn c hc)
    · cases h
  · cases h

theorem isAddressChar_of_quad {cs : List Char} {x : Ipv4} (h : Ipv4.parse? cs = some x) :
    ∀ c ∈ cs, isAddressChar c := by
  intro c hc
  by_cases hdot : c = '.'
  · simp [isAddressChar, hdot]
  unfold Ipv4.parse? at h
  split at h
  · rename_i p q r s hp
    obtain ⟨piece, hm, hcp⟩ := (mem_iff_mem_pieces (· == '.') (by simpa)).1 hc
    simp only [Option.bind_eq_bind, Option.bind_eq_some_iff] at h
    obtain ⟨_, h1, _, h2, _, h3, _, h4, -⟩ := h
    rw [hp] at hm
    simp only [List.mem_cons, List.not_mem_nil, or_false] at hm
    rcases hm with rfl | rfl | rfl | rfl
    · exact isAddressChar_of_octet? h1 c hcp
    · exact isAddressChar_of_octet? h2 c hcp
    · exact isAddressChar_of_octet? h3 c hcp
    · exact isAddressChar_of_octet? h4 c hcp
  · cases h

theorem isAddressChar_of_group? {cs : List Char} {g : UInt16} (h : group? cs = some g) :
    ∀ c ∈ cs, isAddressChar c := by
  unfold group? at h
  split at h
  · obtain ⟨n, hn, -⟩ := Option.map_eq_some_iff.1 h
    intro c hc
    simp [isAddressChar, isSome_hexValue?_of_mem_readHex? hn c hc]
  · cases h

theorem isAddressChar_of_groupsOfPieces? {quadAllowed : Bool} {all : List (List Char)}
    {groups : List UInt16} (h : groupsOfPieces? quadAllowed all = some groups) :
    ∀ piece ∈ all, ∀ c ∈ piece, isAddressChar c := by
  fun_induction groupsOfPieces? quadAllowed all generalizing groups with
  | case1 => simp
  | case2 last g hg =>
    intro piece hp
    rw [List.mem_singleton.1 hp]
    exact isAddressChar_of_group? hg
  | case3 last hg =>
    intro piece hp
    rw [List.mem_singleton.1 hp]
    obtain ⟨x, hx, -⟩ := Option.map_eq_some_iff.1 h
    exact isAddressChar_of_quad hx
  | case4 last hg hq => cases h
  | case5 piece more hne ih =>
    simp only [Option.bind_eq_bind, Option.bind_eq_some_iff] at h
    obtain ⟨g, hg, rest, hr, -⟩ := h
    intro other ho
    rcases List.mem_cons.1 ho with rfl | ho
    · exact isAddressChar_of_group? hg
    · exact ih hr other ho

theorem isAddressChar_of_run? {quadAllowed : Bool} {cs : List Char} {groups : List UInt16}
    (h : run? quadAllowed cs = some groups) : ∀ c ∈ cs, isAddressChar c := by
  unfold run? at h
  split at h
  · rename_i he
    simp [he]
  · intro c hc
    by_cases hcolon : c = ':'
    · simp [isAddressChar, hcolon]
    · obtain ⟨piece, hp, hcp⟩ := (mem_iff_mem_pieces (· == ':') (by simpa)).1 hc
      exact isAddressChar_of_groupsOfPieces? h piece hp c hcp

theorem isAddressChar_of_parse? {cs : List Char} {x : Ipv6} (h : parse? cs = some x) :
    ∀ c ∈ cs, isAddressChar c := by
  unfold parse? at h
  split at h
  · obtain ⟨groups, hg, -⟩ := Option.bind_eq_some_iff.1 h
    exact isAddressChar_of_run? hg
  · rename_i before after hcut
    simp only [Option.bind_eq_bind, Option.bind_eq_some_iff] at h
    obtain ⟨head, hh, tail, ht, -⟩ := h
    intro c hc
    rw [cutAt?_eq_some hcut] at hc
    simp only [List.mem_append, List.mem_cons, List.not_mem_nil, or_false, or_self] at hc
    rcases hc with (hc | rfl) | hc
    · exact isAddressChar_of_run? hh c hc
    · rfl
    · exact isAddressChar_of_run? ht c hc

end ActiveObjects.Ipv6

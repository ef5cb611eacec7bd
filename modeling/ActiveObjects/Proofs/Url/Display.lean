import ActiveObjects.Proofs.Json.Text
import ActiveObjects.Proofs.Text.Digits
import ActiveObjects.Proofs.Url.Reading
import ActiveObjects.Wire.Scalar

/-!
# Written URLs read again

The written form of valid parts comes apart at the places where it was put together. Tag, port and
name are read as they were written; the host goes through the rules for hosts of its scheme.
-/

namespace ActiveObjects.Url

open Text

variable {tag host name : String} {port : UInt16} {special : Bool}

/-! ## From the scheme to the path -/

/-- The digits of a port. -/
def digits (port : UInt16) : List Char := Nat.toDigits 10 port.toNat

theorem toList_written (tag host : String) (port : UInt16) (name : String) :
    (written tag host port name).toList =
      tag.toList ++ ':' :: '/' :: '/' ::
        (host.toList ++ ':' :: (digits port ++ '/' :: name.toList)) := by
  have hself : ∀ s : String, toString s = s := fun _ => rfl
  simp [written, digits, String.toList_append, hself]

theorem tidy_eq_self {cs : List Char} (h : ∀ c ∈ cs, 0x20 < c.toNat) : tidy cs = cs := by
  have hsmall : ∀ c ∈ cs, ¬ decide (c.toNat ≤ 0x20) = true := by
    intro c hc
    have := h c hc
    simp
    omega
  have hkeep : ∀ c ∈ cs, decide (c ≠ '\t' ∧ c ≠ '\n' ∧ c ≠ '\r') = true := by
    intro c hc
    have := h c hc
    rw [decide_eq_true_eq]
    refine ⟨?_, ?_, ?_⟩ <;> rintro rfl <;> exact absurd this (by decide)
  rw [tidy, trimBoth_eq_self hsmall, List.filter_eq_self.2 hkeep]

/-- The scheme ends at the first colon. -/
theorem scheme?_append (h : tagFault? tag = none) (rest : List Char) :
    scheme? (tag.toList ++ ':' :: rest) = some (lowerCase tag, rest) := by
  obtain ⟨c, more, ht, hc, hmore⟩ := tagFault?_eq_none_iff.1 h
  have hall : ∀ d ∈ tag.toList, isTagChar d := by
    rw [ht]
    intro d hd
    rcases List.mem_cons.1 hd with rfl | hd
    · simp [isTagChar, Char.isAlphanum, hc]
    · exact hmore d hd
  have htake : (tag.toList ++ ':' :: rest).takeWhile isTagChar = tag.toList :=
    takeWhile_append_cons hall (by decide)
  have hdrop : (tag.toList ++ ':' :: rest).dropWhile isTagChar = ':' :: rest :=
    dropWhile_append_cons hall (by decide)
  rw [ht, List.cons_append] at htake hdrop ⊢
  unfold scheme?
  simp only [htake, hdrop, hc, if_true]
  rw [← ht, String.ofList_toList]

/-! ## The authority -/

/-- A colon in square brackets is part of the host. -/
theorem cutHost_brackets {literal : List Char} (h : ∀ c ∈ literal, Inner c ∧ c ≠ '[' ∧ c ≠ ']')
    (rest : List Char) :
    cutHost special true (literal ++ ']' :: ':' :: rest) = (literal ++ [']'], ':' :: rest) := by
  induction literal with
  | nil => cases special <;> simp [cutHost, isAuthorityEnd]
  | cons c literal ih =>
    obtain ⟨hc, hopen, hclose⟩ := h c (List.mem_cons_self ..)
    have hend := hc.not_isAuthorityEnd special
    rw [List.cons_append, cutHost]
    simp [hend, hopen, hclose, ih fun d hd => h d (List.mem_cons_of_mem _ hd)]

theorem cutHost_append (h : hostFault? host = none) (rest : List Char) :
    cutHost special false (host.toList ++ ':' :: rest) = (host.toList, ':' :: rest) := by
  rcases hostFault?_eq_none_iff.1 h with ⟨literal, hb, hs⟩ | ⟨-, -, hall⟩
  · obtain ⟨x, hx⟩ := Option.isSome_iff_exists.1 hs
    have hinner : ∀ c ∈ literal, Inner c ∧ c ≠ '[' ∧ c ≠ ']' := fun c hc =>
      inner_of_isAddressChar (Ipv6.isAddressChar_of_parse? hx c hc)
    have hopen : ¬ isAuthorityEnd special '[' := by cases special <;> decide
    rw [bracketed?_eq_some_iff.1 hb, List.cons_append, cutHost, List.append_assoc,
      List.singleton_append]
    simp [hopen, cutHost_brackets hinner]
  · generalize host.toList = cs at hall ⊢
    induction cs with
    | nil => simp [cutHost]
    | cons c cs ih =>
      have hc := hall c (List.mem_cons_self ..)
      have hend := (inner_of_isHostChar hc).not_isAuthorityEnd special
      obtain ⟨hcolon, hopen, hclose, -⟩ := isHostChar_marks hc
      rw [List.cons_append, cutHost]
      simp [hend, hcolon, hopen, hclose, ih fun d hd => hall d (List.mem_cons_of_mem _ hd)]

theorem digits_ne_nil (port : UInt16) : digits port ≠ [] := Nat.toDigits_ne_nil

theorem isDigit_of_mem_digits (port : UInt16) : ∀ c ∈ digits port, c.isDigit :=
  isDigit_of_mem_toDigits port.toNat

/-- Every port is read as it is written, leading zeros and defaults aside. -/
theorem readPort_digits (port : UInt16) (rest : List Char) :
    readPort (digits port ++ '/' :: rest) = .ok (some port, '/' :: rest) := by
  have htake : (digits port ++ '/' :: rest).takeWhile Char.isDigit = digits port :=
    takeWhile_append_cons (isDigit_of_mem_digits port) (by decide)
  have hdrop : (digits port ++ '/' :: rest).dropWhile Char.isDigit = '/' :: rest :=
    dropWhile_append_cons (isDigit_of_mem_digits port) (by decide)
  have hmax : ¬ 65535 < port.toNat := by
    have := port.toNat_lt
    omega
  have hslash : isAuthorityEnd true '/' := by decide
  have hread : readDecimal? (digits port) = some port.toNat := readDecimal?_toDigits _
  simp [readPort, htake, hdrop, hread, hmax, hslash, digits_ne_nil]

theorem inner_of_mem_authority (h : hostFault? host = none) (port : UInt16) :
    ∀ c ∈ host.toList ++ ':' :: digits port, Inner c := by
  intro c hc
  simp only [List.mem_append, List.mem_cons] at hc
  rcases hc with hc | rfl | hc
  · exact inner_of_mem_host h c hc
  · decide
  · apply inner_of_isHostChar
    simp [isHostChar, Char.isAlphanum, isDigit_of_mem_digits port c hc]

/-- Host and port are read up to the slash, without any user info. -/
theorem readAuthority_append (h : hostFault? host = none) (port : UInt16) (rest : List Char) :
    readAuthority special (host.toList ++ ':' :: (digits port ++ '/' :: rest)) =
      (readHost special host.toList).map fun found =>
        ⟨some found, some port, '/' :: rest⟩ := by
  have hinner := inner_of_mem_authority h port
  have htake : (host.toList ++ ':' :: (digits port ++ '/' :: rest)).takeWhile
      (!isAuthorityEnd special ·) = host.toList ++ ':' :: digits port := by
    have hall : ∀ c ∈ host.toList ++ ':' :: digits port, (!isAuthorityEnd special c) = true :=
      fun c hc => by simpa using (hinner c hc).not_isAuthorityEnd special
    rw [← List.cons_append, ← List.append_assoc]
    exact takeWhile_append_cons hall (by cases special <;> decide)
  have huser : cutUserInfo? (host.toList ++ ':' :: digits port) = none := by
    have hat : ¬ (host.toList ++ ':' :: digits port).contains '@' := by
      rw [List.contains_iff_mem]
      exact fun hm => absurd rfl (hinner '@' hm).notAt
    rw [cutUserInfo?, if_neg hat]
  unfold readAuthority
  rw [htake, huser]
  dsimp only
  rw [cutHost_append h]
  have hempty := host_ne_nil h
  cases special with
  | false =>
    rw [readHost_false]
    cases hr : plainHost host.toList with
    | error fault => simp [bind, Except.bind, Except.map]
    | ok found =>
      have hne := ne_empty_of_readHost ((readHost_false _).trans hr) (.inr hempty)
      simp [hne, readPort_digits, bind, Except.bind, pure, Except.pure, Except.map]
  | true =>
    rw [readHost_true]
    cases hr : webHost host.toList with
    | error fault => simp [hempty, bind, Except.bind, Except.map]
    | ok found =>
      have hne := ne_empty_of_readHost ((readHost_true _).trans hr) (.inl rfl)
      simp [hempty, hne, readPort_digits, bind, Except.bind, pure, Except.pure, Except.map]

/-! ## The path -/

theorem unescapeDots_eq_self {cs : List Char} (h : '%' ∉ cs) : unescapeDots cs = cs := by
  fun_induction unescapeDots cs with
  | case1 e rest he ih => simp at h
  | case2 e rest he ih => simp at h
  | case3 c rest hn ih => rw [ih fun hm => h (List.mem_cons_of_mem _ hm)]
  | case4 => rfl

/-- A name is the whole of its path. -/
theorem resolvePath_name (h : nameFault? name = none) :
    resolvePath special ('/' :: name.toList) = name.toList := by
  obtain ⟨hne, ⟨hdot, hdots⟩, hall⟩ := nameFault?_eq_none_iff.1 h
  have hfree : ∀ d, isReserved d → d ∉ name.toList := fun d hd hm =>
    not_isReserved_of_not_isNameExcluded (hall d hm) hd
  have hcut : ∀ c ∈ name.toList, ¬ (c == '/' || (special && c == '\\')) := by
    intro c hc he
    simp only [Bool.or_eq_true, Bool.and_eq_true, beq_iff_eq] at he
    rcases he with rfl | ⟨-, rfl⟩
    · exact hfree '/' (by decide) hc
    · exact hfree '\\' (by decide) hc
  have hsegments : pieces (fun c => c == '/' || (special && c == '\\')) ('/' :: name.toList) =
      [[], name.toList] := by
    simp [pieces, pieces_eq_singleton hcut]
  have hunescape := unescapeDots_eq_self (hfree '%' (by decide))
  have h1 : name.toList ≠ ['.'] := fun he => hdot (String.toList_inj.1 he)
  have h2 : name.toList ≠ ['.', '.'] := fun he => hdots (String.toList_inj.1 he)
  unfold resolvePath
  rw [hsegments]
  simp only [resolveSegments, hunescape, h1, h2, if_false]
  cases hn : name.toList with
  | nil => exact absurd hn hne
  | cons c rest =>
    have hc : c ≠ '/' := by
      rintro rfl
      exact hfree '/' (by decide) (hn ▸ List.mem_cons_self ..)
    simp [join, hc]

/-- Neither a query nor a fragment follows. -/
theorem cutPath_name (h : nameFault? name = none) :
    cutPath ('/' :: name.toList) = ('/' :: name.toList, false) := by
  have hno : ∀ c ∈ '/' :: name.toList, ¬ (c == '?' || c == '#') := by
    intro c hc
    rcases List.mem_cons.1 hc with rfl | hc
    · decide
    · intro he
      apply not_isReserved_of_not_isNameExcluded ((nameFault?_eq_none_iff.1 h).2.2 c hc)
      rcases Bool.or_eq_true_iff.1 he with he | he <;> rw [beq_iff_eq.1 he] <;> decide
  have hany : ('/' :: name.toList).any (fun c => c == '?' || c == '#') = false :=
    List.any_eq_false.2 hno
  have htake : ('/' :: name.toList).takeWhile (fun c => !(c == '?' || c == '#')) =
      '/' :: name.toList :=
    List.takeWhile_eq_self_iff.2 fun c hc => by simpa using hno c hc
  rw [cutPath, htake, hany]

/-! ## The whole text -/

theorem visible_of_mem_written (h : partsFault? tag host name = none) (port : UInt16) :
    ∀ c ∈ (written tag host port name).toList, 0x20 < c.toNat := by
  obtain ⟨ht, hh, hn⟩ := partsFault?_eq_none_iff.1 h
  obtain ⟨first, more, htag, hfirst, hmore⟩ := tagFault?_eq_none_iff.1 ht
  intro c hc
  rw [toList_written, htag] at hc
  have hauthority := inner_of_mem_authority hh port c
  simp only [List.mem_append, List.mem_cons] at hc hauthority
  rcases hc with (rfl | hc) | rfl | rfl | rfl | hc | rfl | hc | rfl | hc
  · exact (inner_of_isTagChar (by simp [isTagChar, Char.isAlphanum, hfirst])).1.visible
  · exact (inner_of_isTagChar (hmore c hc)).1.visible
  · decide
  · decide
  · decide
  · exact (hauthority (.inl hc)).visible
  · decide
  · exact (hauthority (.inr (.inr hc))).visible
  · decide
  · exact (inner_of_not_isNameExcluded ((nameFault?_eq_none_iff.1 hn).2.2 c hc)).visible

theorem dropWhile_slashes (h : hostFault? host = none) (rest : List Char) :
    ('/' :: '/' :: (host.toList ++ rest)).dropWhile (fun c => c == '/' || c == '\\') =
      host.toList ++ rest := by
  have hinner := inner_of_mem_host h
  cases hl : host.toList with
  | nil => exact absurd hl (host_ne_nil h)
  | cons c cs =>
    have hend := (hinner c (hl ▸ List.mem_cons_self ..)).notEnd
    have hc : ¬ (c == '/' || c == '\\') := by
      intro he
      rcases Bool.or_eq_true_iff.1 he with he | he <;> rw [beq_iff_eq.1 he] at hend <;>
        exact hend (by decide)
    simp only [List.cons_append, List.dropWhile_cons, beq_self_eq_true, Bool.true_or, if_true,
      if_neg hc]

/-- The written form comes apart where it was put together. -/
theorem split_written (h : partsFault? tag host name = none) (htag : lowerCase tag = tag)
    (hfile : tag ≠ "file") (port : UInt16) :
    split (written tag host port name) =
      (readHost (SchemeKind.of tag).isSpecial host.toList).map fun found =>
        ⟨tag, some found, some port, name.toList, false⟩ := by
  obtain ⟨ht, hh, hn⟩ := partsFault?_eq_none_iff.1 h
  unfold split
  rw [tidy_eq_self (visible_of_mem_written h port), toList_written, scheme?_append ht, htag]
  dsimp only
  have hkind : SchemeKind.of tag = .plain ∨ SchemeKind.of tag = .web := by
    rw [SchemeKind.of, if_neg hfile]
    cases (defaultPort? tag).isSome <;> simp
  -- a web URL may have more slashes before its host
  rcases hkind with hk | hk
  all_goals
    simp only [pure_bind, hk, dropWhile_slashes hh, readAuthority_append hh, SchemeKind.isSpecial]
    generalize readHost _ host.toList = read
    cases read with
    | error fault => rfl
    | ok found =>
      simp only [Except.map, bind, Except.bind, cutPath_name hn, resolvePath_name hn]
      rfl

/-- Tag, port and name are read as they were written. -/
theorem nameParts_written (h : partsFault? tag host name = none) (htag : lowerCase tag = tag)
    (hfile : tag ≠ "file") (port : UInt16) :
    nameParts (written tag host port name) =
      (readHost (SchemeKind.of tag).isSpecial host.toList).map fun found =>
        (tag, found, port, name) := by
  have hn := (partsFault?_eq_none_iff.1 h).2.2
  have hpercent : '%' ∉ name.toList := fun hm =>
    not_isReserved_of_not_isNameExcluded ((nameFault?_eq_none_iff.1 hn).2.2 '%' hm) (by decide)
  unfold nameParts
  rw [split_written h htag hfile]
  cases readHost (SchemeKind.of tag).isSpecial host.toList with
  | error fault => rfl
  | ok found =>
    simp only [Except.map, bind, Except.bind, pure, Except.pure]
    rw [percentDecodeText?_eq_self hpercent]
    simp [String.ofList_toList]

/-! ## Round trips -/

/-- A written URL names something only if its scheme is not that of files. -/
theorem nameParts_file (h : partsFault? "file" host name = none) (port : UInt16)
    (parts : String × String × UInt16 × String) :
    nameParts (written "file" host port name) ≠ .ok parts := by
  intro hp
  obtain ⟨ptag, phost, pport, pname⟩ := parts
  obtain ⟨⟨rest, hs⟩, hne, -⟩ := nameParts_spec hp
  rw [tidy_eq_self (visible_of_mem_written h port), toList_written,
    scheme?_append (partsFault?_eq_none_iff.1 h).1] at hs
  exact hne (Prod.mk.inj (Option.some.inj hs)).1.symm

/-- Whatever is read from the written form of a URL has its tag, its port and its name, and the host
that is read from its host. -/
theorem of_parse_display {u v : Url} (h : parse u.display = .ok v) :
    u.tag ≠ "file" ∧ (v.tag = u.tag ∧ v.port = u.port ∧ v.name = u.name) ∧
      ∃ found, readHost (SchemeKind.of u.tag).isSpecial u.host.toList = .ok found ∧
        lowerCase found = v.host := by
  unfold parse display at h
  split at h
  · cases h
  rename_i tag host port name hparts
  obtain ⟨htag, hhost, hport, hname⟩ := new_eq_ok_iff.1 h
  by_cases hfile : u.tag = "file"
  · have hf := u.noFault
    rw [hfile] at hf hparts
    exact absurd hparts (nameParts_file hf u.port _)
  · rw [nameParts_written u.noFault u.lowerCase_tag hfile] at hparts
    obtain ⟨found, hread, he⟩ := map_eq_ok_iff.1 hparts
    simp only [Prod.mk.injEq] at he
    obtain ⟨rfl, rfl, rfl, rfl⟩ := he
    exact ⟨hfile, ⟨htag.symm.trans u.lowerCase_tag, hport.symm, hname.symm⟩, found, hread, hhost⟩

/-- A URL is read back whole if its host is. -/
theorem parse_display_of_host {u : Url} {found : String} (hfile : u.tag ≠ "file")
    (hread : readHost (SchemeKind.of u.tag).isSpecial u.host.toList = .ok found)
    (hhost : lowerCase found = u.host) : parse u.display = .ok u := by
  have hparts : nameParts u.display = .ok (u.tag, found, u.port, u.name) := by
    rw [display, nameParts_written u.noFault u.lowerCase_tag hfile, hread]
    rfl
  unfold parse
  rw [hparts]
  exact new_eq_ok_iff.2 ⟨u.lowerCase_tag, hhost, rfl, rfl⟩

/-- The schemes with rules of their own. -/
def specialTags : List String := ["http", "https", "ws", "wss", "ftp", "file"]

theorem kind_of_not_special (h : tag ∉ specialTags) : SchemeKind.of tag = .plain := by
  simp only [specialTags, List.mem_cons, List.not_mem_nil, or_false, not_or] at h
  obtain ⟨h1, h2, h3, h4, h5, hfile⟩ := h
  have hports : defaultPort? tag = none := by
    rw [defaultPort?, List.lookup_eq_none_iff]
    simp [webPorts, h1, h2, h3, h4, h5]
  rw [SchemeKind.of, if_neg hfile, hports]
  rfl

/-- A plain URL whose host is no address in brackets is read back whole. -/
theorem parse_display_plain {u : Url} (ht : u.tag ∉ specialTags)
    (hb : bracketed? u.host.toList = none) : parse u.display = .ok u := by
  have hfile : u.tag ≠ "file" := fun he => ht (by rw [he]; decide)
  have hall := isHostChar_of_mem (partsFault?_eq_none_iff.1 u.noFault).2.1 hb
  have hread : readHost (SchemeKind.of u.tag).isSpecial u.host.toList = .ok u.host := by
    rw [kind_of_not_special ht, SchemeKind.isSpecial, readHost_false, plainHost_eq_self hall,
      String.ofList_toList]
  exact parse_display_of_host hfile hread u.lowerCase_host

/-- Writing and reading: whatever is read from the written form of accepted parts has their tag,
port and name, and without special scheme or brackets it is the same URL, also by way of JSON. -/
theorem display_round_trip {u : Url} (h : new tag host port name = .ok u) :
    (∀ v, parse u.display = .ok v → v.tag = u.tag ∧ v.port = port ∧ v.name = name) ∧
      (u.tag ∉ specialTags → bracketed? u.host.toList = none →
        parse u.display = .ok u ∧
          (Json.Tree.parse? u.toJson.render).bind read? = some u) := by
  obtain ⟨-, -, rfl, rfl⟩ := new_eq_ok_iff.1 h
  refine ⟨fun v hv => (of_parse_display hv).2.1, fun ht hb => ?_⟩
  have hparse := parse_display_plain ht hb
  refine ⟨hparse, ?_⟩
  rw [toJson, Json.Tree.parse?_render_string, Option.bind_some]
  change (parse u.display).toOption = some u
  rw [hparse]
  rfl

/-- The round trip of a name that needs escapes in JSON and is not ASCII, at port 0. -/
theorem display_round_trip_quoted :
    ∃ u : Url, new "Ao" "A.Example" 0 "\"ä\"" = .ok u ∧ parse u.display = .ok u ∧
      (Json.Tree.parse? u.toJson.render).bind read? = some u := by
  obtain ⟨u, hu⟩ : ∃ u : Url, new "Ao" "A.Example" 0 "\"ä\"" = .ok u := ⟨_, rfl⟩
  obtain ⟨ht, hh, -, -⟩ := new_eq_ok_iff.1 hu
  exact ⟨u, hu, (display_round_trip hu).2 (by rw [← ht]; decide) (by rw [← hh]; decide)⟩

end ActiveObjects.Url

import ActiveObjects.Proofs.Address.Ipv4
import ActiveObjects.Proofs.Url.Domain

/-!
# Hosts read twice

What the rules for hosts give, in small letters, has one of four forms, if domains with encoded
labels stand for themselves. Read once more, in small letters, each of these gives the same host.
-/

namespace ActiveObjects.Url

open Text

variable {special : Bool} {cs : List Char} {host : String}

/-- The host of a web URL, or of a plain one. -/
def readHost (special : Bool) (cs : List Char) : Except Fault String :=
  if special then webHost cs else plainHost cs

theorem readHost_false (cs : List Char) : readHost false cs = plainHost cs := rfl

theorem readHost_true (cs : List Char) : readHost true cs = webHost cs := rfl

/-! ## The forms of a host -/

/-- An IPv6 address in its brackets. -/
def bracketed (x : Ipv6) : String := s!"[{x.renderGroups}]"

/-- What hosts are written as: an address of either family, a domain that is its own ASCII form, or
a text with its odd characters escaped. -/
inductive HostForm : (special : Bool) → String → Prop where
  | brackets {special : Bool} (x : Ipv6) : HostForm special (bracketed x)
  | quad (x : Ipv4) : HostForm true x.render
  | domain {d : List Char} (ne_nil : d ≠ []) (ascii : domainToAscii? d = some d)
      (noBracket : d.head? ≠ some '[') (noNumber : ¬ Ipv4.endsInNumber d) :
      HostForm true (String.ofList d)
  | escaped {text : List Char} (ne_nil : text ≠ []) (noBracket : text.head? ≠ some '[') :
      HostForm false (String.ofList text)

theorem toList_bracketed (x : Ipv6) :
    (bracketed x).toList = '[' :: (x.renderGroups.toList ++ [']']) := by
  have h1 : (toString "[").toList = ['['] := by decide
  have h2 : (toString "]").toList = [']'] := by decide
  have h3 : toString x.renderGroups = x.renderGroups := rfl
  simp [bracketed, String.toList_append, h1, h2, h3]

theorem HostForm.ne_empty (h : HostForm special host) : host ≠ "" := by
  intro he
  replace he := congrArg String.toList he
  cases h with
  | brackets x =>
    rw [toList_bracketed] at he
    cases he
  | quad x =>
    have hn := Ipv4.endsInNumber_render x
    rw [he] at hn
    exact absurd hn (by decide)
  | domain ne_nil => exact ne_nil (by simpa using he)
  | escaped ne_nil => exact ne_nil (by simpa using he)

/-! ## The first reading -/

theorem exists_of_bracketedHost (h : bracketedHost cs = .ok host) :
    ∃ x : Ipv6, host = bracketed x := by
  unfold bracketedHost at h
  split at h
  · rename_i x hx
    cases h
    exact ⟨x, rfl⟩
  · cases h

/-- The host of a web URL is an address, or the ASCII form of a domain. -/
theorem webHost_cases (h : webHost cs = .ok host) :
    (∃ x : Ipv6, host = bracketed x) ∨ (∃ x : Ipv4, host = x.render) ∨
      ∃ domain d, percentDecodeText? cs = some domain ∧ domainToAscii? domain = some d ∧ d ≠ [] ∧
        ¬ Ipv4.endsInNumber d ∧ host = String.ofList d := by
  unfold webHost at h
  split at h
  · exact .inl (exists_of_bracketedHost h)
  split at h
  · cases h
  · cases h
  · rename_i d hne hd
    obtain ⟨domain, hp, ha⟩ := Option.bind_eq_some_iff.1 hd
    split at h
    · split at h
      · rename_i x hx
        cases h
        exact .inr (.inl ⟨x, rfl⟩)
      · cases h
    · rename_i hnum
      cases h
      exact .inr (.inr ⟨domain, d, hp, ha, fun he => hne he, hnum, rfl⟩)

/-- The first character is kept or escaped. -/
theorem percentEncodeControls_cons (c : Char) (cs : List Char) :
    ∃ d ds, percentEncodeControls (c :: cs) = d :: ds ∧ (d = c ∨ d = '%') := by
  unfold percentEncodeControls
  rw [List.flatMap_cons]
  by_cases hc : 0x20 ≤ c.toNat ∧ c.toNat < 0x7F
  · rw [if_pos hc]
    exact ⟨c, _, rfl, .inl rfl⟩
  · rw [if_neg hc, Utf8.encode_cons]
    cases hb : String.utf8EncodeChar c with
    | nil => exact absurd hb String.utf8EncodeChar_ne_nil
    | cons b bs => exact ⟨'%', _, rfl, .inr rfl⟩

theorem HostForm.of_plainHost (h : plainHost cs = .ok host) (hne : cs ≠ []) :
    HostForm false host := by
  unfold plainHost at h
  split at h
  · obtain ⟨x, rfl⟩ := exists_of_bracketedHost h
    exact .brackets x
  rename_i hopen
  split at h
  · cases h
  cases h
  cases cs with
  | nil => exact absurd rfl hne
  | cons c cs =>
    obtain ⟨d, ds, he, hd⟩ := percentEncodeControls_cons c cs
    have hb : d ≠ '[' := by
      rcases hd with rfl | rfl
      · exact fun hc => hopen (congrArg some hc)
      · decide
    rw [he]
    exact .escaped (List.cons_ne_nil d ds) fun hh => hb (Option.some_inj.1 hh)

/-- A web URL has no empty host, and a plain one only if nothing is there. -/
theorem ne_empty_of_readHost (h : readHost special cs = .ok host) (hne : special ∨ cs ≠ []) :
    host ≠ "" := by
  cases special with
  | false => exact (HostForm.of_plainHost h (hne.resolve_left Bool.false_ne_true)).ne_empty
  | true =>
    rcases webHost_cases h with ⟨x, rfl⟩ | ⟨x, rfl⟩ | ⟨_, d, -, -, ne_nil, -, rfl⟩
    · have form : HostForm true (bracketed x) := .brackets x
      exact form.ne_empty
    · exact (HostForm.quad x).ne_empty
    · exact fun he => ne_nil (by simpa using congrArg String.toList he)

/-! ## Hosts that are kept -/

theorem bracketed?_lowerCase (h : host.toList.head? ≠ some '[') :
    bracketed? (lowerCase host).toList = none := by
  apply bracketed?_eq_none
  rw [toList_lowerCase, List.head?_map]
  intro he
  obtain ⟨c, hc, hl⟩ := Option.map_eq_some_iff.1 he
  rw [toLower_eq_bracket_iff] at hl
  exact h (hl ▸ hc)

theorem head?_ne_bracket (h : ∀ c ∈ cs, isHostChar c) : cs.head? ≠ some '[' := fun hh =>
  absurd rfl (isHostChar_marks (h '[' (List.mem_of_mem_head? hh))).2.1

/-- A host of host characters stands for itself in a plain URL. -/
theorem plainHost_eq_self (h : ∀ c ∈ cs, isHostChar c) :
    plainHost cs = .ok (String.ofList cs) := by
  have hkeep : ∀ c ∈ cs, ¬ isHostExcluded c ∧ 0x20 ≤ c.toNat ∧ c.toNat < 0x7F := fun c hc =>
    forall_ascii (P := fun c => isHostChar c →
      ¬ isHostExcluded c ∧ 0x20 ≤ c.toNat ∧ c.toNat < 0x7F) (by decide +kernel)
      (toNat_lt_of_isHostChar (h c hc)) (h c hc)
  have hany : ¬ cs.any isHostExcluded := by
    rw [List.any_eq_true]
    rintro ⟨c, hc, he⟩
    exact (hkeep c hc).1 he
  rw [plainHost, if_neg (head?_ne_bracket h), if_neg hany,
    percentEncodeControls_eq_self fun c hc => (hkeep c hc).2]

theorem readHost_bracketed (x : Ipv6) :
    readHost special (bracketed x).toList = .ok (bracketed x) := by
  have hb : bracketed? (bracketed x).toList = some x.renderGroups.toList :=
    bracketed?_eq_some_iff.2 (toList_bracketed x)
  have hx : bracketedHost (bracketed x).toList = .ok (bracketed x) := by
    rw [bracketedHost, hb, Option.bind_some, Ipv6.parse?_renderGroups]
    rfl
  have hh : (bracketed x).toList.head? = some '[' := by rw [toList_bracketed]; rfl
  cases special with
  | false => simp only [readHost, plainHost, hh, hx, if_true, Bool.false_eq_true, if_false]
  | true => simp only [readHost, webHost, hh, hx, if_true]

theorem lowerCase_bracketed (x : Ipv6) : lowerCase (bracketed x) = bracketed x := by
  have hl : x.renderGroups.toList.map Char.toLower = x.renderGroups.toList := by
    simpa using List.map_congr_left fun c hc => Ipv6.toLower_of_mem_renderGroups hc
  rw [← String.toList_inj, toList_lowerCase, toList_bracketed]
  simp [hl]

section

variable {d : List Char}

/-- Host characters are no escapes, so only the form in ASCII decides. -/
theorem webHost_eq (h : ∀ c ∈ cs, isHostChar c) (hd : domainToAscii? cs = some d) (hne : d ≠ []) :
    webHost cs = if Ipv4.endsInNumber d then
      match Ipv4.parseLoose? d with
      | some x => .ok x.render
      | none => .error .ipv4Host
    else .ok (String.ofList d) := by
  have hpercent : '%' ∉ cs := fun hm => absurd rfl (isHostChar_marks (h '%' hm)).2.2.2
  rw [webHost, if_neg (head?_ne_bracket h), percentDecodeText?_eq_self hpercent,
    Option.bind_some, hd]
  cases d with
  | nil => exact absurd rfl hne
  | cons c d => rfl

theorem webHost_of_domain (h : ∀ c ∈ cs, isHostChar c) (hd : domainToAscii? cs = some d)
    (hne : d ≠ []) (hn : ¬ Ipv4.endsInNumber d) : webHost cs = .ok (String.ofList d) := by
  rw [webHost_eq h hd hne, if_neg hn]

theorem webHost_of_number {x : Ipv4} (h : ∀ c ∈ cs, isHostChar c)
    (hd : domainToAscii? cs = some d) (hne : d ≠ []) (hn : Ipv4.endsInNumber d)
    (hx : Ipv4.parseLoose? d = some x) : webHost cs = .ok x.render := by
  rw [webHost_eq h hd hne, if_pos hn, hx]

end

theorem isHostChar_of_mem_render (x : Ipv4) : ∀ c ∈ x.render.toList, isHostChar c := by
  intro c hc
  rcases Ipv4.isDigit_or_dot_of_mem_render hc with hd | rfl
  · simp [isHostChar, Char.isAlphanum, hd]
  · rfl

theorem webHost_render (x : Ipv4) : webHost x.render.toList = .ok x.render := by
  have hne : x.render.toList ≠ [] := fun he => (HostForm.quad x).ne_empty (by simpa using he)
  exact webHost_of_number (isHostChar_of_mem_render x)
    (domainToAscii?_of_digits fun c hc => Ipv4.isDigit_or_dot_of_mem_render hc) hne
    (Ipv4.endsInNumber_render x) (Ipv4.parseLoose?_render x)

theorem lowerCase_render (x : Ipv4) : lowerCase x.render = x.render := by
  have hl : ∀ c ∈ x.render.toList, c.toLower = c := by
    intro c hc
    rcases Ipv4.isDigit_or_dot_of_mem_render hc with hd | rfl
    · exact forall_ascii (P := fun c => c.isDigit → c.toLower = c) (by decide +kernel)
        (toNat_lt_of_isAlphanum (by simp [Char.isAlphanum, hd])) hd
    · rfl
  rw [← String.toList_inj, toList_lowerCase]
  simpa using List.map_congr_left hl

/-! ## The second reading -/

theorem HostForm.small (h : HostForm false host) : HostForm false (lowerCase host) := by
  cases h with
  | brackets x =>
    rw [lowerCase_bracketed]
    exact .brackets x
  | @escaped text ne_nil noBracket =>
    rw [lowerCase, String.toList_ofList]
    refine .escaped (by simpa using ne_nil) fun hh => noBracket ?_
    rw [List.head?_map] at hh
    obtain ⟨c, hc, hl⟩ := Option.map_eq_some_iff.1 hh
    exact toLower_eq_bracket_iff.1 hl ▸ hc

/-- Host characters in small letters are a form of their own, if they stand for themselves. -/
theorem HostForm.of_webHost (h : webHost cs = .ok host) (hf : hostFault? (lowerCase host) = none)
    (stands : Domain.Stands (lowerCase host).toList) : HostForm true (lowerCase host) := by
  rcases webHost_cases h with ⟨x, rfl⟩ | ⟨x, rfl⟩ | ⟨_, d, -, ha, ne_nil, noNumber, rfl⟩
  · rw [lowerCase_bracketed]
    exact .brackets x
  · rw [lowerCase_render]
    exact .quad x
  · have noBracket := domainToAscii?_head ha
    have hall := isHostChar_of_mem hf (bracketed?_lowerCase (by simpa using noBracket))
    rw [toList_lowerCase, String.toList_ofList] at hall stands
    have small : (d.map Char.toLower).map Char.toLower = d.map Char.toLower := by
      rw [List.map_map]
      exact List.map_congr_left fun c _ => toLower_toLower c
    have ascii := domainToAscii?_eq_self small
      (fun c hc => forall_ascii (P := fun c => isHostChar c →
        c.toNat < 0x80 ∧ ¬ isDomainExcluded c) (by decide +kernel)
        (toNat_lt_of_isHostChar (hall c hc)) (hall c hc)) stands
    rw [lowerCase, String.toList_ofList]
    refine .domain (by simpa using ne_nil) ascii (head?_ne_bracket hall) ?_
    rwa [Ipv4.endsInNumber_map_toLower]

/-- What is read as a host is written in one of the forms, in small letters. -/
theorem HostForm.of_readHost (h : readHost special cs = .ok host) (hne : special ∨ cs ≠ [])
    (hf : hostFault? (lowerCase host) = none)
    (stands : special → Domain.Stands (lowerCase host).toList) :
    HostForm special (lowerCase host) := by
  cases special with
  | false =>
    rw [readHost_false] at h
    exact (HostForm.of_plainHost h (hne.resolve_left Bool.false_ne_true)).small
  | true =>
    rw [readHost_true] at h
    exact .of_webHost h hf (stands rfl)

/-- What is read from a host in small letters has one of the forms, if it is the same but for letter
case. -/
theorem HostForm.of_readHost_self (h : readHost special cs = .ok host) (hne : cs ≠ [])
    (hf : hostFault? (lowerCase host) = none) (hself : (lowerCase host).toList = cs) :
    HostForm special host := by
  cases special with
  | false => exact .of_plainHost h hne
  | true =>
    rcases webHost_cases h with ⟨x, rfl⟩ | ⟨x, rfl⟩ | ⟨domain, d, hp, ha, ne_nil, noNumber, rfl⟩
    · exact .brackets x
    · exact .quad x
    · have noBracket := domainToAscii?_head ha
      have hall := isHostChar_of_mem hf (bracketed?_lowerCase (by simpa using noBracket))
      rw [hself] at hall
      -- host characters are no escapes, so the domain is the host itself
      have hpercent : '%' ∉ cs := fun hm => absurd rfl (isHostChar_marks (hall '%' hm)).2.2.2
      rw [percentDecodeText?_eq_self hpercent] at hp
      obtain rfl := Option.some.inj hp
      rw [toList_lowerCase, String.toList_ofList] at hself
      subst hself
      rw [domainToAscii?_map_toLower] at ha
      · exact .domain ne_nil ha noBracket noNumber
      · exact fun c hc =>
          toNat_toLower_lt_iff.1 (toNat_lt_of_isHostChar (hall _ (List.mem_map_of_mem hc)))

/-- A host that was read is read once more, in small letters, as the same host. -/
theorem HostForm.readHost_lowerCase (h : HostForm special host)
    (hf : hostFault? (lowerCase host) = none) :
    ∃ again, readHost special (lowerCase host).toList = .ok again ∧
      lowerCase again = lowerCase host := by
  cases h with
  | brackets x =>
    rw [lowerCase_bracketed]
    exact ⟨_, readHost_bracketed x, lowerCase_bracketed x⟩
  | quad x =>
    rw [lowerCase_render, readHost_true]
    exact ⟨_, webHost_render x, lowerCase_render x⟩
  | @domain d ne_nil ascii noBracket noNumber =>
    have hall := isHostChar_of_mem hf (bracketed?_lowerCase (by simpa using noBracket))
    rw [toList_lowerCase, String.toList_ofList] at hall ⊢
    have hd : domainToAscii? (d.map Char.toLower) = some d := by
      rw [domainToAscii?_map_toLower, ascii]
      intro c hc
      exact toNat_toLower_lt_iff.1 (toNat_lt_of_isHostChar (hall _ (List.mem_map_of_mem hc)))
    rw [readHost_true]
    exact ⟨_, webHost_of_domain hall hd ne_nil noNumber, rfl⟩
  | @escaped text ne_nil noBracket =>
    have hall := isHostChar_of_mem hf (bracketed?_lowerCase (by simpa using noBracket))
    rw [readHost_false]
    refine ⟨_, plainHost_eq_self hall, ?_⟩
    rw [String.ofList_toList, lowerCase_lowerCase]

end ActiveObjects.Url

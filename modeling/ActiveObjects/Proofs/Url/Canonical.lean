import ActiveObjects.Proofs.Url.Display

/-!
# Reading gives canonical URLs

Whatever text a URL is read from, its written form is read as the same URL. Two texts therefore name
the same entry exactly when what is read from them is written alike.
-/

namespace ActiveObjects.Url

/-- A URL is made again of its own parts. -/
theorem new_self (u : Url) : new u.tag u.host u.port u.name = .ok u :=
  new_eq_ok_iff.2 ⟨u.lowerCase_tag, u.lowerCase_host, rfl, rfl⟩

/-- A URL whose host has the form that its scheme gives to hosts is read from its written form. -/
theorem parse_display_of_form {u : Url} {host : String} (hfile : u.tag ≠ "file")
    (hform : HostForm (SchemeKind.of u.tag).isSpecial host) (hhost : lowerCase host = u.host) :
    parse u.display = .ok u := by
  have hfault : hostFault? (lowerCase host) = none := by
    rw [hhost]
    exact (partsFault?_eq_none_iff.1 u.noFault).2.1
  obtain ⟨again, hread, hsame⟩ := hform.readHost_lowerCase hfault
  rw [hhost] at hread hsame
  exact parse_display_of_host hfile hread hsame

/-- The form of a host is its own form. This is assumed of the domains with encoded labels in web
URLs; of all other hosts it is proved. -/
def DomainStands (u : Url) : Prop :=
  (SchemeKind.of u.tag).isSpecial → Domain.Stands u.host.toList

instance (u : Url) : Decidable u.DomainStands := inferInstanceAs (Decidable (_ → _))

/-- What is read from a text is read again from its written form. -/
theorem parse_display_of_parse {input : String} {u : Url} (h : parse input = .ok u)
    (stands : u.DomainStands) : parse u.display = .ok u := by
  unfold parse at h
  split at h
  · cases h
  rename_i tag host port name hparts
  obtain ⟨⟨rest, hs⟩, hfile, cs, hread, hne⟩ := nameParts_spec hparts
  obtain ⟨htag, hhost, -, -⟩ := new_eq_ok_iff.1 h
  have hsame : u.tag = tag := htag.symm.trans (lowerCase_of_scheme? hs)
  rw [← hsame] at hfile hread hne
  have hfault := (partsFault?_eq_none_iff.1 u.noFault).2.1
  rw [DomainStands, ← hhost] at stands
  rw [← hhost] at hfault
  have hform := HostForm.of_readHost hread hne hfault stands
  exact parse_display_of_form hfile hform (by rw [lowerCase_lowerCase, hhost])

/-- A URL that is read from the text of another one is this other one if it has the same text. -/
theorem eq_of_display {u v : Url} (h : parse v.display = .ok u) (same : u.display = v.display) :
    u = v := by
  obtain ⟨-, ⟨htag, hport, hname⟩, -⟩ := of_parse_display h
  have hhost : u.host = v.host := by
    have texts := congrArg String.toList same
    rw [display, display, toList_written, toList_written, htag, hport, hname] at texts
    simpa [String.toList_inj] using texts
  obtain ⟨tag, host, port, name⟩ := u
  obtain ⟨tag', host', port', name'⟩ := v
  congr

/-- Reading gives a canonical form: it is read from its written form, it is made of its own parts,
and two texts are read as the same URL exactly when the results are written alike. -/
theorem parse_canonical {input : String} {u : Url} (h : parse input = .ok u)
    (stands : u.DomainStands) :
    parse u.display = .ok u ∧ new u.tag u.host u.port u.name = .ok u ∧
      ∀ other v, parse other = .ok v → (u = v ↔ u.display = v.display) := by
  have hu := parse_display_of_parse h stands
  exact ⟨hu, new_self u, fun _ v _ => ⟨congrArg display, fun same =>
    eq_of_display (same ▸ hu) same⟩⟩

/-- Two spellings of one address: they differ by letter case, slashes, dot segments, escapes, the
default port and the form of the number. -/
theorem parse_canonical_spellings :
    ∃ u, parse "HTTP:///0x7F.1/./x/../%6Eode" = .ok u ∧ u.DomainStands ∧
      parse "http:\\\\127.0.0.1:080/node" = .ok u ∧ parse u.display = .ok u ∧
      u.display = "http://127.0.0.1:80/node" := by
  have h1 : (parse "HTTP:///0x7F.1/./x/../%6Eode").toOption.any fun u =>
      u.display = "http://127.0.0.1:80/node" ∧ u.DomainStands := by decide +kernel
  have h2 : (parse "http:\\\\127.0.0.1:080/node").toOption.map display =
      some "http://127.0.0.1:80/node" := by decide +kernel
  obtain ⟨u, hu, h1⟩ := (Option.any_eq_true _ _).1 h1
  obtain ⟨v, hv, hvd⟩ := Option.map_eq_some_iff.1 h2
  obtain ⟨hud, stands⟩ := of_decide_eq_true h1
  rw [toOption_eq_some_iff] at hu hv
  obtain ⟨hself, -, hiff⟩ := parse_canonical hu stands
  have hsame : u = v := (hiff _ v hv).2 (hud.trans hvd.symm)
  exact ⟨u, hu, stands, hsame ▸ hv, hself, hud⟩

end ActiveObjects.Url

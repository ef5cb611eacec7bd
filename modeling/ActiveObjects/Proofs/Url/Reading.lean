import ActiveObjects.Proofs.Except
import ActiveObjects.Proofs.Url.Host

/-!
# What is read as a URL

Where the parts of a text that is taken apart come from: its tag stands first, and its host is read
by the rules for hosts. File URLs have no port.
-/

namespace ActiveObjects.Url

variable {special : Bool} {cs : List Char} {host input : String}

/-- A host that is not empty is read by the rules for hosts. -/
def IsRead (special : Bool) (host : String) : Prop :=
  ∃ cs, readHost special cs = .ok host ∧ (special ∨ cs ≠ [])

theorem IsRead.of_kept {v : String} (h : readHost special cs = .ok v)
    (hv : (if v = "" then none else some v) = some host) : IsRead special host := by
  split at hv
  · cases hv
  · rename_i hne
    cases hv
    refine ⟨cs, h, ?_⟩
    cases special with
    | true => exact .inl rfl
    | false =>
      right
      rintro rfl
      cases h
      exact hne rfl

/-- With or without user info, the host is read by the same rules. -/
theorem IsRead.of_readAuthority {a : Authority} (h : readAuthority special cs = .ok a)
    (ha : a.host = some host) : IsRead special host := by
  unfold readAuthority at h
  simp only [bind, Except.bind, throw, throwThe, MonadExceptOf.throw, pure, Except.pure] at h
  -- first by the user info, then by the scheme; a port may follow
  split at h
  all_goals
    split at h
    · cases h
    split at h
    · cases h
    split at h
    all_goals
      rename_i hs
      split at h
      · cases h
      rename_i v hv
      obtain ⟨text, hread⟩ : ∃ text, readHost special text = .ok v :=
        ⟨_, by simpa [readHost, hs] using hv⟩
      split at h
      · cases h
      split at h
      · split at h
        · cases h
        split at h
        · cases h
        cases h
        exact .of_kept hread ha
      · split at h
        · cases h
        cases h
        exact .of_kept hread ha

/-- A scheme is read in small letters. -/
theorem lowerCase_of_scheme? {tag : String} {rest : List Char}
    (h : scheme? cs = some (tag, rest)) : lowerCase tag = tag := by
  unfold scheme? at h
  split at h
  · cases h
  dsimp only at h
  split at h
  · split at h
    · cases h
      exact lowerCase_lowerCase _
    · cases h
  · cases h

/-- The parts of a text, as far as they tell whether it is a canonical URL. -/
structure Reads (input : String) (parts : Split) : Prop where
  scheme : ∃ rest, scheme? (tidy input.toList) = some (parts.tag, rest)
  port : parts.tag = "file" → parts.port = none
  host : ∀ host, parts.host = some host → parts.tag ≠ "file" →
    IsRead (SchemeKind.of parts.tag).isSpecial host

theorem tag_eq_file_of_kind {tag : String} (h : SchemeKind.of tag = .file) : tag = "file" := by
  unfold SchemeKind.of at h
  split at h
  · assumption
  · split at h <;> cases h

theorem tag_ne_file_of_kind {tag : String} (h : SchemeKind.of tag ≠ .file) : tag ≠ "file" := by
  rintro rfl
  exact h rfl

theorem Reads.of_split {parts : Split} (h : split input = .ok parts) : Reads input parts := by
  unfold split at h
  cases hs : scheme? (tidy input.toList) with
  | none =>
    rw [hs] at h
    cases h
  | some found =>
    obtain ⟨tag, rest⟩ := found
    rw [hs] at h
    simp only [pure_bind] at h
    -- an authority follows the tag of a plain or a web URL
    split at h
    · rename_i rest hk
      obtain ⟨authority, ha, hp⟩ := bind_eq_ok_iff.1 h
      cases hp
      refine ⟨⟨_, hs⟩, fun he => absurd he (tag_ne_file_of_kind (by rw [hk]; decide)), ?_⟩
      intro host hh _
      rw [hk]
      exact .of_readAuthority ha hh
    · cases h
      exact ⟨⟨_, hs⟩, fun _ => rfl, fun host hh => by cases hh⟩
    · rename_i rest hk
      obtain ⟨authority, ha, hp⟩ := bind_eq_ok_iff.1 h
      cases hp
      refine ⟨⟨_, hs⟩, fun he => absurd he (tag_ne_file_of_kind (by rw [hk]; decide)), ?_⟩
      intro host hh _
      rw [hk]
      exact .of_readAuthority ha hh
    · rename_i a b rest hk
      have hfile : tag = "file" := tag_eq_file_of_kind hk
      split at h
      · obtain ⟨host, -, hp⟩ := bind_eq_ok_iff.1 h
        cases hp
        exact ⟨⟨_, hs⟩, fun _ => rfl, fun _ _ hne => absurd hfile hne⟩
      · cases h
        exact ⟨⟨_, hs⟩, fun _ => rfl, fun host hh => by cases hh⟩
    · cases h
      exact ⟨⟨_, hs⟩, fun _ => rfl, fun host hh => by cases hh⟩

/-- A text that has host, port and name is no file URL, and its host is not empty. -/
theorem nameParts_spec {tag name : String} {port : UInt16}
    (h : nameParts input = .ok (tag, host, port, name)) :
    (∃ rest, scheme? (tidy input.toList) = some (tag, rest)) ∧ tag ≠ "file" ∧
      IsRead (SchemeKind.of tag).isSpecial host := by
  unfold nameParts at h
  obtain ⟨parts, hs, h⟩ := bind_eq_ok_iff.1 h
  have hr := Reads.of_split hs
  cases hh : parts.host with
  | none =>
    rw [hh] at h
    cases h
  | some found =>
    cases hp : parts.port with
    | none =>
      rw [hh, hp] at h
      cases h
    | some n =>
      have hne : parts.tag ≠ "file" := by
        intro he
        rw [hr.port he] at hp
        cases hp
      rw [hh, hp] at h
      simp only [pure_bind] at h
      split at h
      · cases h
      · split at h
        · cases h
        · cases h
          exact ⟨hr.scheme, hne, hr.host _ hh hne⟩

end ActiveObjects.Url

import ActiveObjects.Proofs.Naming.Calls
import ActiveObjects.Proofs.Runtime.Operations

/-!
# Entering names

A name is entered under the URL that it stands for, if the runtime is running and the host of the
URL has an address. What a runtime enters is bound to the runtime itself, and nothing is unbound.
-/

namespace ActiveObjects

open Site

namespace Naming

/-- Calls that come after so many others speak of a conflict only where one is: a URL that is to be
bound is bound already, or an earlier call got through to bind it. To replace a binding is no
conflict. -/
structure HonestAfter (naming : Naming) (earlier : Nat) : Prop where
  bind (url : Url) : (naming.failure? .bind url earlier).any (·.isNameConflict) →
    naming.contains url ∨ ∃ before < earlier, naming.failure? .bind url before = none
  rebind (url : Url) : ¬ (naming.failure? .rebind url earlier).any (·.isNameConflict)

/-- The naming facility never speaks of a conflict where there is none, as long as nothing is
unbound. -/
def Honest (naming : Naming) : Prop := ∀ earlier, naming.HonestAfter earlier

variable {naming : Naming} {url : Url} {replaceIfBound strict : Bool}

/-- A naming facility that speaks of no conflict on its own is honest. -/
theorem honest_of_quiet (h : ∀ call url earlier,
    ¬ (naming.failure? call url earlier).any (·.isNameConflict)) : naming.Honest := fun earlier =>
  ⟨fun url hf => absurd hf (h .bind url earlier), fun url => h .rebind url earlier⟩

/-- What leaves a binding as it is met a conflict. -/
theorem obstacle?_of_alreadyBound
    (h : naming.enterResult strict url replaceIfBound = .ok .alreadyBound) :
    ∃ e, naming.obstacle? url replaceIfBound = some e ∧ e.isNameConflict = true := by
  cases ho : naming.obstacle? url replaceIfBound with
  | none =>
    rw [enterResult, ho] at h
    cases replaceIfBound <;> simp at h
  | some e =>
    refine ⟨e, rfl, ?_⟩
    cases hc : e.isNameConflict with
    | true => rfl
    | false => simp [enterResult, ho, hc] at h

theorem bindings_enter_of_alreadyBound {handle : RuntimeHandle}
    (h : naming.enterResult strict url replaceIfBound = .ok .alreadyBound) :
    (naming.enter url handle replaceIfBound).bindings = naming.bindings := by
  obtain ⟨e, ho, -⟩ := obstacle?_of_alreadyBound h
  rw [enter_of_obstacle ho, bindings_spend]

/-- An honest naming facility leaves a binding that is there and is not to be replaced. -/
theorem HonestAfter.of_alreadyBound (hh : naming.HonestAfter 0)
    (h : naming.enterResult strict url replaceIfBound = .ok .alreadyBound) :
    replaceIfBound = false ∧ naming.contains url := by
  obtain ⟨e, ho, hc⟩ := obstacle?_of_alreadyBound h
  cases replaceIfBound with
  | true =>
    refine absurd ?_ (hh.rebind url)
    rw [show naming.failure? .rebind url 0 = some e from ho, Option.any_some, hc]
  | false =>
    refine ⟨rfl, ?_⟩
    cases hf : naming.failure? .bind url 0 with
    | some e' =>
      have he : e' = e := by simpa [obstacle?, hf] using ho
      simpa using hh.bind url (by simp [hf, he, hc])
    | none =>
      cases hb : naming.contains url with
      | true => rfl
      | false => simp [obstacle?, hf, hb] at ho

/-- A registration that goes through, in place of another binding or not. -/
theorem obstacle?_eq_none_of_ok {outcome : RegisterOutcome}
    (h : naming.enterResult strict url replaceIfBound = .ok outcome)
    (hn : outcome ≠ .alreadyBound) : naming.obstacle? url replaceIfBound = none := by
  cases ho : naming.obstacle? url replaceIfBound with
  | none => rfl
  | some e =>
    rw [enterResult, ho] at h
    dsimp only at h
    split at h
    · split at h <;> cases h
      exact absurd rfl hn
    · cases h

theorem contains_enter {handle : RuntimeHandle} {other : Url} (h : naming.contains other) :
    (naming.enter url handle replaceIfBound).contains other := by
  rw [contains, Std.ExtTreeMap.contains_eq_isSome_getElem?] at h ⊢
  rw [getElem?_enter]
  split
  · rfl
  · exact h

/-- What is entered does not make a naming facility dishonest: a URL is bound once a call got
through to bind it. -/
theorem Honest.enter (hh : naming.Honest) (url : Url) (handle : RuntimeHandle)
    (replaceIfBound : Bool) : (naming.enter url handle replaceIfBound).Honest := by
  refine fun earlier => ⟨fun address hf => ?_, fun address => ?_⟩
  · simp only [failure?_enter] at hf ⊢
    by_cases hc : NamingCall.bind = binder replaceIfBound ∧ address = url
    · simp only [hc, and_self, if_true] at hf ⊢
      obtain ⟨hcall, rfl⟩ := hc
      rw [← hcall] at hf ⊢
      rcases (hh (earlier + 1)).bind address hf with hb | ⟨_ | before, hlt, hn⟩
      · exact .inl (contains_enter hb)
      · -- The call that is just made got through.
        have plain : replaceIfBound = false := by
          cases replaceIfBound with
          | true => cases hcall
          | false => rfl
        subst plain
        cases hb : naming.contains address with
        | true => exact .inl (contains_enter hb)
        | false =>
          have ho : naming.obstacle? address false = none := by simp [obstacle?, hn, hb]
          left
          rw [contains, Std.ExtTreeMap.contains_eq_isSome_getElem?, getElem?_enter, if_pos ⟨ho, rfl⟩]
          rfl
      · exact .inr ⟨before, by omega, hn⟩
    · simp only [hc, if_false] at hf ⊢
      exact ((hh earlier).bind address hf).imp_left contains_enter
  · rw [failure?_enter]
    exact (hh _).rebind address

end Naming

/-! ## What is gained -/

/-- Bindings stay, or become those of the runtime at the site. -/
structure Gains (s s' : Site) : Prop where
  handle : s'.runtime.handle = s.runtime.handle
  later : s.naming.Later s'.naming
  honest : s.naming.Honest → s'.naming.Honest
  bound (url : Url) : s'.naming.bindings[url]? = s.naming.bindings[url]? ∨
    s'.naming.bindings[url]? = some s.runtime.handle

instance : IsPreorder Site Gains where
  refl s := ⟨rfl, Naming.later_refl s.naming, id, fun _ => .inl rfl⟩
  trans s₁ s₂ s₃ h h' := by
    refine ⟨h'.handle.trans h.handle, h.later.trans h'.later, h'.honest ∘ h.honest, fun url => ?_⟩
    rcases h'.bound url with hb | hb
    · rw [hb]
      exact h.bound url
    · exact .inr (h.handle ▸ hb)

namespace Gains

variable {s s' : Site}

theorem of_same (hn : s'.naming = s.naming) (hi : Part.identity.Same s s') : Gains s s' where
  handle := hi.handle_eq
  later := hn ▸ Naming.later_refl s.naming
  honest := hn ▸ id
  bound url := .inl (by rw [hn])

theorem of_enter {url : Url} {replaceIfBound : Bool}
    (hn : s'.naming = s.naming.enter url s.runtime.handle replaceIfBound)
    (hi : Part.identity.Same s s') : Gains s s' where
  handle := hi.handle_eq
  later := hn ▸ Naming.later_enter ..
  honest hh := hn ▸ hh.enter url _ replaceIfBound
  bound other := by
    rw [hn, Naming.getElem?_enter]
    split
    · exact .inr rfl
    · exact .inl rfl

/-- What is bound to the runtime stays bound to it. -/
theorem own (h : Gains s s') {url : Url}
    (hb : s.naming.bindings[url]? = some s.runtime.handle) :
    s'.naming.bindings[url]? = some s.runtime.handle := by
  rcases h.bound url with hs | hs
  · rw [hs, hb]
  · exact hs

end Gains

theorem Touches.gains {parts : List Part} {s s' : Site} (h : Touches parts s s')
    (hn : .naming ∉ parts) (hi : .identity ∉ parts) : Gains s s' :=
  .of_same (h .naming hn) (h .identity hi)

/-- What a runtime registers for itself. -/
theorem Registry.register_gains (url : Url) (replaceIfBound : Bool) (site : Site) :
    MovesFrom Gains site (attempt (register url site.runtime.handle replaceIfBound)) := by
  rcases hr : (attempt (register url site.runtime.handle replaceIfBound)).run site with
    ⟨result, site'⟩
  obtain ⟨-, hn, hs⟩ := run_register hr
  rw [MovesFrom, hr]
  exact .of_enter hn (by simp [Part.Same, hs])

/-! ## Names -/

namespace Runtime

/-- The URL that a name stands for, if its host has an address. -/
def entryUrl (runtime : Runtime) (name : String) : Except RuntimeError Url := do
  let url ← runtime.nodeUrl name
  let _ ← runtime.resolveHost url
  return url

theorem nodeUrl_of_entryUrl {runtime : Runtime} {name : String} {url : Url}
    (h : runtime.entryUrl name = .ok url) : runtime.nodeUrl name = .ok url := by
  obtain ⟨found, hu, h⟩ := bind_eq_ok_iff.1 h
  obtain ⟨-, -, h⟩ := bind_eq_ok_iff.1 h
  cases h
  exact hu

/-- What a name stands for depends on what the runtime was started with. -/
theorem entryUrl_congr {s s' : Site} (h : Part.identity.Same s s') (name : String) :
    s'.runtime.entryUrl name = s.runtime.entryUrl name := by
  obtain ⟨-, -, hu, -, hr, -⟩ := h
  unfold entryUrl nodeUrl resolveHost
  rw [hu, hr]

/-- A name is looked up before anything is done under it. -/
theorem run_entryUrl {α : Type} (name : String) (f : Url → Action α) (site : Site) :
    (attempt (do
      let url ← ask (·.nodeUrl name)
      let _ ← ask (·.resolveHost url)
      f url)).run site =
      match site.runtime.entryUrl name with
      | .error e => (.error e, site)
      | .ok url => (attempt (f url)).run site := by
  unfold entryUrl
  rw [run_attempt_bind, run_attempt_ask]
  cases site.runtime.nodeUrl name with
  | error e => rfl
  | ok url =>
    dsimp only
    rw [run_attempt_bind, run_attempt_ask]
    show _ = match (do let _ ← site.runtime.resolveHost url; return url) with
      | .error e => _
      | .ok url => _
    cases site.runtime.resolveHost url <;> rfl

end Runtime

end ActiveObjects

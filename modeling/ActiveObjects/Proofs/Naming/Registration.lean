import ActiveObjects.Proofs.Fleet.Runs
import ActiveObjects.Proofs.Naming.Calls

/-!
# What the outcome of a registration tells

A registration goes by the error of the naming facility alone, and never looks at the binding. So
its outcome tells what became of the URL, apart from a replacement, which is reported as one even
if nothing was there to be replaced.
-/

namespace ActiveObjects

namespace Naming

variable {naming after : Naming} {url : Url} {handle : RuntimeHandle} {strict replaceIfBound : Bool}
  {result : Except RuntimeError RegisterOutcome}

/-- The failure, if any, of the call that is to bind the URL. -/
def bindFault? (naming : Naming) (url : Url) (replaceIfBound : Bool) : Option RuntimeError :=
  naming.failure? (binder replaceIfBound) url 0

/-! ## The ways a registration ends -/

/-- The ways a registration ends: what it returns, and the names that it leaves. -/
inductive Registers (naming : Naming) (strict : Bool) (url : Url) (handle : RuntimeHandle)
    (replaceIfBound : Bool) : Except RuntimeError RegisterOutcome → Naming → Prop where
  | failed {e : RuntimeError} (hf : naming.bindFault? url replaceIfBound = some e) :
      Registers naming strict url handle replaceIfBound
        (.error (Registry.wrapTransport e "cannot bind in registry" url))
        (naming.spend (binder replaceIfBound) url)
  | rebound (hf : naming.bindFault? url replaceIfBound = none) (hr : replaceIfBound = true) :
      Registers naming strict url handle replaceIfBound (.ok .rebound)
        ({ naming with bindings := naming.bindings.insert url handle }.spend
          (binder replaceIfBound) url)
  | bound (hf : naming.bindFault? url replaceIfBound = none) (hr : replaceIfBound = false)
      (hu : url ∉ naming.bindings) :
      Registers naming strict url handle replaceIfBound (.ok .bound)
        ({ naming with bindings := naming.bindings.insert url handle }.spend
          (binder replaceIfBound) url)
  | alreadyBound (hf : naming.bindFault? url replaceIfBound = none) (hr : replaceIfBound = false)
      (hu : url ∈ naming.bindings) (hs : strict = false) :
      Registers naming strict url handle replaceIfBound (.ok .alreadyBound)
        (naming.spend (binder replaceIfBound) url)
  | conflict (hf : naming.bindFault? url replaceIfBound = none) (hr : replaceIfBound = false)
      (hu : url ∈ naming.bindings) (hs : strict = true) :
      Registers naming strict url handle replaceIfBound (.error (.nameConflict url.display))
        (naming.spend (binder replaceIfBound) url)

/-- A registration ends in one of these ways if no failure of the naming facility looks like a
conflict. -/
theorem registers (hc : ∀ e, naming.bindFault? url replaceIfBound = some e →
      e.isNameConflict = false) :
    naming.Registers strict url handle replaceIfBound
      (naming.enterResult strict url replaceIfBound)
      (naming.enter url handle replaceIfBound) := by
  cases hf : naming.bindFault? url replaceIfBound with
  | some e =>
    have ho : naming.obstacle? url replaceIfBound = some e := by
      cases replaceIfBound with
      | false =>
        have hf : naming.failure? .bind url 0 = some e := hf
        simp [obstacle?, hf]
      | true => exact hf
    rw [enter_of_obstacle ho, enterResult, ho]
    simp only [hc e hf]
    exact .failed hf
  | none =>
    cases replaceIfBound with
    | true =>
      have ho : naming.obstacle? url true = none := hf
      rw [enter, enterResult, ho]
      exact .rebound hf rfl
    | false =>
      have hfault : naming.failure? .bind url 0 = none := hf
      by_cases hu : url ∈ naming.bindings
      · have ho : naming.obstacle? url false = some (.nameConflict url.display) := by
          simp [obstacle?, hfault, contains, Std.ExtTreeMap.contains_iff_mem.2 hu]
        rw [enter_of_obstacle ho, enterResult, ho]
        cases strict with
        | true => exact .conflict hf rfl hu rfl
        | false => exact .alreadyBound hf rfl hu rfl
      · have ho : naming.obstacle? url false = none := by
          simp [obstacle?, hfault, contains, hu]
        rw [enter, enterResult, ho]
        exact .bound hf rfl hu

/-! ## What the outcome tells -/

/-- What each outcome of a registration tells of it. -/
structure Tells (naming after : Naming) (strict : Bool) (url : Url) (handle : RuntimeHandle)
    (replaceIfBound : Bool) (result : Except RuntimeError RegisterOutcome) : Prop where
  /-- The URL was free and is bound now, and this was no replacement. -/
  bound_iff : result = .ok .bound ↔
    replaceIfBound = false ∧ url ∉ naming.bindings ∧ after.bindings[url]? = some handle
  /-- This was a replacement, whether there was something to replace or not. -/
  rebound_iff : result = .ok .rebound ↔
    replaceIfBound = true ∧ naming.bindFault? url replaceIfBound = none
  alreadyBound_iff : result = .ok .alreadyBound ↔
    naming.bindFault? url replaceIfBound = none ∧ url ∈ naming.bindings ∧
      replaceIfBound = false ∧ strict = false
  nameConflict_iff (name : String) : result = .error (.nameConflict name) ↔
    name = url.display ∧ naming.bindFault? url replaceIfBound = none ∧ url ∈ naming.bindings ∧
      replaceIfBound = false ∧ strict = true
  /-- An error of transport is the failure of the call, together with its message. -/
  failed_iff (e : RuntimeError) : result = .error e ∧ e.isTransportFailure = true ↔
    ∃ met, naming.bindFault? url replaceIfBound = some met ∧
      e = Registry.wrapTransport met "cannot bind in registry" url
  /-- The URL is bound to the handle if the outcome says so. All else is as it was. -/
  bindings (other : Url) : after.bindings[other]? =
    if other = url ∧ (result = .ok .bound ∨ result = .ok .rebound) then some handle
    else naming.bindings[other]?
  unchanged (e : RuntimeError) : result = .error e → after.bindings = naming.bindings
  /-- The call is used up, and no call of another kind or at another URL is. -/
  later (call : NamingCall) (other : Url) (earlier : Nat) :
    after.failure? call other earlier = naming.failure? call other
      (if call = binder replaceIfBound ∧ other = url then earlier + 1 else earlier)

theorem Registers.tells (h : naming.Registers strict url handle replaceIfBound result after) :
    naming.Tells after strict url handle replaceIfBound result := by
  have inserted (other : Url) : (naming.bindings.insert url handle)[other]? =
      if other = url then some handle else naming.bindings[other]? := by
    simp only [Std.ExtTreeMap.getElem?_insert, Std.compare_eq_iff_eq, @eq_comm _ url other]
  have free (hu : url ∉ naming.bindings) : naming.bindings[url]? ≠ some handle := by
    simp [Std.ExtTreeMap.getElem?_eq_none hu]
  cases h with
  | @failed met hf =>
    have kind := (Registry.wrapTransport_kind met "cannot bind in registry" url).1
    generalize hw : Registry.wrapTransport met "cannot bind in registry" url = wrapped at kind
    exact {
      bound_iff := by simpa using fun _ hu => free hu
      rebound_iff := by simp [hf]
      alreadyBound_iff := by simp [hf]
      nameConflict_iff := by
        intro name
        have other : wrapped ≠ .nameConflict name := by
          rintro rfl
          cases kind
        simp [hf, other]
      failed_iff := by
        intro e
        simp only [hf, Except.error.injEq, Option.some.injEq, exists_eq_left', hw]
        exact ⟨fun h => h.1.symm, by rintro rfl; exact ⟨rfl, kind⟩⟩
      bindings := by simp
      unchanged := fun _ _ => bindings_spend ..
      later := fun _ _ _ => failure?_spend .. }
  | rebound hf hr =>
    subst hr
    exact {
      bound_iff := by simp
      rebound_iff := by simp [hf]
      alreadyBound_iff := by simp
      nameConflict_iff := by simp
      failed_iff := by simp [hf]
      bindings := by simpa using inserted
      unchanged := by simp
      later := fun _ _ _ => failure?_spend .. }
  | bound hf hr hu =>
    subst hr
    exact {
      bound_iff := by simp [hu]
      rebound_iff := by simp
      alreadyBound_iff := by simp [hu]
      nameConflict_iff := by simp [hu]
      failed_iff := by simp [hf]
      bindings := by simpa using inserted
      unchanged := by simp
      later := fun _ _ _ => failure?_spend .. }
  | alreadyBound hf hr hu hs =>
    subst hr hs
    exact {
      bound_iff := by simp [hu]
      rebound_iff := by simp
      alreadyBound_iff := by simp [hf, hu]
      nameConflict_iff := by simp
      failed_iff := by simp [hf]
      bindings := by simp
      unchanged := by simp
      later := fun _ _ _ => failure?_spend .. }
  | conflict hf hr hu hs =>
    subst hr hs
    exact {
      bound_iff := by simp [hu]
      rebound_iff := by simp
      alreadyBound_iff := by simp
      nameConflict_iff := by
        intro name
        simp [hf, hu, eq_comm]
      failed_iff := by
        intro e
        simp only [hf, Except.error.injEq, reduceCtorEq, false_and, exists_false, iff_false]
        rintro ⟨rfl, ht⟩
        cases ht
      bindings := by simp
      unchanged := fun _ _ => bindings_spend ..
      later := fun _ _ _ => failure?_spend .. }

/-- As the outcomes are described: `Bound` for a URL that was free and is bound now, `Rebound` for
a binding that was there and has been replaced. -/
def AsDescribed (naming after : Naming) (url : Url) (handle : RuntimeHandle)
    (replaceIfBound : Bool) (result : Except RuntimeError RegisterOutcome) : Prop :=
  (result = .ok .bound ↔ url ∉ naming.bindings ∧ after.bindings[url]? = some handle) ∧
    (result = .ok .rebound ↔ url ∈ naming.bindings ∧ replaceIfBound = true ∧
      naming.bindFault? url replaceIfBound = none)

/-- The two outcomes are as they are described but for a replacement where nothing was bound. -/
theorem Tells.asDescribed_iff
    (h : naming.Tells after strict url handle replaceIfBound result) :
    naming.AsDescribed after url handle replaceIfBound result ↔
      ¬ (replaceIfBound = true ∧ url ∉ naming.bindings ∧
        naming.bindFault? url replaceIfBound = none) := by
  constructor
  · rintro ⟨-, rebound⟩ ⟨hr, hu, hf⟩
    exact hu (rebound.1 (h.rebound_iff.2 ⟨hr, hf⟩)).1
  · intro hn
    constructor
    · rw [h.bound_iff]
      refine and_iff_right_of_imp ?_
      rintro ⟨hu, hb⟩
      -- A URL that has come to be bound was bound without a failure.
      rw [h.bindings] at hb
      split at hb
      · rename_i entered
        rcases entered.2 with bound | rebound
        · exact (h.bound_iff.1 bound).1
        · have replaced := h.rebound_iff.1 rebound
          exact absurd ⟨replaced.1, hu, replaced.2⟩ hn
      · rw [Std.ExtTreeMap.getElem?_eq_none hu] at hb
        cases hb
    · rw [h.rebound_iff]
      refine (and_iff_right_of_imp ?_).symm
      rintro ⟨hr, hf⟩
      by_contra hu
      exact hn ⟨hr, hu, hf⟩

end Naming

namespace Registry

open Site

variable {url : Url} {handle : RuntimeHandle} {replaceIfBound : Bool} {site site' : Site}
  {result : Except RuntimeError RegisterOutcome}

/-- Whatever the state, a registration whose naming facility does not fail with a conflict tells by
its outcome what happened, and happens to the names only. The outcome is as described unless the
URL was to be replaced and was free. -/
theorem register_tells
    (hc : ∀ e, site.naming.bindFault? url replaceIfBound = some e → e.isNameConflict = false)
    (hr : (attempt (register url handle replaceIfBound)).run site = (result, site')) :
    site.naming.Tells site'.naming site.runtime.strict url handle replaceIfBound result ∧
      site'.runtime = site.runtime ∧
      (site.naming.AsDescribed site'.naming url handle replaceIfBound result ↔
        ¬ (replaceIfBound = true ∧ url ∉ site.naming.bindings ∧
          site.naming.bindFault? url replaceIfBound = none)) := by
  obtain ⟨rfl, hn, hs⟩ := run_register hr
  have tells : site.naming.Tells site'.naming site.runtime.strict url handle replaceIfBound
      (site.naming.enterResult site.runtime.strict url replaceIfBound) :=
    hn ▸ (Naming.registers hc).tells
  exact ⟨tells, hs, tells.asDescribed_iff⟩

/-- A runtime that is not strict registers the URL of its node once more. -/
theorem register_tells_opening :
    ∃ runtime url, (({} : Fleet).after [Fleet.opening 1 1099]).world.runtime? 1 = some runtime ∧
      runtime.nodeUrl "n" = .ok url ∧
      ((attempt (register url runtime.handle false)).run
        ((({} : Fleet).after [Fleet.opening 1 1099]).world.site runtime)).1 =
          .ok .alreadyBound := by
  have h : ((({} : Fleet).after [Fleet.opening 1 1099]).world.runtime? 1).any fun runtime =>
      (runtime.nodeUrl "n").toOption.any fun url => runtime.strict = false ∧
        (({} : Fleet).after [Fleet.opening 1 1099]).world.naming.bindFault? url false = none ∧
        url ∈ (({} : Fleet).after [Fleet.opening 1 1099]).world.naming.bindings := by
    decide +kernel
  obtain ⟨runtime, hr, h⟩ := (Option.any_eq_true _ _).1 h
  obtain ⟨url, hu, h⟩ := (Option.any_eq_true _ _).1 h
  obtain ⟨lax, reached, bound⟩ := of_decide_eq_true h
  refine ⟨runtime, url, hr, toOption_eq_some_iff.1 hu, ?_⟩
  have quiet (e : RuntimeError)
      (he : ((({} : Fleet).after [Fleet.opening 1 1099]).world.site runtime).naming.bindFault? url
        false = some e) : e.isNameConflict = false := nomatch reached.symm.trans he
  obtain ⟨tells, -, -⟩ := register_tells quiet rfl
  exact tells.alreadyBound_iff.2 ⟨reached, bound, rfl, lax⟩

/-- A runtime registers a URL that is free, in place of a binding that might be there. -/
theorem rebound_though_free :
    ∃ runtime url, (({} : Fleet).after [Fleet.opening 1 1099]).world.runtime? 1 = some runtime ∧
      runtime.nodeUrl "t" = .ok url ∧
      let site := (({} : Fleet).after [Fleet.opening 1 1099]).world.site runtime
      let run := (attempt (register url runtime.handle true)).run site
      site.naming.bindFault? url true = none ∧ url ∉ site.naming.bindings ∧
        run.1 = .ok .rebound ∧ run.2.naming.bindings[url]? = some runtime.handle ∧
        ¬ site.naming.AsDescribed run.2.naming url runtime.handle true run.1 := by
  have h : ((({} : Fleet).after [Fleet.opening 1 1099]).world.runtime? 1).any fun runtime =>
      (runtime.nodeUrl "t").toOption.any fun url =>
        let site := (({} : Fleet).after [Fleet.opening 1 1099]).world.site runtime
        let run := (attempt (register url runtime.handle true)).run site
        site.naming.bindFault? url true = none ∧ url ∉ site.naming.bindings ∧
          run.1 = .ok .rebound ∧ run.2.naming.bindings[url]? = some runtime.handle := by
    decide +kernel
  obtain ⟨runtime, hr, h⟩ := (Option.any_eq_true _ _).1 h
  obtain ⟨url, hu, h⟩ := (Option.any_eq_true _ _).1 h
  obtain ⟨reached, free, rebound, bound⟩ := of_decide_eq_true h
  refine ⟨runtime, url, hr, toOption_eq_some_iff.1 hu, reached, free, rebound, bound, ?_⟩
  exact fun described => free (described.2.1 rebound).1

end Registry

end ActiveObjects

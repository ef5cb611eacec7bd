import Mathlib.Data.List.Nodup
import ActiveObjects.Proofs.Runtime.Bodies

/-!
# What registrations do to the names

A registration enters its URL, leaves a binding that is there, or fails and changes nothing. An
unregistration takes a URL out unless the naming facility fails to do so.
-/

namespace ActiveObjects

namespace Naming

variable {naming naming' naming'' : Naming} {url : Url} {handle : RuntimeHandle}

@[simp] theorem bindings_spend (naming : Naming) (call : NamingCall) (url : Url) :
    (naming.spend call url).bindings = naming.bindings := by
  unfold spend
  split <;> rfl

@[simp] theorem contains_spend (naming : Naming) (call : NamingCall) (url other : Url) :
    (naming.spend call url).contains other = naming.contains other := by
  rw [contains, bindings_spend, contains]

/-- The calls of that kind at that URL are one call nearer. -/
theorem failure?_spend (naming : Naming) (call other : NamingCall) (url address : Url)
    (earlier : Nat) :
    (naming.spend call url).failure? other address earlier =
      naming.failure? other address
        (if other = call ∧ address = url then earlier + 1 else earlier) := by
  unfold spend
  split <;> rename_i ha
  · split
    · rename_i ho
      rw [failure?, failure?, ho.1, ho.2, ha]
      rfl
    · rfl
  · unfold failure?
    dsimp only
    split
    · rename_i ho
      rw [ho.1, ho.2, ha]
      rfl
    · rfl

/-- Of the calls to come some have been made in the meantime. -/
def Later (naming naming' : Naming) : Prop :=
  ∃ made : NamingCall → Url → Nat, ∀ call url earlier,
    naming'.failure? call url earlier = naming.failure? call url (made call url + earlier)

theorem later_refl (naming : Naming) : naming.Later naming := ⟨fun _ _ => 0, by simp⟩

theorem Later.trans (h : Later naming naming') (h' : Later naming' naming'') :
    Later naming naming'' := by
  obtain ⟨made, h⟩ := h
  obtain ⟨made', h'⟩ := h'
  refine ⟨fun call url => made call url + made' call url, fun call url earlier => ?_⟩
  rw [h', h, Nat.add_assoc]

theorem later_spend (naming : Naming) (call : NamingCall) (url : Url) :
    naming.Later (naming.spend call url) := by
  refine ⟨fun other address => if other = call ∧ address = url then 1 else 0, ?_⟩
  intro other address earlier
  dsimp only
  rw [failure?_spend]
  split
  · rw [Nat.add_comm]
  · rw [Nat.zero_add]

/-- No call of the naming facility fails. -/
def Reliable (naming : Naming) : Prop :=
  ∀ call url earlier, naming.failure? call url earlier = none

theorem Reliable.later (h : naming.Reliable) (hl : Later naming naming') : naming'.Reliable := by
  obtain ⟨made, hl⟩ := hl
  intro call url earlier
  rw [hl, h]

/-- The next call to unbind the URL is not an error: it goes through, or the naming facility claims
that there is no binding. -/
def LetsGo (naming : Naming) (url : Url) : Prop :=
  (naming.failure? .unbind url 0).all (·.isNotBound)

instance (naming : Naming) (url : Url) : Decidable (naming.LetsGo url) :=
  inferInstanceAs (Decidable (_ = true))

theorem Reliable.letsGo (h : naming.Reliable) (url : Url) : naming.LetsGo url := by
  rw [LetsGo, h]
  rfl

theorem resolve_eq_ok_iff :
    naming.resolve url = .ok handle ↔ naming.bindings[url]? = some handle := by
  unfold resolve
  cases naming.bindings[url]? <;> simp

/-! ## Putting in -/

/-- The call that puts a binding in. -/
def binder (replaceIfBound : Bool) : NamingCall := if replaceIfBound then .rebind else .bind

/-- What keeps a URL from being bound, be it in place of another binding. -/
def obstacle? (naming : Naming) (url : Url) (replaceIfBound : Bool) : Option RuntimeError :=
  if replaceIfBound then naming.failure? .rebind url 0
  else (naming.failure? .bind url 0).or
    (if naming.contains url then some (.nameConflict url.display) else none)

/-- The naming facility after a call to bind a URL, which binds it unless something keeps it from
that. -/
def enter (naming : Naming) (url : Url) (handle : RuntimeHandle) (replaceIfBound : Bool) : Naming :=
  match naming.obstacle? url replaceIfBound with
  | some _ => naming.spend (binder replaceIfBound) url
  | none =>
    { naming with bindings := naming.bindings.insert url handle }.spend (binder replaceIfBound) url

/-- What the naming facility makes of a registration. -/
def enterResult (naming : Naming) (strict : Bool) (url : Url) (replaceIfBound : Bool) :
    Except RuntimeError RegisterOutcome :=
  match naming.obstacle? url replaceIfBound with
  | some e =>
    if e.isNameConflict then if strict then .error e else .ok .alreadyBound
    else .error (Registry.wrapTransport e "cannot bind in registry" url)
  | none => .ok (if replaceIfBound then .rebound else .bound)

theorem bind_eq (naming : Naming) (url : Url) (handle : RuntimeHandle) :
    naming.bind url handle = match naming.obstacle? url false with
      | some e => .error e
      | none => .ok { naming with bindings := naming.bindings.insert url handle } := by
  unfold bind obstacle?
  cases naming.failure? .bind url 0 with
  | some e => rfl
  | none => cases naming.contains url <;> rfl

theorem rebind_eq (naming : Naming) (url : Url) (handle : RuntimeHandle) :
    naming.rebind url handle = match naming.obstacle? url true with
      | some e => .error e
      | none => .ok { naming with bindings := naming.bindings.insert url handle } := by
  unfold rebind obstacle?
  cases naming.failure? .rebind url 0 <;> rfl

section

variable {strict replaceIfBound : Bool}

theorem enter_of_obstacle {e : RuntimeError} (h : naming.obstacle? url replaceIfBound = some e) :
    naming.enter url handle replaceIfBound = naming.spend (binder replaceIfBound) url := by
  rw [enter, h]

/-- A registration that fails changes no binding. -/
theorem enter_of_error {e : RuntimeError}
    (h : naming.enterResult strict url replaceIfBound = .error e) :
    naming.enter url handle replaceIfBound = naming.spend (binder replaceIfBound) url := by
  cases ho : naming.obstacle? url replaceIfBound with
  | some e => exact enter_of_obstacle ho
  | none =>
    rw [enterResult, ho] at h
    cases h

theorem failure?_enter (naming : Naming) (url address : Url) (handle : RuntimeHandle)
    (replaceIfBound : Bool) (call : NamingCall) (earlier : Nat) :
    (naming.enter url handle replaceIfBound).failure? call address earlier =
      naming.failure? call address
        (if call = binder replaceIfBound ∧ address = url then earlier + 1 else earlier) := by
  unfold enter
  split
  · exact failure?_spend ..
  · exact failure?_spend ..

theorem later_enter (naming : Naming) (url : Url) (handle : RuntimeHandle)
    (replaceIfBound : Bool) : naming.Later (naming.enter url handle replaceIfBound) := by
  unfold enter
  split
  · exact later_spend naming _ url
  · exact later_spend { naming with bindings := naming.bindings.insert url handle } _ url

theorem getElem?_enter (other : Url) :
    (naming.enter url handle replaceIfBound).bindings[other]? =
      if naming.obstacle? url replaceIfBound = none ∧ other = url then some handle
      else naming.bindings[other]? := by
  cases ho : naming.obstacle? url replaceIfBound with
  | some e => simp [enter_of_obstacle ho]
  | none =>
    simp only [enter, ho, bindings_spend, Std.ExtTreeMap.getElem?_insert, Std.compare_eq_iff_eq,
      true_and, @eq_comm _ url other]

theorem contains_enter_or {other : Url}
    (h : (naming.enter url handle replaceIfBound).contains other) :
    other = url ∨ naming.contains other := by
  simp only [contains, Std.ExtTreeMap.contains_eq_isSome_getElem?, getElem?_enter] at h ⊢
  split at h
  · rename_i ho
    exact .inl ho.2
  · exact .inr h

end

/-! ## Taking out -/

/-- The naming facility after a call to unbind a URL, which takes its binding out unless it
fails. -/
def release (naming : Naming) (url : Url) : Naming :=
  match naming.failure? .unbind url 0 with
  | some _ => naming.spend .unbind url
  | none => { naming with bindings := naming.bindings.erase url }.spend .unbind url

/-- What the naming facility makes of an unregistration. -/
def releaseResult (naming : Naming) (url : Url) : Except RuntimeError UnregisterOutcome :=
  match naming.failure? .unbind url 0 with
  | some e =>
    if e.isNotBound then .ok .wasAbsent
    else .error (Registry.wrapTransport e "cannot unbind in registry" url)
  | none => .ok (if naming.contains url then .unbound else .wasAbsent)

theorem getElem?_release (naming : Naming) (url other : Url) :
    (naming.release url).bindings[other]? =
      if naming.failure? .unbind url 0 = none ∧ other = url then none
      else naming.bindings[other]? := by
  unfold release
  cases naming.failure? .unbind url 0 with
  | some e => simp
  | none =>
    simp only [bindings_spend, Std.ExtTreeMap.getElem?_erase, Std.compare_eq_iff_eq, true_and,
      @eq_comm _ url other]

theorem failure?_release (naming : Naming) (url address : Url) (call : NamingCall)
    (earlier : Nat) :
    (naming.release url).failure? call address earlier =
      naming.failure? call address
        (if call = .unbind ∧ address = url then earlier + 1 else earlier) := by
  unfold release
  split
  · exact failure?_spend ..
  · exact failure?_spend ..

/-- The URL is taken out, or the call is refused for a reason that decides the result. -/
theorem unbind_cases (naming : Naming) (url : Url) :
    (∃ changed, naming.unbind url = .ok changed ∧ changed.spend .unbind url = naming.release url ∧
        naming.releaseResult url = .ok .unbound) ∨
      ∃ e, naming.unbind url = .error e ∧ naming.spend .unbind url = naming.release url ∧
        naming.releaseResult url = if e.isNotBound then .ok .wasAbsent
          else .error (Registry.wrapTransport e "cannot unbind in registry" url) := by
  unfold unbind release releaseResult
  cases naming.failure? .unbind url 0 with
  | some e => exact .inr ⟨e, rfl, rfl, rfl⟩
  | none =>
    by_cases hb : naming.contains url = true
    · exact .inl ⟨_, by simp only [hb, if_true], rfl, by simp [hb]⟩
    · have hn : naming.bindings.erase url = naming.bindings := by
        refine Std.ExtTreeMap.ext_getElem? fun other => ?_
        rw [Std.ExtTreeMap.getElem?_erase]
        split
        · rename_i ho
          obtain rfl := Std.LawfulEqOrd.eq_of_compare ho
          rw [contains, Std.ExtTreeMap.contains_eq_isSome_getElem?] at hb
          exact (Option.not_isSome_iff_eq_none.1 hb).symm
        · rfl
      refine .inr ⟨.notBound url.display, ?_, ?_, ?_⟩
      · simp [hb]
      · simp [hn]
      · simp [hb, RuntimeError.isNotBound]

theorem letsGo_iff : naming.LetsGo url ↔ ∃ outcome, naming.releaseResult url = .ok outcome := by
  rw [LetsGo, releaseResult]
  cases naming.failure? .unbind url 0 with
  | none => simp
  | some e => cases he : e.isNotBound <;> simp [he]

theorem Reliable.releaseResult_eq (h : naming.Reliable) (url : Url) :
    naming.releaseResult url = .ok (if naming.contains url then .unbound else .wasAbsent) := by
  rw [releaseResult, h]

/-- A URL whose unregistration is an error keeps its binding. -/
theorem release_of_not_letsGo (h : ¬ naming.LetsGo url) :
    naming.release url = naming.spend .unbind url := by
  rw [release]
  cases hf : naming.failure? .unbind url 0 with
  | some e => rfl
  | none => simp [LetsGo, hf] at h

/-! ### One after the other -/

/-- The naming facility after calls to unbind these URLs. -/
def releaseAll (naming : Naming) (urls : List Url) : Naming := urls.foldl release naming

/-- All calls to unbind the URL fail that are among calls to unbind these URLs. -/
def Withstands (naming : Naming) (urls : List Url) (url : Url) : Prop :=
  ∀ earlier < urls.count url, naming.failure? .unbind url earlier ≠ none

instance (naming : Naming) (urls : List Url) (url : Url) : Decidable (naming.Withstands urls url) :=
  inferInstanceAs (Decidable (∀ earlier < urls.count url, _ ≠ none))

section

variable {urls more : List Url}

@[simp] theorem releaseAll_nil (naming : Naming) : naming.releaseAll [] = naming := rfl

theorem releaseAll_singleton (naming : Naming) (url : Url) :
    naming.releaseAll [url] = naming.release url := rfl

theorem releaseAll_append (naming : Naming) (urls more : List Url) :
    naming.releaseAll (urls ++ more) = (naming.releaseAll urls).releaseAll more :=
  List.foldl_append

theorem failure?_releaseAll (naming : Naming) (urls : List Url) (call : NamingCall) (url : Url)
    (earlier : Nat) :
    (naming.releaseAll urls).failure? call url earlier =
      naming.failure? call url
        (if call = .unbind then urls.count url + earlier else earlier) := by
  induction urls generalizing naming with
  | nil => simp
  | cons first urls ih =>
    refine (ih (naming.release first)).trans ?_
    rw [failure?_release, List.count_cons]
    by_cases hc : call = .unbind
    · by_cases hu : url = first
      · simp only [hc, hu, and_self, if_true, beq_self_eq_true]
        congr 1
        omega
      · simp [hc, hu, Ne.symm hu]
    · simp [hc]

/-- Calls at other URLs do not matter. -/
theorem letsGo_releaseAll (hu : url ∉ urls) :
    (naming.releaseAll urls).LetsGo url ↔ naming.LetsGo url := by
  rw [LetsGo, LetsGo, failure?_releaseAll, List.count_eq_zero_of_not_mem hu]
  rfl

theorem later_releaseAll (naming : Naming) (urls : List Url) :
    naming.Later (naming.releaseAll urls) := by
  refine ⟨fun call url => if call = .unbind then urls.count url else 0, ?_⟩
  intro call url earlier
  dsimp only
  rw [failure?_releaseAll]
  split
  · rfl
  · rw [Nat.zero_add]

theorem withstands_cons {first : Url} :
    naming.Withstands (first :: urls) url ↔
      ¬ (naming.failure? .unbind first 0 = none ∧ url = first) ∧
        (naming.release first).Withstands urls url := by
  unfold Withstands
  simp only [failure?_release, true_and, List.count_cons, beq_iff_eq, @eq_comm _ first url]
  by_cases hu : url = first
  · subst hu
    simp only [if_true, and_true]
    constructor
    · exact fun h => ⟨h 0 (by omega), fun earlier he => h (earlier + 1) (by omega)⟩
    · rintro ⟨first, rest⟩ earlier he
      cases earlier with
      | zero => exact first
      | succ earlier => exact rest earlier (by omega)
  · simp [hu]

/-- A binding outlives calls exactly if those at its URL fail. -/
theorem bound_releaseAll_iff :
    (naming.releaseAll urls).bindings[url]? = some handle ↔
      naming.bindings[url]? = some handle ∧ naming.Withstands urls url := by
  induction urls generalizing naming with
  | nil => simp [Withstands]
  | cons first urls ih =>
    show ((naming.release first).releaseAll urls).bindings[url]? = some handle ↔ _
    rw [ih, getElem?_release, withstands_cons, ← and_assoc]
    refine and_congr_left' ?_
    split <;> rename_i h
    · simp [h]
    · exact (and_iff_left h).symm

theorem contains_releaseAll_iff :
    (naming.releaseAll urls).contains url ↔ naming.contains url ∧ naming.Withstands urls url := by
  have bound (naming : Naming) :
      naming.contains url ↔ ∃ handle, naming.bindings[url]? = some handle := by
    rw [contains, Std.ExtTreeMap.contains_eq_isSome_getElem?, Option.isSome_iff_exists]
  simp only [bound, bound_releaseAll_iff, exists_and_right]

theorem Reliable.withstands_iff (h : naming.Reliable) :
    naming.Withstands urls url ↔ url ∉ urls := by
  rw [← List.count_pos_iff]
  constructor
  · exact fun hw hp => hw 0 hp (h ..)
  · exact fun hn earlier he => absurd (Nat.zero_lt_of_lt he) hn

/-- Of different URLs, those are withstood that the naming facility fails to unbind. -/
theorem withstands_iff_of_nodup (hu : urls.Nodup) :
    naming.Withstands urls url ↔ ¬ (url ∈ urls ∧ naming.failure? .unbind url 0 = none) := by
  unfold Withstands
  by_cases hm : url ∈ urls
  · rw [List.count_eq_one_of_mem hu hm]
    simp [hm]
  · simp [List.count_eq_zero_of_not_mem hm, hm]

/-- No binding changes exactly if those that there are withstand the calls. -/
theorem bindings_releaseAll_eq_iff :
    (naming.releaseAll urls).bindings = naming.bindings ↔
      ∀ url, naming.contains url → naming.Withstands urls url := by
  constructor
  · intro heq url hb
    have left : (naming.releaseAll urls).contains url := by
      rw [contains, heq]
      exact hb
    exact (contains_releaseAll_iff.1 left).2
  · intro hw
    refine Std.ExtTreeMap.ext_getElem? fun url => Option.ext fun handle => ?_
    refine bound_releaseAll_iff.trans (and_iff_left_of_imp fun hb => hw url ?_)
    rw [contains, Std.ExtTreeMap.contains_eq_isSome_getElem?, hb]
    rfl

end

end Naming

namespace Registry

open Site

variable {url : Url} {site site' : Site}

/-- An error that is passed on is one of transport. -/
theorem wrapTransport_kind (e : RuntimeError) (what : String) (url : Url) :
    (wrapTransport e what url).isTransportFailure = true ∧
      (wrapTransport e what url).isNotBound = false := by
  unfold wrapTransport
  cases e <;> exact ⟨rfl, rfl⟩

/-! ## Registering -/

/-- A call of the naming facility changes the names as it says, or is refused. -/
theorem run_callNaming {call : NamingCall} {trace : String} {traced : Naming → Bool}
    {change : Naming → Except RuntimeError Naming} {result : Except RuntimeError Unit}
    (hr : (attempt (callNaming call url trace traced change)).run site = (result, site')) :
    match change site.naming with
    | .error e => result = .error e ∧ site'.naming = site.naming.spend call url
    | .ok naming => result = .ok () ∧ site'.naming = naming.spend call url := by
  have changed (start : Site) {last : Site}
      (h : (attempt (match change site.naming with
        | .error e => do
          modify fun start => { start with naming := site.naming.spend call url }
          throw e
        | .ok naming => modify fun start => { start with naming := naming.spend call url } :
          Action Unit)).run start = (result, last)) :
      match change site.naming with
      | .error e => result = .error e ∧ last.naming = site.naming.spend call url
      | .ok naming => result = .ok () ∧ last.naming = naming.spend call url := by
    cases hc : change site.naming <;> rw [hc] at h <;> cases h <;> exact ⟨rfl, rfl⟩
  have hr : (attempt (ite (((site.naming.failure? call url 0).isNone && traced site.naming) = true)
      _ _)).run site = (result, site') := hr
  split at hr
  · exact changed ((logLine .trace trace).run site).2 hr
  · exact changed site hr

theorem run_attempt_outcomeOf {α : Type} (action : Action α) (site : Site) :
    (attempt (outcomeOf action)).run site =
      (.ok ((attempt action).run site).1, ((attempt action).run site).2) := rfl

/-- A registration enters the URL unless something keeps it out, and leaves the runtime alone. -/
theorem run_register {handle : RuntimeHandle} {replaceIfBound : Bool}
    {result : Except RuntimeError RegisterOutcome}
    (hr : (attempt (register url handle replaceIfBound)).run site = (result, site')) :
    result = site.naming.enterResult site.runtime.strict url replaceIfBound ∧
      site'.naming = site.naming.enter url handle replaceIfBound ∧
      site'.runtime = site.runtime := by
  have ht : Touches [.naming, .log] site _ := register_touches (by decide) (by decide) url handle
    replaceIfBound site
  rw [hr] at ht
  rw [← and_assoc]
  refine ⟨?_, ht.runtime_eq⟩
  rw [register, run_attempt_bind, run_attempt_outcomeOf] at hr
  rcases hc : (attempt (if replaceIfBound then rebind url handle else bind url handle)).run site
    with ⟨called, middle⟩
  have strict : middle.runtime.strict = site.runtime.strict := by
    have hm : Touches [.naming, .log] site
        ((attempt (if replaceIfBound then rebind url handle else bind url handle)).run site).2 := by
      refine Moves.attempt_ite ?_ ?_ site <;>
        exact callNaming_touches (by decide) (by decide) _ _ _ _ _
    rw [hc] at hm
    rw [hm.runtime_eq]
  rw [hc] at hr
  -- Whatever is called, it enters the binding or says why it does not.
  have hcalled : middle.naming = site.naming.enter url handle replaceIfBound ∧
      match site.naming.obstacle? url replaceIfBound with
      | some e => called = .error e
      | none => called = .ok () := by
    unfold Naming.enter
    cases replaceIfBound with
    | false =>
      have hb := run_callNaming (show (attempt (bind url handle)).run site = _ from hc)
      rw [Naming.bind_eq] at hb
      cases ho : site.naming.obstacle? url false <;> rw [ho] at hb <;> exact hb.symm
    | true =>
      have hb := run_callNaming (show (attempt (rebind url handle)).run site = _ from hc)
      rw [Naming.rebind_eq] at hb
      cases ho : site.naming.obstacle? url true <;> rw [ho] at hb <;> exact hb.symm
  obtain ⟨hm, hcalled⟩ := hcalled
  unfold Naming.enterResult
  cases ho : site.naming.obstacle? url replaceIfBound with
  | none =>
    rw [ho] at hcalled
    obtain rfl := hcalled
    have hr : (attempt (ite (isInternal url = true) _ _)).run middle = (result, site') := hr
    split at hr <;> cases hr <;> exact ⟨rfl, hm⟩
  | some e =>
    rw [ho] at hcalled
    obtain rfl := hcalled
    have hr : (attempt (ite (e.isNameConflict = true) (get >>= _) (throw _))).run middle =
      (result, site') := hr
    dsimp only
    rw [← strict]
    split at hr <;> rename_i hconflict
    · rw [if_pos hconflict]
      have hr : (attempt (ite (middle.runtime.strict = true) _ _)).run middle =
          (result, site') := hr
      split at hr <;> rename_i hstrict <;> cases hr
      · exact ⟨(if_pos hstrict).symm, hm⟩
      · exact ⟨(if_neg hstrict).symm, hm⟩
    · rw [if_neg hconflict]
      cases hr
      exact ⟨rfl, hm⟩

/-! ## Unregistering -/

/-- An unregistration releases the URL, and leaves the runtime alone. -/
theorem run_unregister {result : Except RuntimeError UnregisterOutcome}
    (hr : (attempt (unregister url)).run site = (result, site')) :
    result = site.naming.releaseResult url ∧ site'.naming = site.naming.release url ∧
      site'.runtime = site.runtime := by
  have ht : Touches [.naming, .log] site _ :=
    unregister_touches (by decide) (by decide) url site
  rw [hr] at ht
  rw [← and_assoc]
  refine ⟨?_, ht.runtime_eq⟩
  rw [unregister, run_attempt_bind, run_attempt_outcomeOf] at hr
  rcases hc : (attempt (unbind url)).run site with ⟨called, middle⟩
  have hu := run_callNaming hc
  rw [hc] at hr
  rcases site.naming.unbind_cases url with ⟨changed, hok, hn, hresult⟩ | ⟨e, he, hn, hresult⟩
  · rw [hok] at hu
    obtain ⟨rfl, hm⟩ := hu
    rw [hresult, ← hn]
    have hr : (attempt (ite (isInternal url = true) _ _)).run middle = (result, site') := hr
    split at hr <;> cases hr <;> exact ⟨rfl, hm⟩
  · rw [he] at hu
    obtain ⟨rfl, hm⟩ := hu
    rw [hresult, ← hn]
    have hr : (attempt (ite (e.isNotBound = true) _ _)).run middle = (result, site') := hr
    split at hr <;> cases hr <;> exact ⟨by simp [*], hm⟩

/-- Work that follows an unregistration is done unless that is an error. -/
theorem run_unregister_bind {α : Type} (url : Url) (work : Work Unit) (f : UnregisterOutcome → α)
    (site : Site) :
    ∃ middle, middle.naming = site.naming.release url ∧ middle.runtime = site.runtime ∧
      (attempt (do let outcome ← unregister url; work; return f outcome)).run site =
        ((site.naming.releaseResult url).map f,
          if site.naming.LetsGo url then (work.run middle).2 else middle) := by
  rcases hu : (attempt (unregister url)).run site with ⟨found, middle⟩
  obtain ⟨hf, hn, hs⟩ := run_unregister hu
  refine ⟨middle, hn, hs, ?_⟩
  rw [run_attempt_bind, hu]
  cases found with
  | error e =>
    have hl : ¬ site.naming.LetsGo url := by
      rw [Naming.letsGo_iff]
      rintro ⟨outcome, ho⟩
      rw [ho] at hf
      cases hf
    rw [if_neg hl, ← hf]
    rfl
  | ok outcome =>
    rw [if_pos (Naming.letsGo_iff.2 ⟨outcome, hf.symm⟩), ← hf]
    rfl

end Registry

end ActiveObjects

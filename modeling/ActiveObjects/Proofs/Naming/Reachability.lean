import ActiveObjects.Proofs.Fleet.Addresses
import ActiveObjects.Proofs.Naming.Teardown
import ActiveObjects.Proofs.Runtime.Creation

/-!
# Runtimes that stay reachable

A runtime that nobody else interferes with stays bound under its own URL as long as none of its
calls unbinds that URL. A call may do so on behalf of a node or group, whose name may stand for the
URL of the runtime.
-/

namespace ActiveObjects

open Site

/-- A call unbinds URLs, or adds bindings of its runtime. -/
theorem Call.unbinds_or_gains (constructors : ConstructorRegistry) (call : Call) (site : Site) :
    let site' := ((attempt (call.action constructors)).run site).2
    site'.naming = site.naming.releaseAll (site.runtime.unbindings site.naming call) ∨
      site.runtime.unbindings site.naming call = [] ∧ Gains site site' := by
  have quiet (hn : .naming ∉ call.footprint) :
      Gains site ((attempt (call.action constructors)).run site).2 :=
    (call.action_touches constructors site).gains hn call.identity_notMem_footprint
  dsimp only
  cases call with
  | register url replaceIfBound =>
    exact .inr ⟨rfl, Moves.attempt_discard (Runtime.register_gains url replaceIfBound) site⟩
  | createLocalNode spec =>
    exact .inr ⟨rfl, Moves.attempt_discard (Runtime.createLocalNode_gains spec) site⟩
  | registerVirtualNode name replaceIfBound =>
    refine .inr ⟨rfl, ?_⟩
    exact Moves.attempt_discard (Runtime.registerVirtualNode_gains name replaceIfBound) site
  | unregister url =>
    left
    show ((attempt (do let _ ← Runtime.unregister url)).run site).2.naming = _
    rw [run_attempt_discard]
    rcases hr : (attempt (Runtime.unregister url)).run site with ⟨result, site'⟩
    exact (Registry.run_unregister hr).2.1
  | unregisterVirtualNode name =>
    left
    show ((attempt (do let _ ← VirtualNode.unregister name)).run site).2.naming = _
    rw [run_attempt_discard]
    exact (VirtualNode.run_unregister rfl).2.names
  | unregisterAllVirtualNodes => exact .inl (VirtualNode.unregisterAll_past site).names
  | killNode name => exact .inl ((killNode name).kills_names rfl site)
  | killAllNodes => exact .inl (killAllNodes.kills_names rfl site)
  | kill => exact .inl (kill.kills_names rfl site)
  | _ => exact .inr ⟨rfl, quiet (by simp [footprint])⟩

/-- A binding to the runtime itself outlives a call exactly if the naming facility fails whenever
the call goes on to unbind it. -/
theorem Call.own_iff {constructors : ConstructorRegistry} (call : Call) {site : Site} {url : Url}
    (hu : site.naming.bindings[url]? = some site.runtime.handle) :
    ((attempt (call.action constructors)).run site).2.naming.bindings[url]? =
        some site.runtime.handle ↔
      site.naming.Withstands (site.runtime.unbindings site.naming call) url := by
  rcases call.unbinds_or_gains constructors site with hd | ⟨hn, hg⟩
  · rw [hd, Naming.bound_releaseAll_iff]
    exact and_iff_right hu
  · rw [hn]
    exact iff_of_true (hg.own hu) (by simp [Naming.Withstands])

namespace Fleet

variable {fleet : Fleet} {place : RuntimeId} {steps : List Step}

/-- The URL of the runtime leads to the runtime. -/
def LeadsTo (fleet : Fleet) (place : RuntimeId) : Prop :=
  ∃ url, fleet.url? place = some url ∧ fleet.world.naming.resolve url = .ok ⟨place, url⟩

instance (fleet : Fleet) (place : RuntimeId) : Decidable (fleet.LeadsTo place) :=
  decidable_of_iff ((fleet.url? place).any fun url =>
      fleet.world.naming.bindings[url]? = some ⟨place, url⟩) <| by
    rw [Option.any_eq_true]
    exact exists_congr fun url => and_congr_right fun _ =>
      decide_eq_true_iff.trans Naming.resolve_eq_ok_iff.symm

/-- Only the runtime binds and unbinds names. -/
def Alone (place : RuntimeId) (_ : Fleet) : Step → Prop
  | .naming _ | .start _ => False
  | .call other _ => other = place
  | _ => True

instance (place : RuntimeId) : DecidableRel (Alone place)
  | _, .naming _ | _, .start _ => isFalse id
  | _, .call other _ => inferInstanceAs (Decidable (other = place))
  | _, .registries _ | _, .ship .. | _, .deliver _ | _, .lose .. | _, .settle _ => isTrue trivial

/-- The step is no call of the runtime that gets through to unbind the URL of the runtime. -/
def Spares (place : RuntimeId) (fleet : Fleet) : Step → Prop
  | .call _ call => ∀ runtime, fleet.world.runtime? place = some runtime →
    fleet.world.naming.Withstands (runtime.unbindings fleet.world.naming call) runtime.url
  | _ => True

/-- Names change with starts and calls, and from outside. -/
theorem naming_next {step : Step} (hs : ∀ request, step ≠ .start request)
    (hn : ∀ naming, step ≠ .naming naming) (hc : ∀ place call, step ≠ .call place call) :
    (fleet.next step).world.naming = fleet.world.naming := by
  have changed := fleet.change_next step
  generalize (fleet.next step).world = world at changed ⊢
  cases changed with
  | idle step => rfl
  | started _ => exact absurd rfl (hs _)
  | naming naming => exact absurd rfl (hn naming)
  | registries registries => rfl
  | called place call => exact absurd rfl (hc place call)
  | shipped source target id node =>
    exact World.naming_act _ source (Runtime.beginMigration_touches id) (by decide)
  | delivered i target node body =>
    exact World.naming_act _ target (Runtime.receiveBody_touches node body) (by decide)
  | settled i source id left target answer =>
    exact World.naming_act _ source (Runtime.endMigration_touches id left target answer) (by decide)

theorem leadsTo_next_iff (hs : fleet.Sound) (hl : fleet.LeadsTo place) {step : Step}
    (ha : Alone place fleet step) :
    (fleet.next step).LeadsTo place ↔ Spares place fleet step := by
  obtain ⟨url, hu, hresolve⟩ := hl
  have hbound := Naming.resolve_eq_ok_iff.1 hresolve
  have hnext : (fleet.next step).LeadsTo place ↔
      (fleet.next step).world.naming.bindings[url]? = some ⟨place, url⟩ := by
    rw [LeadsTo, url?_next hs.world hu step, ← Naming.resolve_eq_ok_iff]
    simp
  rw [hnext]
  cases step with
  | start request => exact ha.elim
  | naming naming => exact ha.elim
  | call other call =>
    obtain rfl : other = place := ha
    obtain ⟨runtime, hr, rfl⟩ := Option.map_eq_some_iff.1 hu
    obtain rfl : runtime.id = other := hs.world _ runtime hr
    rw [naming_call hr]
    have bound : (fleet.world.site runtime).naming.bindings[runtime.url]? =
        some (fleet.world.site runtime).runtime.handle := hbound
    refine (call.own_iff bound).trans ?_
    simp only [Spares, hr, Option.some.injEq, forall_eq']
    rfl
  | _ =>
    rw [naming_next (by simp) (by simp) (by simp)]
    exact iff_of_true hbound trivial

/-- A runtime that nobody else interferes with is reachable throughout a run exactly if each of its
calls spares its URL. -/
theorem leadsTo_throughout_iff (hs : fleet.Sound) (hl : fleet.LeadsTo place)
    (ha : Obeys (Alone place) fleet steps) :
    (∀ done, done <+: steps → (fleet.after done).LeadsTo place) ↔
      Obeys (Spares place) fleet steps := by
  induction steps generalizing fleet with
  | nil =>
    refine iff_of_true (fun done hd => ?_) trivial
    rw [List.prefix_nil.1 hd]
    exact hl
  | cons step steps ih =>
    have first := leadsTo_next_iff hs hl ha.1
    have rest (h : (fleet.next step).LeadsTo place) := ih (hs.next step) h ha.2
    constructor
    · intro h
      have hnext : (fleet.next step).LeadsTo place := h [step] (by simp)
      refine ⟨first.1 hnext, (rest hnext).1 fun done hd => ?_⟩
      exact h (step :: done) (List.cons_prefix_cons.2 ⟨rfl, hd⟩)
    · rintro ⟨hspares, hobeys⟩ done hd
      cases done with
      | nil => exact hl
      | cons other done =>
        obtain ⟨rfl, hdone⟩ := List.cons_prefix_cons.1 hd
        exact (rest (first.2 hspares)).2 hobeys done hdone

/-- After every run, a runtime that its URL leads to, and that nobody else interferes with from then
on, stays reachable throughout exactly if each of its calls spares its URL: whenever the call goes
on to unbind it, the naming facility fails. -/
theorem leadsTo_iff_spares {before steps : List Step}
    (hl : (({} : Fleet).after before).LeadsTo place)
    (ha : Obeys (Alone place) (({} : Fleet).after before) steps) :
    (∀ done, done <+: steps → (({} : Fleet).after (before ++ done)).LeadsTo place) ↔
      Obeys (Spares place) (({} : Fleet).after before) steps := by
  simp only [after_append]
  exact leadsTo_throughout_iff (sound_after before) hl ha

/-- A node is created under another name, and killed. -/
theorem leadsTo_after_killing :
    (({} : Fleet).after ([opening 1 1099] ++
      [.call 1 (.createLocalNode { name := "m" }), .call 1 (.killNode "m")])).LeadsTo 1 := by
  have h : (((({} : Fleet).after [opening 1 1099]).next
        (.call 1 (.createLocalNode { name := "m" }))).world.runtime? 1).all fun runtime =>
      runtime.url ∉ runtime.killUrls "m" := by decide +kernel
  have spares : Obeys (Spares 1) (({} : Fleet).after [opening 1 1099])
      [.call 1 (.createLocalNode { name := "m" }), .call 1 (.killNode "m")] := by
    refine ⟨fun runtime _ earlier he => absurd he (Nat.not_lt_zero _), ?_, trivial⟩
    intro runtime hr earlier he
    rw [hr] at h
    exact absurd (List.count_pos_iff.1 (Nat.zero_lt_of_lt he)) (of_decide_eq_true h)
  have throughout := (leadsTo_iff_spares (by decide +kernel) (by decide +kernel)).2 spares
  exact throughout _ List.prefix_rfl

/-- A node is created under the name of the runtime and killed, and nothing leads to the runtime any
more. -/
theorem unreachable_after_killing :
    (({} : Fleet).after [opening 1 1099]).LeadsTo 1 ∧
      Obeys (Alone 1) (({} : Fleet).after [opening 1 1099])
        [.call 1 (.createLocalNode { name := "r" }), .call 1 (.killNode "r")] ∧
      ¬ (({} : Fleet).after ([opening 1 1099] ++
        [.call 1 (.createLocalNode { name := "r" }), .call 1 (.killNode "r")])).LeadsTo 1 := by
  decide +kernel

end Fleet

end ActiveObjects

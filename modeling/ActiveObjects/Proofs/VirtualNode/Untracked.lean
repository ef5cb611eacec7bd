import ActiveObjects.Proofs.Naming.Teardown

/-!
# Names that no group is tracked under

To unregister a name that no group is tracked under is to unbind the URL that the name stands for.
It changes nothing else, and publishes nothing. But the URL may be that of a node, or of another
runtime.
-/

namespace ActiveObjects

/-- No part of the runtime changes, its events included. -/
theorem VirtualNode.runtime_unregister_untracked {name : String} {site : Site}
    (hf : site.runtime.groups.find? name = none) :
    ((attempt (unregister name)).run site).2.runtime = site.runtime := by
  rw [run_unregister_eq, hf]
  cases site.runtime.nodeUrl name with
  | error e => rfl
  | ok url =>
    obtain ⟨middle, -, hm, hrun⟩ := Registry.run_unregister_bind url
      (Site.logLine .debug "Unregister of untracked virtual node") id site
    have last := congrArg (fun found => found.2.runtime) hrun
    refine last.trans ?_
    dsimp only
    split
    · exact hm
    · exact hm

/-- The URL that the name stands for is unbound, if there is one. -/
theorem VirtualNode.names_unregister_untracked {name : String} {site : Site}
    (hf : site.runtime.groups.find? name = none) :
    ((attempt (unregister name)).run site).2.naming =
      site.naming.releaseAll (site.runtime.nodeUrl name).toOption.toList := by
  have forgets : Forgets name site ((attempt (unregister name)).run site).2 :=
    (run_unregister rfl).2
  rw [forgets.names, Runtime.nameUrls, Runtime.virtualNodeUrl, hf]

namespace Fleet

/-- After every run, the unregistration of a name that no group is tracked under leaves all runtimes
and shipments as they were. Of the bindings exactly that of the URL goes which the name stands for,
if the naming facility is able to unbind it. So the names stay as they were unless that URL is
bound. -/
theorem unchanged_of_untracked {steps : List Step} {place : RuntimeId} {runtime : Runtime}
    (hr : (({} : Fleet).after steps).world.runtime? place = some runtime) {name : String}
    (hf : runtime.groups.find? name = none) :
    ∃ result world,
      (({} : Fleet).after steps).outcome (.call place (.unregisterVirtualNode name)) =
        (result, world, (({} : Fleet).after steps).shipments) ∧
      world =
        { (({} : Fleet).after steps).world with naming := world.naming, log := world.log } ∧
      (∀ (url : Url) (handle : RuntimeHandle), world.naming.resolve url = .ok handle ↔
        (({} : Fleet).after steps).world.naming.resolve url = .ok handle ∧
          ¬ (runtime.nodeUrl name = .ok url ∧
            (({} : Fleet).after steps).world.naming.failure? .unbind url 0 = none)) ∧
      (world.naming.bindings = (({} : Fleet).after steps).world.naming.bindings ↔
        ∀ url, runtime.nodeUrl name = .ok url →
          (({} : Fleet).after steps).world.naming.contains url →
          (({} : Fleet).after steps).world.naming.failure? .unbind url 0 ≠ none) := by
  have hk := (sound_after steps).world
  generalize ({} : Fleet).after steps = fleet at hr hk ⊢
  have untracked : (fleet.world.site runtime).runtime.groups.find? name = none := hf
  have names := VirtualNode.names_unregister_untracked untracked
  have same := VirtualNode.runtime_unregister_untracked untracked
  rw [← run_attempt_discard] at names same
  have once : (runtime.nodeUrl name).toOption.toList.Nodup := by
    cases runtime.nodeUrl name <;> simp [Except.toOption]
  have withstands (url : Url) :
      fleet.world.naming.Withstands (runtime.nodeUrl name).toOption.toList url ↔
        ¬ (runtime.nodeUrl name = .ok url ∧
          fleet.world.naming.failure? .unbind url 0 = none) := by
    rw [Naming.withstands_iff_of_nodup once, Option.mem_toList, toOption_eq_some_iff]
  refine ⟨_, _, outcome_call hr rfl, World.absorb_of_runtime hk hr same, fun url handle => ?_, ?_⟩
  · rw [Naming.resolve_eq_ok_iff, Naming.resolve_eq_ok_iff, ← withstands]
    exact (congrArg (·.bindings[url]? = some handle) names).to_iff.trans Naming.bound_releaseAll_iff
  · have all := (congrArg (·.bindings = fleet.world.naming.bindings) names).to_iff.trans
      Naming.bindings_releaseAll_eq_iff
    refine all.trans (forall_congr' fun url => (imp_congr_right fun _ => withstands url).trans ?_)
    rw [not_and]
    exact ⟨fun h hu hb => h hb hu, fun h hb hu => h hu hb⟩

/-- A name that nothing is bound to. -/
theorem unchanged_of_unknown_name :
    ∃ runtime result world, (({} : Fleet).after [opening 1 1099]).world.runtime? 1 = some runtime ∧
      (({} : Fleet).after [opening 1 1099]).outcome (.call 1 (.unregisterVirtualNode "g")) =
        (result, world, []) ∧
      world = { (({} : Fleet).after [opening 1 1099]).world with
        naming := world.naming, log := world.log } ∧
      world.naming.bindings = (({} : Fleet).after [opening 1 1099]).world.naming.bindings := by
  have h : ((({} : Fleet).after [opening 1 1099]).world.runtime? 1).any fun runtime =>
      runtime.groups.find? "g" = none ∧
      (runtime.nodeUrl "g").toOption.all
        (!(({} : Fleet).after [opening 1 1099]).world.naming.contains ·) := by decide +kernel
  obtain ⟨runtime, hr, h⟩ := (Option.any_eq_true _ _).1 h
  obtain ⟨hf, hn⟩ := of_decide_eq_true h
  obtain ⟨result, world, ho, hw, -, hsame⟩ := unchanged_of_untracked hr hf
  refine ⟨runtime, result, world, hr, ho, hw, hsame.2 fun url hu hb => ?_⟩
  simp [hu, hb, Except.toOption] at hn

/-- No group is tracked under the name of the node, whose URL is not bound any more after that name
was unregistered as one of a group. -/
theorem node_unbound_as_group :
    ∃ runtime url, (({} : Fleet).after [opening 1 1099]).world.runtime? 1 = some runtime ∧
      runtime.groups.find? "n" = none ∧ url ∈ runtime.nodes ∧
      (({} : Fleet).after [opening 1 1099]).world.naming.contains url = true ∧
      ((({} : Fleet).after [opening 1 1099]).next
        (.call 1 (.unregisterVirtualNode "n"))).world.naming.contains url = false := by
  have h : ((({} : Fleet).after [opening 1 1099]).world.runtime? 1).any fun runtime =>
      (runtime.nodeUrl "n").toOption.any fun url =>
        runtime.groups.find? "n" = none ∧ url ∈ runtime.nodes ∧
        (({} : Fleet).after [opening 1 1099]).world.naming.contains url = true ∧
        ((({} : Fleet).after [opening 1 1099]).next
          (.call 1 (.unregisterVirtualNode "n"))).world.naming.contains url = false := by
    decide +kernel
  obtain ⟨runtime, hr, h⟩ := (Option.any_eq_true _ _).1 h
  obtain ⟨url, -, h⟩ := (Option.any_eq_true _ _).1 h
  exact ⟨runtime, url, hr, of_decide_eq_true h⟩

end Fleet

end ActiveObjects

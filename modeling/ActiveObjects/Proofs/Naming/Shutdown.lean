import ActiveObjects.Proofs.Naming.Memory

/-!
# What a shutdown leaves bound

A runtime that is shut down unbinds the URLs that it goes through. Where these are all that it ever
bound, none is left; but a group that was registered again under another URL leaves the first one
behind, and so does a group whose key still ends with the suffix.
-/

namespace ActiveObjects

open Site

namespace World

variable {world : World} {url : Url} {id : RuntimeId} {α : Type}

/-- No call of the naming facility fails, and if the URL is bound then some runtime remembers it. -/
structure Remembered (url : Url) (world : World) : Prop where
  reliable : world.naming.Reliable
  exists_remembers : world.naming.contains url → ∃ place runtime,
    world.runtime? place = some runtime ∧ runtime.Remembers url

theorem remembered_empty (url : Url) : Remembered url {} where
  reliable _ _ _ := rfl
  exists_remembers h := by simp [Naming.contains] at h

theorem Remembered.absorb (h : world.Remembered url) {runtime : Runtime} {site : Site}
    (ha : Accounts url (world.site runtime) site)
    (hr : ∀ found, world.runtime? site.runtime.id = some found → found = runtime) :
    (world.absorb site).Remembered url where
  reliable := h.reliable.later ha.later
  exists_remembers hb := by
    rcases ha.remembered h.reliable hb with hm | ⟨hb, hm⟩
    · exact ⟨site.runtime.id, site.runtime, (runtime?_absorb ..).trans (if_pos rfl), hm⟩
    · obtain ⟨place, found, hf, hfound⟩ := h.exists_remembers hb
      refine ⟨place, found, (runtime?_absorb ..).trans (if_neg ?_ |>.trans hf), hfound⟩
      rintro rfl
      exact hm (hr found hf ▸ hfound)

theorem Remembered.act (hk : world.Keyed) (h : world.Remembered url) {action : Action α}
    {parts : List Part} (ht : Moves (Touches parts) (attempt action)) (hi : .identity ∉ parts)
    (ha : ∀ runtime, world.runtime? id = some runtime →
      MovesFrom (Accounts url) (world.site runtime) (attempt action)) :
    ((World.act id action).run world).2.Remembered url := by
  rcases hr : (World.act id action).run world with ⟨result, world'⟩
  rcases act_cases hk ht hi hr with ⟨-, -, rfl⟩ | ⟨runtime, site, hf, hs, rfl, rfl⟩
  · exact h
  · have moved := ha runtime hf
    rw [MovesFrom, hs] at moved
    refine h.absorb moved fun found hfound => ?_
    rw [hf] at hfound
    exact (Option.some.inj hfound).symm

theorem Remembered.start (h : world.Remembered url) {request : StartRequest}
    (hn : world.runtime? request.id = none)
    (hs : (Runtime.ofRequest request).toOption.all
      (·.Persists request.config.virtualNodes url)) :
    (world.start request).2.Remembered url := by
  unfold World.start
  cases ho : Runtime.ofRequest request with
  | error e => exact h
  | ok runtime =>
    obtain ⟨hid, -, -, groups, -⟩ := Runtime.ofRequest_fresh ho
    rw [ho] at hs
    have fresh : (world.site runtime).runtime.groups = ∅ := groups
    have moved := Runtime.boot_accounts request.config fresh (of_decide_eq_true hs)
    have ht := Runtime.boot_touches request.config (world.site runtime) .identity (by decide)
    rw [MovesFrom] at moved
    rcases hr : (attempt (Runtime.boot request.config)).run (world.site runtime) with
      ⟨result, site⟩
    rw [hr] at moved ht
    simp only [hr]
    refine h.absorb moved fun found hf => ?_
    rw [ht.1.trans hid, hn] at hf
    cases hf

end World

/-- The URLs that a shutdown unbinds when no call fails: those of the nodes, those that the keys of
the groups address in turn, and that of the runtime itself. -/
def Runtime.GoesThrough (runtime : Runtime) (url : Url) : Prop :=
  url ∈ runtime.nodes ∨ (∃ key ∈ runtime.groups, runtime.sweepUrl key = .ok url) ∨
    url = runtime.url

theorem Runtime.mem_unbindings_kill_iff {runtime : Runtime} {naming : Naming}
    (hb : runtime.BareKeys) (hr : naming.Reliable) {url : Url} :
    url ∈ runtime.unbindings naming .kill ↔ runtime.GoesThrough url := by
  have reliable : (naming.releaseAll runtime.nodes.keys).Reliable :=
    hr.later (Naming.later_releaseAll ..)
  rw [unbindings, stageUrls, List.mem_append, List.mem_append, Std.ExtTreeMap.mem_keys,
    mem_sweepUrls_iff hb reliable, List.mem_singleton, or_assoc, GoesThrough]

namespace Fleet

/-- Names change through the runtimes only, which remember what they bind, and no group gets another
URL in place of this one. -/
def Retains (url : Url) (fleet : Fleet) : Step → Prop
  | .naming _ => False
  | .start request =>
    (Runtime.ofRequest request).toOption.all (·.Persists request.config.virtualNodes url)
  | .call place call => (fleet.world.runtime? place).all (!call.forgets · url)
  | _ => True

instance (url : Url) : DecidableRel (Retains url)
  | _, .naming _ => isFalse id
  | _, .start _ | _, .call .. => inferInstanceAs (Decidable (_ = true))
  | _, .registries _ | _, .ship .. | _, .deliver _ | _, .lose .. | _, .settle _ => isTrue trivial

theorem Retains.next {url : Url} {fleet : Fleet} {step : Step} (h : fleet.Retains url step)
    (hk : fleet.world.Keyed) (hw : fleet.world.Remembered url) :
    (fleet.next step).world.Remembered url := by
  have changed := fleet.change_next step
  generalize (fleet.next step).world = world at changed ⊢
  have kept {α : Type} {action : Action α} {parts : List Part} (place : RuntimeId)
      (ha : Moves (Touches parts) (attempt action)) (hp : parts ⊆ [.log, .bodies, .events]) :
      ((World.act place action).run fleet.world).2.Remembered url :=
    hw.act hk (ha.widen hp) (by decide) fun runtime _ => (ha.widen hp).accounts (by decide) url _
  cases changed with
  | idle step => exact hw
  | started hn => exact hw.start hn h
  | naming naming => exact h.elim
  | registries registries => exact ⟨hw.reliable, hw.exists_remembers⟩
  | called place call =>
    refine hw.act hk (call.action_touches _) call.identity_notMem_footprint fun runtime hr => ?_
    have hn : call.forgets runtime url = false := by simpa [Retains, hr] using h
    exact call.action_accounts _ hn
  | shipped source target id node =>
    exact kept source (Runtime.beginMigration_touches id) (by decide)
  | delivered i target node body =>
    exact kept target (Runtime.receiveBody_touches node body) (by decide)
  | settled i source id left target answer =>
    exact kept source (Runtime.endMigration_touches id left target answer) (by decide)

/-- After a run that retains a URL, the runtimes remember it if it is bound. -/
theorem Obeys.remembered {url : Url} {steps : List Step} (h : Obeys (Retains url) {} steps) :
    (({} : Fleet).after steps).world.Remembered url :=
  h.invariant (P := fun fleet => fleet.world.Remembered url) sound_empty
    (World.remembered_empty url) fun hs hr _ hw => hr.next hs.world hw

/-! ## Shutting down -/

/-- After every run, over a naming facility that does not fail, shutting a runtime down leaves bound
exactly what was bound and is not among the URLs that the shutdown goes through. So if there is no
other runtime and the key of each group is its own key, then no URL stays bound that the run
retains. -/
theorem contains_after_shutdown {steps : List Step} {place : RuntimeId} {runtime : Runtime}
    (hr : (({} : Fleet).after steps).world.runtime? place = some runtime)
    (hf : (({} : Fleet).after steps).world.naming.Reliable) :
    ∃ report world,
      (({} : Fleet).after steps).world.perform place Runtime.kill = some (report, world) ∧
      ∀ url,
        (world.naming.contains url ↔ (({} : Fleet).after steps).world.naming.contains url ∧
          ¬ runtime.GoesThrough url) ∧
        (Obeys (Retains url) {} steps →
          (∀ other found, (({} : Fleet).after steps).world.runtime? other = some found →
            other = place) →
          (∀ key ∈ runtime.groups, VirtualNode.Plain key) → world.naming.contains url = false) := by
  have bare := each_after lasting_bareKeys steps place runtime hr
  have names := Runtime.kill_names ((({} : Fleet).after steps).world.site runtime)
  rcases hk : Runtime.kill.run ((({} : Fleet).after steps).world.site runtime) with ⟨report, site⟩
  rw [hk] at names
  refine ⟨report, (({} : Fleet).after steps).world.absorb site, ?_, fun url => ?_⟩
  · rw [World.perform, hr, Option.map_some, hk]
  have left : site.naming.contains url ↔ (({} : Fleet).after steps).world.naming.contains url ∧
      ¬ runtime.GoesThrough url := by
    rw [← Runtime.mem_unbindings_kill_iff bare hf, ← hf.withstands_iff,
      ← Naming.contains_releaseAll_iff]
    exact iff_of_eq (congrArg (Naming.contains · url = true) names)
  refine ⟨left, fun ho alone hp => ?_⟩
  rw [← Bool.not_eq_true]
  intro hb
  obtain ⟨hb, hn⟩ := left.1 hb
  obtain ⟨other, found, hfound, hm⟩ := ho.remembered.exists_remembers hb
  obtain rfl := alone other found hfound
  rw [hr] at hfound
  cases hfound
  refine hn ?_
  rcases hm with rfl | hm | ⟨key, group, hg, rfl⟩
  · exact .inr (.inr rfl)
  · exact .inl hm
  · have tracked : key ∈ runtime.groups := mem_iff_exists_getElem?.2 ⟨group, hg⟩
    exact .inr (.inl ⟨key, tracked, Runtime.sweepUrl_of_plain (hp key tracked) hg⟩)

/-- A runtime with a node and a group. -/
def grouping : List Step := [opening 1 1099, .call 1 (.registerVirtualNode "g_VN" true)]

theorem contains_after_grouping :
    ∃ runtime report world url,
      (({} : Fleet).after grouping).world.runtime? 1 = some runtime ∧
      (({} : Fleet).after grouping).world.naming.contains url ∧ url ≠ runtime.url ∧
      url ∉ runtime.nodes ∧
      (({} : Fleet).after grouping).world.perform 1 Runtime.kill = some (report, world) ∧
      world.naming.contains url = false := by
  have h : ((({} : Fleet).after grouping).world.runtime? 1).any fun runtime =>
      (runtime.nodeUrl "g_VN").toOption.any fun url =>
        (({} : Fleet).after grouping).world.naming.contains url ∧ url ≠ runtime.url ∧
        url ∉ runtime.nodes ∧ Obeys (Retains url) {} grouping ∧
        (({} : Fleet).after grouping).world.runtimes.keys = [1] ∧
        ∀ key ∈ runtime.groups.keys, VirtualNode.Plain key := by decide +kernel
  obtain ⟨runtime, hr, h⟩ := (Option.any_eq_true _ _).1 h
  obtain ⟨url, -, h⟩ := (Option.any_eq_true _ _).1 h
  obtain ⟨hb, hown, hnode, ho, hkeys, hp⟩ := of_decide_eq_true h
  obtain ⟨report, world, hk, hw⟩ := contains_after_shutdown hr ho.remembered.reliable
  refine ⟨runtime, report, world, url, hr, hb, hown, hnode, hk, (hw url).2 ho ?_ ?_⟩
  · intro other found hf
    have hm : other ∈ (({} : Fleet).after grouping).world.runtimes.keys :=
      Std.ExtTreeMap.mem_keys.2 (mem_iff_exists_getElem?.2 ⟨found, hf⟩)
    rwa [hkeys, List.mem_singleton] at hm
  · exact fun key hk => hp key (Std.ExtTreeMap.mem_keys.2 hk)

/-- The group is registered again, under another URL. -/
def regrouping : List Step := grouping ++ [.call 1 (.registerVirtualNode "g" true)]

/-- The first URL of the group stays bound to the runtime, though there is no failure to report. -/
theorem bound_after_regrouping :
    ∃ runtime report world url,
      (({} : Fleet).after regrouping).world.naming.Reliable ∧
      (({} : Fleet).after regrouping).world.runtimes.keys = [1] ∧
      (({} : Fleet).after regrouping).world.runtime? 1 = some runtime ∧
      (({} : Fleet).after regrouping).world.perform 1 Runtime.kill = some (report, world) ∧
      report.isClean = true ∧ world.naming.resolve url = .ok runtime.handle := by
  have h : ((({} : Fleet).after regrouping).world.runtime? 1).any fun runtime =>
      ((({} : Fleet).after regrouping).world.perform 1 Runtime.kill).any fun (report, world) =>
        (runtime.nodeUrl "g_VN").toOption.any fun url =>
          Obeys (Retains runtime.url) {} regrouping ∧
          (({} : Fleet).after regrouping).world.runtimes.keys = [1] ∧
          report.isClean = true ∧ world.naming.bindings[url]? = some runtime.handle := by
    decide +kernel
  obtain ⟨runtime, hr, h⟩ := (Option.any_eq_true _ _).1 h
  obtain ⟨⟨report, world⟩, hk, h⟩ := (Option.any_eq_true _ _).1 h
  obtain ⟨url, -, h⟩ := (Option.any_eq_true _ _).1 h
  obtain ⟨ho, alone, clean, hb⟩ := of_decide_eq_true h
  exact ⟨runtime, report, world, url, ho.remembered.reliable, alone, hr, hk, clean,
    Naming.resolve_eq_ok_iff.2 hb⟩

/-! ## The sweep alone -/

/-- After every run, over a naming facility that does not fail, the sweep over the groups of a
runtime does what it should exactly when the key of each group is its own key. In any case those
groups stay that no tracked key addresses, and the URLs unbound are those that the keys address in
turn. -/
theorem swept_iff_plain {steps : List Step} {place : RuntimeId} {runtime : Runtime}
    (hr : (({} : Fleet).after steps).world.runtime? place = some runtime)
    (hf : (({} : Fleet).after steps).world.naming.Reliable) :
    ∃ report world runtime',
      (({} : Fleet).after steps).world.perform place VirtualNode.unregisterAll =
        some (report, world) ∧
      world.runtime? place = some runtime' ∧
      (runtime.Swept (({} : Fleet).after steps).world.naming report runtime' world.naming ↔
        ∀ key ∈ runtime.groups, VirtualNode.Plain key) ∧
      (∀ (key : String) (group : VirtualNodeGroup), runtime'.groups[key]? = some group ↔
        runtime.groups[key]? = some group ∧
          ∀ other ∈ runtime.groups, VirtualNode.key other ≠ key) ∧
      ∀ (url : Url) (handle : RuntimeHandle), world.naming.bindings[url]? = some handle ↔
        (({} : Fleet).after steps).world.naming.bindings[url]? = some handle ∧
          ∀ key ∈ runtime.groups,
            runtime.sweepUrl key ≠ .ok url := by
  have bare := each_after lasting_bareKeys steps place runtime hr
  have swept := VirtualNode.swept_iff ((({} : Fleet).after steps).world.site runtime) bare hf
  have past := VirtualNode.unregisterAll_past ((({} : Fleet).after steps).world.site runtime)
  have ht := VirtualNode.unregisterAll_touches ((({} : Fleet).after steps).world.site runtime)
  rcases hs : VirtualNode.unregisterAll.run ((({} : Fleet).after steps).world.site runtime) with
    ⟨report, site⟩
  rw [hs] at swept past ht
  have hid : site.runtime.id = place :=
    (ht .identity (by decide)).1.trans ((sound_after steps).world place runtime hr)
  refine ⟨report, (({} : Fleet).after steps).world.absorb site, site.runtime, ?_, ?_, swept,
    past.tracked_iff hf, fun url handle => ?_⟩
  · rw [World.perform, hr, Option.map_some, hs]
  · exact (World.runtime?_absorb ..).trans (if_pos hid)
  · show site.naming.bindings[url]? = some handle ↔ _
    rw [past.names]
    refine Naming.bound_releaseAll_iff.trans (and_congr_right fun _ => ?_)
    refine hf.withstands_iff.trans ((not_congr (Runtime.mem_sweepUrls_iff bare hf)).trans ?_)
    simp only [not_exists, not_and, ne_eq]

/-- The sweep over one group. -/
theorem swept_after_grouping :
    ∃ runtime report world runtime',
      (({} : Fleet).after grouping).world.runtime? 1 = some runtime ∧ "g" ∈ runtime.groups ∧
      (({} : Fleet).after grouping).world.perform 1 VirtualNode.unregisterAll =
        some (report, world) ∧
      world.runtime? 1 = some runtime' ∧
      runtime.Swept (({} : Fleet).after grouping).world.naming report runtime' world.naming := by
  have h : ((({} : Fleet).after grouping).world.runtime? 1).any fun runtime =>
      Obeys (Retains runtime.url) {} grouping ∧ "g" ∈ runtime.groups ∧
      ∀ key ∈ runtime.groups.keys, VirtualNode.Plain key := by decide +kernel
  obtain ⟨runtime, hr, h⟩ := (Option.any_eq_true _ _).1 h
  obtain ⟨ho, hm, hp⟩ := of_decide_eq_true h
  obtain ⟨report, world, runtime', hs, hr', swept, -⟩ := swept_iff_plain hr ho.remembered.reliable
  refine ⟨runtime, report, world, runtime', hr, hm, hs, hr', swept.2 ?_⟩
  exact fun key hk => hp key (Std.ExtTreeMap.mem_keys.2 hk)

/-- A group with a repeated suffix. -/
def suffixing : List Step := [opening 1 1099, .call 1 (.registerVirtualNode "g_VN_VN" true)]

/-- The group is reported as not bound, and is still there afterwards, with its URL. -/
theorem unswept_after_suffixing :
    ∃ runtime report world runtime' group,
      (({} : Fleet).after suffixing).world.naming.Reliable ∧
      (({} : Fleet).after suffixing).world.runtime? 1 = some runtime ∧
      (({} : Fleet).after suffixing).world.perform 1 VirtualNode.unregisterAll =
        some (report, world) ∧
      world.runtime? 1 = some runtime' ∧ report.succeeded = [] ∧
      runtime'.groups["g_VN"]? = some group ∧ world.naming.contains group.url ∧
      ¬ runtime.Swept (({} : Fleet).after suffixing).world.naming report runtime' world.naming := by
  have h : ((({} : Fleet).after suffixing).world.runtime? 1).any fun runtime =>
      ((({} : Fleet).after suffixing).world.perform 1 VirtualNode.unregisterAll).any
        fun (report, world) =>
          (world.runtime? 1).any fun runtime' =>
            runtime'.groups["g_VN"]?.any fun group =>
              Obeys (Retains runtime.url) {} suffixing ∧ report.succeeded = [] ∧
                world.naming.contains group.url := by decide +kernel
  obtain ⟨runtime, hr, h⟩ := (Option.any_eq_true _ _).1 h
  obtain ⟨⟨report, world⟩, hs, h⟩ := (Option.any_eq_true _ _).1 h
  obtain ⟨runtime', hr', h⟩ := (Option.any_eq_true _ _).1 h
  obtain ⟨group, hg, h⟩ := (Option.any_eq_true _ _).1 h
  obtain ⟨ho, hsucceeded, hb⟩ := of_decide_eq_true h
  refine ⟨runtime, report, world, runtime', group, ho.remembered.reliable, hr, hs, hr', hsucceeded,
    hg, hb, fun swept => ?_⟩
  rw [swept.groups] at hg
  simp at hg

end Fleet

end ActiveObjects

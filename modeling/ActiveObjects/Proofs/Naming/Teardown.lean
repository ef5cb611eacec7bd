import ActiveObjects.Proofs.Node.Sweep
import ActiveObjects.Proofs.VirtualNode.Sweep

/-!
# What killing takes out of the naming facility

A runtime that kills nodes, or is killed itself, unbinds URLs without a look at the runtimes that
they are bound to. So a binding goes exactly when one of the calls to unbind its URL gets through.
-/

namespace ActiveObjects

open Site

namespace Runtime

variable {runtime runtime' : Runtime} {naming : Naming} {name : String}

/-- The URLs that the first two stages of a shutdown unbind. -/
def stageUrls (runtime : Runtime) (naming : Naming) : List Url :=
  runtime.nodes.keys ++
    runtime.sweepUrls (naming.releaseAll runtime.nodes.keys) runtime.groups.keys

/-- The URLs that a call unbinds, one after the other. -/
def unbindings (runtime : Runtime) (naming : Naming) : Call → List Url
  | .unregister address => [address]
  | .killNode name => runtime.killUrls name
  | .killAllNodes => runtime.nodes.keys
  | .unregisterVirtualNode name => runtime.nameUrls name
  | .unregisterAllVirtualNodes => runtime.sweepUrls naming runtime.groups.keys
  | .kill => runtime.stageUrls naming ++ [runtime.url]
  | _ => []

/-! ## The stages of shutting down -/

/-- The groups of two runtimes have the same keys and URLs. -/
def SameGroups (runtime runtime' : Runtime) : Prop :=
  ∀ key : String, runtime'.groups[key]?.map (·.url) = runtime.groups[key]?.map (·.url)

namespace SameGroups

theorem keys_eq (h : SameGroups runtime runtime') :
    runtime'.groups.keys = runtime.groups.keys := by
  have urls : runtime'.groups.map (fun _ group => group.url) =
      runtime.groups.map fun _ group => group.url :=
    Std.ExtTreeMap.ext_getElem? fun key => by
      rw [Std.ExtTreeMap.getElem?_map, Std.ExtTreeMap.getElem?_map, h key]
  simpa only [Std.ExtTreeMap.keys_map] using congrArg Std.ExtTreeMap.keys urls

theorem nameUrls_eq (h : SameGroups runtime runtime') (hu : runtime'.url = runtime.url)
    (name : String) : runtime'.nameUrls name = runtime.nameUrls name := by
  have same := h (VirtualNode.key name)
  unfold nameUrls virtualNodeUrl GroupTable.find?
  rw [nodeUrl_congr hu]
  cases hg : runtime.groups[VirtualNode.key name]? with
  | none =>
    rw [hg, Option.map_none, Option.map_eq_none_iff] at same
    rw [same]
  | some group =>
    rw [hg, Option.map_some] at same
    obtain ⟨found, hfound, hurl⟩ := Option.map_eq_some_iff.1 same
    simp only [hfound, hurl]

theorem forget (h : SameGroups runtime runtime') (naming : Naming) (name : String) :
    SameGroups (runtime.forget naming name) (runtime'.forget naming name) := by
  intro key
  refine Option.ext fun url => ?_
  simp only [Option.map_eq_some_iff, getElem?_forget]
  have same : (∃ group, runtime'.groups[key]? = some group ∧ group.url = url) ↔
      ∃ group, runtime.groups[key]? = some group ∧ group.url = url := by
    simp only [← Option.map_eq_some_iff, h key]
  constructor
  · rintro ⟨group, ⟨hg, hn⟩, rfl⟩
    obtain ⟨found, hf, hu⟩ := same.1 ⟨group, hg, rfl⟩
    exact ⟨found, ⟨hf, hu ▸ hn⟩, hu⟩
  · rintro ⟨group, ⟨hg, hn⟩, rfl⟩
    obtain ⟨found, hf, hu⟩ := same.2 ⟨group, hg, rfl⟩
    exact ⟨found, ⟨hf, hu ▸ hn⟩, hu⟩

/-- A sweep goes by the keys and the URLs of the groups. -/
theorem turns (h : SameGroups runtime runtime') (hu : runtime'.url = runtime.url)
    (naming : Naming) (keys : List String) :
    SameGroups (runtime.turns naming keys).1 (runtime'.turns naming keys).1 ∧
      runtime'.sweepUrls naming keys = runtime.sweepUrls naming keys := by
  induction keys using List.reverseRecOn with
  | nil => exact ⟨h, rfl⟩
  | append_singleton keys key ih =>
    obtain ⟨groups, urls⟩ := ih
    have url : (runtime'.turns naming keys).1.url = (runtime.turns naming keys).1.url := by
      rw [url_turns, url_turns, hu]
    rw [sweepUrls_concat, sweepUrls_concat, turns_concat, turns_concat, urls,
      groups.nameUrls_eq url]
    exact ⟨groups.forget _ _, rfl⟩

end SameGroups

/-- The first two stages go by the nodes and by the keys and the URLs of the groups. -/
theorem stageUrls_congr (h : SameGroups runtime runtime') (hu : runtime'.url = runtime.url)
    (hn : runtime'.nodes = runtime.nodes) (naming : Naming) :
    runtime'.stageUrls naming = runtime.stageUrls naming := by
  rw [stageUrls, stageUrls, hn, h.keys_eq, (h.turns hu _ _).2]

/-- The first two stages go through the nodes and the groups that there are at first. -/
theorem swept_names (begun : Site) :
    let swept := (VirtualNode.unregisterAll.run (Node.killAll.run begun).2).2
    swept.runtime.url = begun.runtime.url ∧
      swept.naming = begun.naming.releaseAll (begun.runtime.stageUrls begun.naming) := by
  have kills := Node.killAll_kills begun
  dsimp only
  generalize (Node.killAll.run begun).2 = killed at kills ⊢
  have same : SameGroups begun.runtime killed.runtime := fun key => kills.groups key
  have past := VirtualNode.unregisterAll_past killed
  refine ⟨past.url.trans kills.url, past.names.trans ?_⟩
  rw [(same.turns kills.url _ _).2, same.keys_eq, kills.names, stageUrls,
    Naming.releaseAll_append]

/-- Shutting down goes through the nodes, the groups and the runtime itself. -/
theorem kill_names (site : Site) :
    (kill.run site).2.naming =
      site.naming.releaseAll (site.runtime.unbindings site.naming .kill) := by
  obtain ⟨begun, killed, swept, last, _, _, _, hnaming, hruntime, hn, hg, ho, -, final, -⟩ :=
    run_kill_stages site
  rw [beginShutdown_eq] at hruntime
  have nodes : begun.runtime.nodes = site.runtime.nodes := by rw [hruntime]
  have own : begun.runtime.url = site.runtime.url := by rw [hruntime]
  have same : SameGroups site.runtime begun.runtime := fun key => by rw [hruntime]
  obtain ⟨url, names⟩ := swept_names begun
  rw [hn, hg] at url names
  obtain ⟨-, unbound, -⟩ := Registry.run_unregister ho
  rw [final, unbound, url, own, names, hnaming, unbindings, Naming.releaseAll_append,
    Naming.releaseAll_singleton, stageUrls_congr same own nodes]

end Runtime

/-- A call that kills nodes unbinds these URLs, and no others. -/
theorem Call.kills_names {constructors : ConstructorRegistry} {call : Call}
    (hk : call.kills = true) (site : Site) :
    ((attempt (call.action constructors)).run site).2.naming =
      site.naming.releaseAll (site.runtime.unbindings site.naming call) := by
  cases call with
  | killNode name =>
    show ((attempt (do let _ ← Node.kill name)).run site).2.naming = _
    rw [run_attempt_discard]
    exact (Node.kill_kills name site).names
  | killAllNodes => exact (Node.killAll_kills site).names
  | kill => exact Runtime.kill_names site
  | _ => simp [kills] at hk

namespace Fleet

/-- What a call does at a runtime is what the fleet is left with. -/
theorem naming_call {fleet : Fleet} {place : RuntimeId} {runtime : Runtime}
    (hr : fleet.world.runtime? place = some runtime) (call : Call) :
    (fleet.next (.call place call)).world.naming =
      ((attempt (call.action (fleet.world.constructors place))).run
        (fleet.world.site runtime)).2.naming := by
  rw [world_call hr rfl]
  rfl

/-- After every run, a binding outlives a call that kills nodes, whoever it is to, exactly if the
naming facility fails whenever the call goes on to unbind its URL. -/
theorem resolve_after_killing {steps : List Step} {place : RuntimeId} {runtime : Runtime}
    {call : Call} (hr : (({} : Fleet).after steps).world.runtime? place = some runtime)
    (hk : call.kills = true) {url : Url} {handle : RuntimeHandle}
    (hb : (({} : Fleet).after steps).world.naming.resolve url = .ok handle) :
    ((({} : Fleet).after steps).next (.call place call)).world.naming.resolve url = .ok handle ↔
      (({} : Fleet).after steps).world.naming.Withstands
        (runtime.unbindings (({} : Fleet).after steps).world.naming call) url := by
  rw [Naming.resolve_eq_ok_iff] at hb ⊢
  rw [naming_call hr, Call.kills_names hk, Naming.bound_releaseAll_iff]
  exact and_iff_right hb

/-- Two runtimes of one endpoint. The second has a node, and the first tracks a node of the same
name although the URL is bound already. -/
def neighbours : List Step :=
  [.start
      { id := 1
        config := { runtime := { name := "a", port := 1099 } }
        resolver := .literals },
    .start
      { id := 2
        config := { runtime := { name := "b", port := 1099 }, nodes := [{ name := "n" }] }
        resolver := .literals },
    .call 1 (.createLocalNode { name := "n", replaceIfBound := false })]

/-- The neighbour stays bound when the first runtime kills its node. -/
theorem resolve_after_killing_neighbour :
    ∃ runtime neighbour, (({} : Fleet).after neighbours).world.runtime? 1 = some runtime ∧
      (({} : Fleet).after neighbours).world.runtime? 2 = some neighbour ∧
      ((({} : Fleet).after neighbours).next (.call 1 (.killNode "n"))).world.naming.resolve
        neighbour.url = .ok neighbour.handle := by
  have h : ((({} : Fleet).after neighbours).world.runtime? 1).any fun runtime =>
      ((({} : Fleet).after neighbours).world.runtime? 2).any fun neighbour =>
        (({} : Fleet).after neighbours).world.naming.bindings[neighbour.url]? =
            some neighbour.handle ∧
          (({} : Fleet).after neighbours).world.naming.Withstands
            (runtime.killUrls "n") neighbour.url := by decide +kernel
  obtain ⟨runtime, hr, h⟩ := (Option.any_eq_true _ _).1 h
  obtain ⟨neighbour, hn, h⟩ := (Option.any_eq_true _ _).1 h
  obtain ⟨hb, hu⟩ := of_decide_eq_true h
  refine ⟨runtime, neighbour, hr, hn, ?_⟩
  refine (resolve_after_killing hr rfl (Naming.resolve_eq_ok_iff.2 hb)).2 ?_
  exact hu

/-- The node of the neighbour is bound to the neighbour until the first runtime kills the node of
its own, and not any more then. -/
theorem neighbour_unbound :
    ∃ runtime neighbour url, (({} : Fleet).after neighbours).world.runtime? 1 = some runtime ∧
      (({} : Fleet).after neighbours).world.runtime? 2 = some neighbour ∧
      neighbour.id ≠ runtime.id ∧ url ∈ neighbour.nodes ∧
      (({} : Fleet).after neighbours).world.naming.resolve url = .ok neighbour.handle ∧
      ((({} : Fleet).after neighbours).next (.call 1 (.killNode "n"))).world.naming.resolve url ≠
        .ok neighbour.handle := by
  have h : ((({} : Fleet).after neighbours).world.runtime? 1).any fun runtime =>
      ((({} : Fleet).after neighbours).world.runtime? 2).any fun neighbour =>
        (runtime.nodeUrl "n").toOption.any fun url =>
          neighbour.id ≠ runtime.id ∧ url ∈ neighbour.nodes ∧
          (({} : Fleet).after neighbours).world.naming.bindings[url]? = some neighbour.handle ∧
          let fleet := (({} : Fleet).after neighbours).next (.call 1 (.killNode "n"))
          fleet.world.naming.bindings[url]? = none := by decide +kernel
  obtain ⟨runtime, hr, h⟩ := (Option.any_eq_true _ _).1 h
  obtain ⟨neighbour, hn, h⟩ := (Option.any_eq_true _ _).1 h
  obtain ⟨url, -, h⟩ := (Option.any_eq_true _ _).1 h
  obtain ⟨hid, hu, hb, hgone⟩ := of_decide_eq_true h
  refine ⟨runtime, neighbour, url, hr, hn, hid, hu, Naming.resolve_eq_ok_iff.2 hb, ?_⟩
  rw [ne_eq, Naming.resolve_eq_ok_iff, hgone]
  simp

end Fleet

end ActiveObjects

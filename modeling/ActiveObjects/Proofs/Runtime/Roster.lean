import ActiveObjects.Proofs.Runtime.Residence

/-!
# What a runtime tells of its bodies

Every body is on a node that is there, and every node can be addressed by a name. So the listings
of the nodes, taken together, account for all active bodies, and the entities of a hosted body are
those of its node.
-/

namespace ActiveObjects

open Site

/-! ## Names of nodes -/

namespace Runtime

/-- Every node has a name by which operations can address it. -/
def Addressed (runtime : Runtime) : Prop :=
  ∀ url ∈ runtime.nodes, ∃ name, runtime.nodeUrl name = .ok url

theorem Addressed.of_nodes {runtime runtime' : Runtime} (h : runtime.Addressed)
    (hu : runtime'.url = runtime.url) (hn : ∀ url ∈ runtime'.nodes, url ∈ runtime.nodes) :
    runtime'.Addressed := by
  intro url hm
  obtain ⟨name, hname⟩ := h url (hn url hm)
  exact ⟨name, by rw [nodeUrl, hu]; exact hname⟩

end Runtime

theorem Touches.addressed {parts : List Part} {s s' : Site} (h : Touches parts s s')
    (hi : .identity ∉ parts) (hn : .nodes ∉ parts) : Preserves Runtime.Addressed s s' := by
  obtain ⟨-, -, hu, -⟩ := h .identity hi
  have nodes : s'.runtime.nodes = s.runtime.nodes := h .nodes hn
  exact fun ha => ha.of_nodes hu fun _ hm => nodes ▸ hm

namespace Node

theorem tearDown_addressed (url : Url) : Moves (Preserves Runtime.Addressed) (tearDown url) := by
  intro site h
  obtain ⟨-, -, hu, -⟩ := tearDown_touches url site .identity (by decide)
  refine h.of_nodes hu ?_
  rw [(tearDown_tables url site).1]
  intro other hm
  exact (Std.ExtTreeMap.mem_erase.1 hm).2

theorem setDefaultTag_addressed (tag : String) :
    Moves (Preserves Runtime.Addressed) (setDefaultTag tag) := by
  refine setDefaultTag_moves (fun _ _ h => h.addressed (by decide) (by decide)) tag ?_
  refine .modify fun site h => h.of_nodes rfl ?_
  intro url hm
  exact Std.ExtTreeMap.mem_map.1 hm

end Node

namespace Runtime

/-- The name under which a node is created addresses it from then on, for the URL of the runtime
stays the same. -/
theorem createLocalNode_addressed (spec : NodeSpec) :
    Moves (Preserves Addressed) (attempt (createLocalNode spec)) := by
  intro site ha
  have quiet {parts : List Part} (hi : .identity ∉ parts) (hn : .nodes ∉ parts) (s s' : Site)
      (h : Touches parts s s') :
      Preserves (fun runtime => runtime.url = site.runtime.url ∧ runtime.Addressed) s s' := by
    obtain ⟨-, -, hu, -⟩ := h .identity hi
    rintro ⟨hs, ha⟩
    exact ⟨hu.trans hs, h.addressed hi hn ha⟩
  refine (createLocalNode_movesFrom (quiet (by decide) (by decide)) spec ?_ ⟨rfl, ha⟩).2
  intro node hnode
  refine Node.install_moves (quiet (by decide) (by decide)) node (.modify ?_)
  rintro start ⟨hs, ha⟩
  refine ⟨hs, ?_⟩
  intro url hm
  rcases Std.ExtTreeMap.mem_insert.1 hm with he | hm
  · refine ⟨spec.name, ?_⟩
    rw [← Std.LawfulEqOrd.eq_of_compare he, ← hnode, nodeUrl, nodeUrl]
    exact congrArg (fun url : Url => (if spec.name.toList.contains '/' then Url.parse spec.name
      else url.withName spec.name).mapError RuntimeError.ofInvalid) hs
  · exact ha url hm

end Runtime

theorem lasting_addressed : Lasting Runtime.Addressed := by
  refine .of_tables (fun h hi hn _ => h.addressed hi hn) ?_ Runtime.createLocalNode_addressed
    Node.tearDown_addressed Node.setDefaultTag_addressed ?_ ?_
  · intro request runtime h url hm
    rw [(Runtime.ofRequest_fresh h).2.2.1] at hm
    simp at hm
  · exact fun name replaceIfBound => (Runtime.registerVirtualNode_touches name replaceIfBound).mono
      fun _ _ h => h.addressed (by decide) (by decide)
  · exact fun key => .modify fun _ h => h

/-! ## Answers -/

namespace World

/-- What a runtime answers now. -/
def answer {α : Type} (world : World) (id : RuntimeId) (action : Action α) :
    Except RuntimeError α := ((act id action).run world).1

theorem answer_ask {α : Type} {world : World} {id : RuntimeId} {runtime : Runtime}
    (h : world.runtime? id = some runtime) (question : Runtime → Except RuntimeError α) :
    world.answer id (ask question) = question runtime := by
  rw [answer, act_some h (run_attempt_ask question _)]
  rfl

end World

theorem Runtime.node_eq {runtime : Runtime} {name : String} {url : Url} {node : Node}
    (hu : runtime.nodeUrl name = .ok url) (hn : runtime.nodes[url]? = some node) :
    runtime.node name = .ok node := by
  rw [Runtime.node, hu]
  simp only [bind, Except.bind, hn]
  rfl

theorem Runtime.node_eq_ok_iff {runtime : Runtime} {name : String} {node : Node} :
    runtime.node name = .ok node ↔
      ∃ url, runtime.nodeUrl name = .ok url ∧ runtime.nodes[url]? = some node := by
  refine ⟨fun h => ?_, fun ⟨url, hu, hn⟩ => node_eq hu hn⟩
  obtain ⟨url, hu, h⟩ := bind_eq_ok_iff.1 h
  refine ⟨url, hu, ?_⟩
  cases hn : runtime.nodes[url]? with
  | none => rw [hn] at h; cases h
  | some found => rw [hn] at h; cases h; rfl

namespace Runtime.Housed

variable {runtime : Runtime}

theorem exists_node (h : runtime.Housed) {url : Url} (hm : url ∈ runtime.nodes) :
    ∃ node, runtime.nodes[url]? = some node ∧ node.url = url := by
  obtain ⟨node, hn⟩ := Option.isSome_iff_exists.1 (Std.ExtTreeMap.isSome_getElem?_iff_mem.2 hm)
  exact ⟨node, hn, h.nodes url node hn⟩

/-- The node of a hosted body is there to tell its entities. -/
theorem bodyEntities_eq (h : runtime.Housed) {id : BodyId} {hosted : HostedBody}
    (hh : runtime.bodies.hosted? id = some hosted) :
    ∃ node, runtime.nodes[hosted.nodeUrl]? = some node ∧
      runtime.bodyEntities id = .ok (runtime.nodeEntities node) := by
  obtain ⟨node, hn, -⟩ := h.exists_node (h.bodies.mem hh)
  refine ⟨node, hn, ?_⟩
  simp only [bodyEntities, BodyTable.locate?, hh, Option.map_some, HostedBody.handle, hn]

theorem bodyEntities_eq_unknown_iff (h : runtime.Housed) {id : BodyId} :
    runtime.bodyEntities id = .error (.unknownBody id) ↔ runtime.bodies.hosted? id = none := by
  cases hh : runtime.bodies.hosted? id with
  | none => simp [bodyEntities, BodyTable.locate?, hh]
  | some hosted =>
    obtain ⟨node, -, he⟩ := h.bodyEntities_eq hh
    simp [he]

end Runtime.Housed

namespace Fleet

/-- The nodes and the bodies of a runtime agree, and so does what it tells of them. -/
structure Roster (fleet : Fleet) (place : RuntimeId) (runtime : Runtime) : Prop where
  keyed {id : BodyId} {hosted : HostedBody} :
    runtime.bodies.hosted? id = some hosted → hosted.body.id = id
  /-- A body is on a node that is there, whether it is active or on its way out. -/
  housed {id : BodyId} {hosted : HostedBody} :
    runtime.bodies.hosted? id = some hosted → hosted.nodeUrl ∈ runtime.nodes
  addressed {url : Url} : url ∈ runtime.nodes → ∃ name, runtime.nodeUrl name = .ok url
  listed {name : String} {url : Url} : runtime.nodeUrl name = .ok url → url ∈ runtime.nodes →
    fleet.world.answer place (Runtime.activeObjects name) = .ok (runtime.bodies.activeObjects url)
  sorted (url : Url) :
    (runtime.bodies.activeObjects url).Pairwise fun a b => compare a.id b.id = .lt
  disjoint {url url' : Url} : url ≠ url' → ∀ a ∈ runtime.bodies.activeObjects url,
    ∀ b ∈ runtime.bodies.activeObjects url', a.id ≠ b.id
  /-- The listings of all nodes have the active bodies and nothing else. -/
  complete {handle : BodyHandle} :
    (∃ url ∈ runtime.nodes, handle ∈ runtime.bodies.activeObjects url) ↔
      ∃ hosted, runtime.bodies.hosted? handle.id = some hosted ∧ hosted.status = .active ∧
        hosted.handle = handle
  ofClass {name : String} {url : Url} (className : String) :
    runtime.nodeUrl name = .ok url → url ∈ runtime.nodes →
      fleet.world.answer place (Runtime.activeObjectsOfClass name className) =
        .ok ((runtime.bodies.activeObjects url).filter fun handle =>
          (runtime.bodies.body? handle.id).any (·.className = className))
  entities {id : BodyId} {hosted : HostedBody} : runtime.bodies.hosted? id = some hosted →
    ∃ entities, fleet.world.answer place (ask (·.bodyEntities id)) = .ok entities ∧
      ∀ name, runtime.nodeUrl name = .ok hosted.nodeUrl →
        fleet.world.answer place (Runtime.entities name) = .ok entities
  unknown {id : BodyId} :
    fleet.world.answer place (ask (·.bodyEntities id)) = .error (.unknownBody id) ↔
      runtime.bodies.hosted? id = none

/-- After every run, with any migrations under way, every runtime accounts for its bodies. -/
theorem roster_after (steps : List Step) {place : RuntimeId} {runtime : Runtime}
    (hr : (({} : Fleet).after steps).world.runtime? place = some runtime) :
    (({} : Fleet).after steps).Roster place runtime := by
  have hs : runtime.Housed := each_after lasting_housed steps place runtime hr
  have hk := hs.bodies.keyed
  exact {
    keyed := fun hh => hk _ _ hh
    housed := hs.bodies.mem
    addressed := each_after lasting_addressed steps place runtime hr _
    listed := by
      intro name url hu hm
      obtain ⟨node, hn, rfl⟩ := hs.exists_node hm
      rw [Runtime.activeObjects, World.answer_ask hr, Runtime.node_eq hu hn]
      rfl
    sorted := fun url => hk.pairwise_collect _
    disjoint := fun hne _ ha _ hb => hk.id_ne_of_mem_activeObjects hne ha hb
    complete := by
      intro handle
      constructor
      · rintro ⟨url, -, hm⟩
        exact (hk.mem_activeObjects.1 hm).2
      · rintro ⟨hosted, hf, ha, rfl⟩
        exact ⟨hosted.nodeUrl, hs.bodies.mem hf, hk.mem_activeObjects.2 ⟨rfl, hosted, hf, ha, rfl⟩⟩
    ofClass := by
      intro name url className hu hm
      obtain ⟨node, hn, rfl⟩ := hs.exists_node hm
      rw [Runtime.activeObjectsOfClass, World.answer_ask hr, Runtime.node_eq hu hn,
        ← hk.activeObjectsOfClass_eq]
      rfl
    entities := by
      intro id hosted hh
      obtain ⟨node, hn, he⟩ := hs.bodyEntities_eq hh
      refine ⟨_, (World.answer_ask hr _).trans he, ?_⟩
      intro name hu
      rw [Runtime.entities, World.answer_ask hr, Runtime.node_eq hu hn]
      rfl
    unknown := by
      intro id
      rw [World.answer_ask hr]
      exact hs.bodyEntities_eq_unknown_iff }

/-- A body on its way out of the first runtime is listed nowhere, but it still has a node there. -/
theorem roster_departing :
    let fleet := ({} : Fleet).after (pair ⟨7⟩ ++ [.ship 1 2 ⟨7⟩ "n"])
    fleet.status? 1 ⟨7⟩ = some .migratingOut ∧
      ∃ runtime, fleet.world.runtime? 1 = some runtime ∧ fleet.Roster 1 runtime ∧
        (∀ url ∈ runtime.nodes, ∀ handle ∈ runtime.bodies.activeObjects url, handle.id ≠ ⟨7⟩) ∧
        (fleet.world.answer 1 (ask (·.bodyEntities ⟨7⟩))).isOk := by
  intro fleet
  have hm : fleet.status? 1 ⟨7⟩ = some .migratingOut := by decide +kernel
  obtain ⟨runtime, hr⟩ := exists_runtime hm
  have roster := roster_after _ hr
  have hstatus : runtime.bodies.status? ⟨7⟩ = some .migratingOut := by
    rw [← World.bodies_eq hr]
    exact hm
  obtain ⟨hosted, hh, hs⟩ := Option.map_eq_some_iff.1 hstatus
  refine ⟨hm, runtime, hr, roster, ?_, ?_⟩
  · rintro url hu handle hl hid
    obtain ⟨other, ho, ha, -⟩ := roster.complete.1 ⟨url, hu, hl⟩
    rw [hid, hh] at ho
    cases ho
    rw [hs] at ha
    cases ha
  · obtain ⟨entities, he, -⟩ := roster.entities hh
    rw [he]
    rfl

end Fleet

end ActiveObjects

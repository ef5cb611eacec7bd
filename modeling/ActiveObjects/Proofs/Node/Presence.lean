import Mathlib.Data.List.Induction
import ActiveObjects.Proofs.Naming.Reachability
import ActiveObjects.Proofs.Runtime.Residence

/-!
# Tracked nodes are bound

What work on nodes leaves tracked is bound: to the runtime that tracks it, or as its creation found
it. If nobody else unbinds the URLs that a runtime tracks, this holds throughout.
-/

namespace ActiveObjects

open Site

/-! ## Labels -/

/-- Each node has the name of the URL that it is found under, and belongs to the runtime. -/
def Runtime.NodesLabelled (runtime : Runtime) : Prop :=
  ∀ (url : Url) (node : Node), runtime.nodes[url]? = some node →
    node.name = url.name ∧ node.owner = runtime.url

theorem Touches.nodesLabelled {parts : List Part} {s s' : Site} (h : Touches parts s s')
    (hi : .identity ∉ parts) (hn : .nodes ∉ parts) : Preserves Runtime.NodesLabelled s s' := by
  intro hl
  have nodes : s'.runtime.nodes = s.runtime.nodes := h .nodes hn
  obtain ⟨-, -, own, -⟩ := h .identity hi
  rw [Runtime.NodesLabelled, nodes, own]
  exact hl

theorem lasting_nodesLabelled : Lasting Runtime.NodesLabelled := by
  refine .of_tables (fun h hi hn _ => h.nodesLabelled hi hn) ?_ ?_ ?_ ?_ ?_ ?_
  · intro request runtime h url node hn
    rw [(Runtime.ofRequest_fresh h).2.2.1] at hn
    simp at hn
  · intro spec site hl
    rcases hr : (attempt (Runtime.createLocalNode spec)).run site with ⟨result, site'⟩
    rcases Runtime.run_createLocalNode hr with ⟨-, -, rfl⟩ | ⟨-, created, -, hc⟩
    · exact hl
    cases hc with
    | unnamed hu => exact hl
    | kept hu ht hk hs => exact hs.nodesLabelled (by decide) (by decide) hl
    | refused hu hk he naming hs => exact hs.nodesLabelled (by decide) (by decide) hl
    | @installed url outcome last hu hk he naming nodes groups hs =>
      obtain ⟨-, -, own, -⟩ := hs .identity (by decide)
      intro other node hn
      rw [nodes, Std.ExtTreeMap.getElem?_insert] at hn
      rw [own]
      split at hn
      · rename_i ho
        obtain rfl := Std.LawfulEqOrd.eq_of_compare ho
        cases hn
        exact ⟨rfl, rfl⟩
      · exact hl other node hn
  · intro url site hl other node hn
    have touched := Node.tearDown_touches url site
    obtain ⟨-, -, own, -⟩ := touched .identity (by decide)
    rw [(Node.tearDown_tables url site).1, Std.ExtTreeMap.getElem?_erase] at hn
    rw [own]
    split at hn
    · cases hn
    · exact hl other node hn
  · intro tag site hl other node hn
    have touched := Node.setDefaultTag_touches tag site
    obtain ⟨-, -, own, -⟩ := touched .identity (by decide)
    rw [(Node.setDefaultTag_tables tag site).1, NodeTable.tagUntagged,
      Std.ExtTreeMap.getElem?_map] at hn
    obtain ⟨before, hb, rfl⟩ := Option.map_eq_some_iff.1 hn
    rw [own]
    split
    · exact hl other before hb
    · exact hl other before hb
  · exact fun name replaceIfBound => (Runtime.registerVirtualNode_touches name replaceIfBound).mono
      fun _ _ h => h.nodesLabelled (by decide) (by decide)
  · exact fun key => .modify fun _ h => h

/-! ## Creating nodes -/

/-- A node that is new is bound to the runtime, or its URL is one of those that may be found bound,
was bound already, and stays so. -/
def Accounted (found : Url → Prop) (s s' : Site) : Prop :=
  ∀ url ∈ s'.runtime.nodes, url ∈ s.runtime.nodes ∨
    s'.naming.bindings[url]? = some s.runtime.handle ∨
    found url ∧ ∃ handle, s.naming.bindings[url]? = some handle ∧
      s'.naming.bindings[url]? = some handle

/-- Bindings are gained, and over an honest naming facility those of the nodes that are new. -/
structure Publishes (found : Url → Prop) (s s' : Site) : Prop extends Gains s s' where
  tracked : s.naming.Honest → Accounted found s s'

instance (found : Url → Prop) : IsPreorder Site (Publishes found) where
  refl s := ⟨refl_of Gains s, fun _ url hu => .inl hu⟩
  trans s₁ s₂ s₃ h h' := by
    refine ⟨trans_of Gains h.toGains h'.toGains, fun hh url hu => ?_⟩
    have handle : s₂.runtime.handle = s₁.runtime.handle := h.handle
    rcases h'.tracked (h.honest hh) url hu with hu | hown | ⟨hf, bound, hb, hb'⟩
    · rcases h.tracked hh url hu with hu | hown | ⟨hf, bound, hb, hb'⟩
      · exact .inl hu
      · exact .inr (.inl (handle ▸ h'.own (handle ▸ hown)))
      · rcases h'.bound url with hs | hs
        · exact .inr (.inr ⟨hf, bound, hb, hs.trans hb'⟩)
        · exact .inr (.inl (handle ▸ hs))
    · exact .inr (.inl (handle ▸ hown))
    · rcases h.bound url with hs | hs
      · exact .inr (.inr ⟨hf, bound, hs ▸ hb, hb'⟩)
      · refine .inr (.inl ?_)
        rw [hb', ← hb, hs]

theorem Gains.publishes {found : Url → Prop} {s s' : Site} (h : Gains s s')
    (hn : s'.runtime.nodes = s.runtime.nodes) : Publishes found s s' :=
  ⟨h, fun _ _ hu => .inl (hn ▸ hu)⟩

theorem Touches.publishes {found : Url → Prop} {parts : List Part} {s s' : Site}
    (h : Touches parts s s') (hp : parts ⊆ [.log, .groups, .events]) : Publishes found s s' :=
  ((h.mono hp).gains (by decide) (by decide)).publishes ((h.mono hp) .nodes (by decide))

namespace Runtime

section

variable {found : Url → Prop} {spec : NodeSpec} {site : Site}

/-- To create a node takes one call of the naming facility, which has to be honest. -/
theorem createLocalNode_accounted (hh : site.naming.HonestAfter 0)
    (hf : ∀ url, site.runtime.nodeUrl spec.name = .ok url → url ∉ site.runtime.nodes →
      spec.replaceIfBound = false → found url) :
    MovesFrom (Accounted found) site (attempt (createLocalNode spec)) := by
  rcases hr : (attempt (createLocalNode spec)).run site with ⟨result, site'⟩
  rw [MovesFrom, hr]
  have unchanged {last : Site} (hn : last.runtime.nodes = site.runtime.nodes) :
      Accounted found site last := fun url hu => .inl (hn ▸ hu)
  rcases run_createLocalNode hr with ⟨-, -, rfl⟩ | ⟨-, created, -, hc⟩
  · exact unchanged rfl
  cases hc with
  | unnamed hu => exact unchanged rfl
  | kept hu ht hk hs => exact unchanged (hs .nodes (by decide))
  | refused hu hk he naming hs => exact unchanged (hs .nodes (by decide))
  | @installed url outcome last hu hk he naming nodes groups hs =>
    intro other ho
    dsimp only at ho
    rw [nodes, Std.ExtTreeMap.mem_insert, Std.compare_eq_iff_eq] at ho
    rcases ho with rfl | ho
    · by_cases hn : url ∈ site.runtime.nodes
      · exact .inl hn
      · refine .inr ?_
        by_cases ha : outcome = .alreadyBound
        · -- There is a binding, which stays.
          subst ha
          obtain ⟨hkeep, hc⟩ := hh.of_alreadyBound he
          rw [Naming.contains, Std.ExtTreeMap.contains_eq_isSome_getElem?,
            Option.isSome_iff_exists] at hc
          obtain ⟨handle, hb⟩ := hc
          refine .inr ⟨hf url (nodeUrl_of_entryUrl hu) hn hkeep, handle, hb, ?_⟩
          rw [naming, Naming.bindings_enter_of_alreadyBound he, hb]
        · refine .inl ?_
          rw [naming, Naming.getElem?_enter,
            if_pos ⟨Naming.obstacle?_eq_none_of_ok he ha, rfl⟩]
    · exact .inl ho

theorem createLocalNode_publishes
    (hf : ∀ url, site.runtime.nodeUrl spec.name = .ok url → url ∉ site.runtime.nodes →
      spec.replaceIfBound = false → found url) :
    MovesFrom (Publishes found) site (attempt (createLocalNode spec)) :=
  ⟨createLocalNode_gains spec site, fun hh => createLocalNode_accounted (hh 0) hf⟩

end

theorem boot_publishes {found : Url → Prop} (config : RuntimeConfig) {site : Site}
    (hf : ∀ settings ∈ config.nodes, ∀ url, site.runtime.nodeUrl settings.name = .ok url →
      settings.replace = false → found url) :
    MovesFrom (Publishes found) site (attempt (boot config)) := by
  have quiet {α : Type} {work : Work α} (hw : Moves (Touches [.log, .events]) work)
      (middle : Site) : MovesFrom (Publishes found) middle work := (hw middle).publishes (by decide)
  -- Whatever comes before a node is created, the names stand for what they stood for.
  refine .attempt_get_bind (.attempt_bind_of (P := Gains site) ?_
    (Registry.register_gains _ false site) fun _ first hfirst => ?_)
  · have touched : Touches [.naming, .log] site _ :=
      Registry.register_touches (by decide) (by decide) site.runtime.url site.runtime.handle false
        site
    exact (Registry.register_gains _ false site).publishes (touched .nodes (by decide))
  have logged : Moves (Touches [.log, .events]) (logLine .info "Runtime started") :=
    logLine_touches (by decide) .info "Runtime started"
  have told : Moves (Touches [.log, .events]) (publish (.runtimeStarted site.runtime.url)) :=
    publish_touches (by decide) (by decide) _
  refine .attempt_bind_of (P := Gains site) (quiet logged first)
    (trans_of Gains hfirst ((logged first).gains (by decide) (by decide))) fun _ second hsecond => ?_
  refine .attempt_bind_of (P := Gains site) (quiet told second)
    (trans_of Gains hsecond ((told second).gains (by decide) (by decide))) fun _ third hthird => ?_
  have grouped : Moves Gains (attempt
      (config.virtualNodes.forM fun name => do let _ ← registerVirtualNode name true)) :=
    .attempt_forM (fun name => .attempt_discard (registerVirtualNode_gains name true)) _
  have touched : Moves (Touches [.naming, .log, .groups, .events]) (attempt
      (config.virtualNodes.forM fun name => do let _ ← registerVirtualNode name true)) :=
    .attempt_forM (fun name => .attempt_discard (registerVirtualNode_touches name true)) _
  refine .attempt_bind_of (P := Gains site)
    ((grouped third).publishes (touched third .nodes (by decide)))
    (trans_of Gains hthird (grouped third)) fun _ fourth hfourth => ?_
  refine .attempt_forM (P := fun _ => Gains site) hfourth fun done settings rest last hx hlast => ?_
  refine ⟨.attempt_discard (createLocalNode_publishes fun url hu _ hd => ?_), ?_⟩
  · have same : last.runtime.url = site.runtime.url := congrArg RuntimeHandle.url hlast.handle
    refine hf settings (by simp [hx]) url ?_ hd
    rw [← nodeUrl_congr same]
    exact hu
  · exact trans_of Gains hlast (Moves.attempt_discard (createLocalNode_gains _) last)

end Runtime

/-! ## Killing nodes -/

/-- A node that is still there keeps the binding of its URL. -/
theorem Node.Kills.bound_eq {urls : List Url} {s s' : Site} (h : Kills urls s s')
    (hd : urls.Nodup) {url : Url} (hu : url ∈ s'.runtime.nodes) :
    s'.naming.bindings[url]? = s.naming.bindings[url]? := by
  obtain ⟨-, hn⟩ := h.mem_nodes_iff.1 hu
  rw [h.names]
  refine Option.ext fun handle => Naming.bound_releaseAll_iff.trans (and_iff_left ?_)
  rw [Naming.withstands_iff_of_nodup hd]
  rintro ⟨hm, hf⟩
  refine hn ⟨hm, ?_⟩
  rw [Naming.LetsGo, hf]
  rfl

/-! ## Work on nodes -/

theorem Runtime.mem_nodes_setDefaultTag (tag : String) (site : Site) {url : Url}
    (hu : url ∈ ((attempt (setDefaultTag tag)).run site).2.runtime.nodes) :
    url ∈ site.runtime.nodes := by
  rw [setDefaultTag, run_ensureRunning] at hu
  split at hu
  · have nodes : ((attempt (liftM (Node.setDefaultTag tag))).run site).2.runtime.nodes = _ :=
      (Node.setDefaultTag_tables tag site).1
    rw [nodes, NodeTable.tagUntagged, mem_iff_exists_getElem?, Std.ExtTreeMap.getElem?_map] at hu
    obtain ⟨node, hn⟩ := hu
    obtain ⟨before, hb, -⟩ := Option.map_eq_some_iff.1 hn
    exact mem_iff_exists_getElem?.2 ⟨before, hb⟩
  · exact hu

namespace Call

/-- The operations of the manager of nodes. -/
def worksOnNodes : Call → Bool
  | createLocalNode .. | killNode .. | killAllNodes | setDefaultTag .. => true
  | _ => false

/-- The call asks for a new node under the URL, and not to replace a binding. -/
def Admits (runtime : Runtime) : Call → Url → Prop
  | createLocalNode spec, url =>
    runtime.nodeUrl spec.name = .ok url ∧ url ∉ runtime.nodes ∧ spec.replaceIfBound = false
  | _, _ => False

/-- After work on nodes, a URL that is tracked is bound to the runtime, or as it was before, when it
was tracked already or came to be so now. -/
theorem bound_of_worksOnNodes {constructors : ConstructorRegistry} {call : Call}
    (hw : call.worksOnNodes = true) {site site' : Site} {result : Except RuntimeError Unit}
    (hr : (attempt (call.action constructors)).run site = (result, site'))
    (hh : site.naming.HonestAfter 0) {url : Url} (hu : url ∈ site'.runtime.nodes) :
    site'.naming.bindings[url]? = some site.runtime.handle ∨
      (url ∈ site.runtime.nodes ∧ site'.naming.bindings[url]? = site.naming.bindings[url]?) ∨
      (call.Admits site.runtime url ∧
        ∃ handle, site.naming.bindings[url]? = some handle ∧
          site'.naming.bindings[url]? = some handle) := by
  have killed {urls : List Url} (hd : urls.Nodup) (hk : Node.Kills urls site site') :
      url ∈ site.runtime.nodes ∧ site'.naming.bindings[url]? = site.naming.bindings[url]? :=
    ⟨(hk.mem_nodes_iff.1 hu).1, hk.bound_eq hd hu⟩
  have last : ((attempt (call.action constructors)).run site).2 = site' := by rw [hr]
  cases call with
  | createLocalNode spec =>
    have accounted : Accounted ((createLocalNode spec).Admits site.runtime) site site' := by
      rw [← last]
      show Accounted _ _ ((attempt (do let _ ← Runtime.createLocalNode spec)).run site).2
      rw [run_attempt_discard]
      exact Runtime.createLocalNode_accounted hh fun url hu hn hd => ⟨hu, hn, hd⟩
    have gains : Gains site site' := by
      rw [← last]
      exact Moves.attempt_discard (Runtime.createLocalNode_gains spec) site
    rcases accounted url hu with hm | hown | hfound
    · rcases gains.bound url with hs | hs
      · exact .inr (.inl ⟨hm, hs⟩)
      · exact .inl hs
    · exact .inl hown
    · exact .inr (.inr hfound)
  | killNode name =>
    refine .inr (.inl (killed (site.runtime.nodup_killUrls name) ?_))
    rw [← last]
    show Node.Kills _ _ ((attempt (do let _ ← Node.kill name)).run site).2
    rw [run_attempt_discard]
    exact Node.kill_kills name site
  | killAllNodes =>
    refine .inr (.inl (killed (Std.ExtTreeMap.nodup_keys (t := site.runtime.nodes)) ?_))
    rw [← last]
    exact Node.killAll_kills site
  | setDefaultTag tag =>
    have touched := Runtime.setDefaultTag_touches tag site
    have hrun : ((attempt (Runtime.setDefaultTag tag)).run site).2 = site' := last
    rw [← hrun] at hu ⊢
    have naming : ((attempt (Runtime.setDefaultTag tag)).run site).2.naming = site.naming :=
      touched .naming (by decide)
    exact .inr (.inl ⟨Runtime.mem_nodes_setDefaultTag tag site hu, by rw [naming]⟩)
  | _ => cases hw

end Call

namespace World

variable {world : World} {id place : RuntimeId} {α : Type}

/-- A runtime is what it was, or what the action at its place made of it. -/
theorem exists_runtime_of_act (hk : world.Keyed) {action : Action α} {parts : List Part}
    (ha : Moves (Touches parts) (attempt action)) (hi : .identity ∉ parts) {runtime : Runtime}
    (hr : ((act id action).run world).2.runtime? place = some runtime) :
    ∃ before, world.runtime? place = some before ∧ (runtime = before ∨
      id = place ∧ runtime = ((attempt action).run (world.site before)).2.runtime) := by
  rcases hact : (act id action).run world with ⟨result, world'⟩
  rw [hact] at hr
  rcases act_cases hk ha hi hact with ⟨-, -, rfl⟩ | ⟨before, site, hb, hs, rfl, hid⟩
  · exact ⟨runtime, hr, .inl rfl⟩
  · rw [runtime?_absorb, hid] at hr
    split at hr
    · rename_i hp
      subst hp
      cases hr
      exact ⟨before, hb, .inr ⟨rfl, by rw [hs]⟩⟩
    · exact ⟨runtime, hr, .inl rfl⟩

/-- A runtime is there before a start, or is the one that boots. -/
theorem runtime?_start {request : StartRequest} {runtime : Runtime}
    (hr : (world.start request).2.runtime? place = some runtime) :
    world.runtime? place = some runtime ∨ request.id = place ∧
      ∃ started, Runtime.ofRequest request = .ok started ∧
        (world.start request).2 =
          world.absorb ((attempt (Runtime.boot request.config)).run (world.site started)).2 ∧
        runtime =
          ((attempt (Runtime.boot request.config)).run (world.site started)).2.runtime := by
  unfold start at hr ⊢
  cases ho : Runtime.ofRequest request with
  | error e =>
    rw [ho] at hr
    exact .inl hr
  | ok started =>
    rw [ho] at hr
    dsimp only at hr ⊢
    rcases hb : (attempt (Runtime.boot request.config)).run (world.site started) with
      ⟨result, site⟩
    have touched := Runtime.boot_touches request.config (world.site started) .identity (by decide)
    rw [hb] at hr touched
    dsimp only at hr
    rw [runtime?_absorb, touched.1.trans (Runtime.ofRequest_fresh ho).1] at hr
    split at hr
    · rename_i hp
      cases hr
      exact .inr ⟨hp, started, rfl, by rw [hb], by rw [hb]⟩
    · exact .inl hr

end World

namespace Fleet

variable {fleet : Fleet} {place : RuntimeId} {url : Url} {step : Step} {steps : List Step}

/-! ## Why a URL is bound -/

/-- The runtime has a node under the URL. -/
def Tracks (fleet : Fleet) (place : RuntimeId) (url : Url) : Prop :=
  ∃ runtime, fleet.world.runtime? place = some runtime ∧ url ∈ runtime.nodes

/-- A node is created that is not to replace a binding, and its URL is bound already. -/
def Finds (place : RuntimeId) (url : Url) (handle : RuntimeHandle) (fleet : Fleet) : Step → Prop
  | .call other call =>
    other = place ∧ fleet.world.naming.resolve url = .ok handle ∧
      ∃ runtime, fleet.world.runtime? place = some runtime ∧ call.Admits runtime url
  | .start request =>
    request.id = place ∧ fleet.world.runtime? place = none ∧
      fleet.world.naming.resolve url = .ok handle ∧
      ∃ runtime, Runtime.ofRequest request = .ok runtime ∧
        ∃ settings ∈ request.config.nodes, runtime.nodeUrl settings.name = .ok url ∧
          settings.replace = false
  | _ => False

/-- The runtime has tracked the URL ever since it found it bound, and so it is still bound. -/
def Met (place : RuntimeId) (url : Url) (handle : RuntimeHandle) (steps : List Step) : Prop :=
  ∃ before step rest, steps = before ++ step :: rest ∧
    Finds place url handle (({} : Fleet).after before) step ∧
    ∀ more, more <+: rest →
      (({} : Fleet).after (before ++ step :: more)).Tracks place url ∧
        (({} : Fleet).after (before ++ step :: more)).world.naming.resolve url = .ok handle

/-- Work on the nodes of the runtime. -/
def WorksOnNodes (place : RuntimeId) : Step → Prop
  | .call other call => other = place ∧ call.worksOnNodes = true
  | _ => False

instance (place : RuntimeId) : DecidablePred (WorksOnNodes place)
  | .call other call => inferInstanceAs (Decidable (other = place ∧ call.worksOnNodes = true))
  | .start _ | .naming _ | .registries _ | .ship .. | .deliver _ | .lose .. | .settle _ => isFalse id

/-- Only work on the nodes of the runtime changes the bindings of the URLs that the runtime
tracks. -/
def Unshared (place : RuntimeId) (fleet : Fleet) (step : Step) : Prop :=
  WorksOnNodes place step ∨ ∀ url, fleet.Tracks place url →
    (fleet.next step).world.naming.bindings[url]? = fleet.world.naming.bindings[url]?

instance (place : RuntimeId) : DecidableRel (Unshared place) := fun fleet step =>
  decidable_of_iff (WorksOnNodes place step ∨ ∀ runtime ∈ fleet.world.runtime? place,
      ∀ url ∈ runtime.nodes.keys,
        (fleet.next step).world.naming.bindings[url]? = fleet.world.naming.bindings[url]?) <| by
    refine or_congr_right ⟨?_, fun h runtime hr url hu => ?_⟩
    · rintro h url ⟨runtime, hr, hu⟩
      exact h runtime hr url (Std.ExtTreeMap.mem_keys.2 hu)
    · exact h url ⟨runtime, hr, Std.ExtTreeMap.mem_keys.1 hu⟩

/-- The naming facility is honest in what a step calls it for: the next call, or all calls of a
start. -/
def Trusting (fleet : Fleet) : Step → Prop
  | .call .. => fleet.world.naming.HonestAfter 0
  | .start _ => fleet.world.naming.Honest
  | _ => True

/-- The naming facility is honest, and leaves the URLs that the runtime tracks to the work on its
nodes. -/
def Sheltered (place : RuntimeId) (fleet : Fleet) (step : Step) : Prop :=
  Trusting fleet step ∧ Unshared place fleet step

/-- How a URL that is tracked after a step comes to be bound: to the runtime itself, as it was
before, or as it was found. -/
inductive Standing (fleet : Fleet) (step : Step) (place : RuntimeId) (url : Url) : Prop where
  | own {runtime : Runtime} (hr : (fleet.next step).world.runtime? place = some runtime)
    (hb : (fleet.next step).world.naming.bindings[url]? = some runtime.handle)
  | kept (ht : fleet.Tracks place url)
    (hb : (fleet.next step).world.naming.bindings[url]? = fleet.world.naming.bindings[url]?)
  | found {handle : RuntimeHandle} (hf : Finds place url handle fleet step)
    (hb : (fleet.next step).world.naming.bindings[url]? = some handle)

/-- A call at a runtime leaves the site that its operation leaves. -/
theorem exists_site_of_call (hk : fleet.world.Keyed) {call : Call} {runtime : Runtime}
    (hr : (fleet.next (.call place call)).world.runtime? place = some runtime) :
    ∃ before result site, fleet.world.runtime? place = some before ∧
      (attempt (call.action (fleet.world.constructors place))).run (fleet.world.site before) =
        (result, site) ∧
      runtime = site.runtime ∧ (fleet.next (.call place call)).world.naming = site.naming := by
  have touched := call.action_touches (fleet.world.constructors place)
  have hi := call.identity_notMem_footprint
  obtain ⟨before, hb, -⟩ := World.exists_runtime_of_act hk touched hi hr
  have hid := (touched (fleet.world.site before) .identity hi).1
  rcases hs : (attempt (call.action (fleet.world.constructors place))).run
    (fleet.world.site before) with ⟨result, site⟩
  rw [hs] at hid
  rw [world_call hb hs, World.runtime?_absorb, hid.trans (hk place before hb), if_pos rfl] at hr
  exact ⟨before, result, site, hb, hs, (Option.some.inj hr).symm, by rw [world_call hb hs]; rfl⟩

/-- At a runtime that was there, the call has the outcome of its operation. -/
theorem exists_run_of_call (hk : fleet.world.Keyed) {call : Call} {runtime runtime' : Runtime}
    (hr : fleet.world.runtime? place = some runtime)
    (hr' : (fleet.next (.call place call)).world.runtime? place = some runtime') :
    ∃ site, runtime' = site.runtime ∧
      (attempt (call.action (fleet.world.constructors place))).run (fleet.world.site runtime) =
        ((fleet.outcome (.call place call)).1, site) := by
  obtain ⟨before, result, site, hb, hrun, rfl, -⟩ := exists_site_of_call hk hr'
  obtain rfl := Option.some.inj (hr.symm.trans hb)
  rw [outcome_call hr hrun]
  exact ⟨site, rfl, hrun⟩

/-- Where a runtime after a step comes from: it starts, an operation is called at it, or it takes
part in a migration at most. -/
inductive Arises (fleet : Fleet) (step : Step) (place : RuntimeId) (runtime' : Runtime) : Prop where
  | started {request : StartRequest} (hs : step = .start request) (hp : request.id = place)
    (hn : fleet.world.runtime? place = none)
  | called {call : Call} {runtime : Runtime} (hs : step = .call place call)
    (hr : fleet.world.runtime? place = some runtime)
    (hsite : runtime' = ((attempt (call.action (fleet.world.constructors place))).run
      (fleet.world.site runtime)).2.runtime)
  | passed {runtime : Runtime} {site : Site} (hs : ∀ call, step ≠ .call place call)
    (hr : fleet.world.runtime? place = some runtime)
    (ht : Touches [.log, .bodies, .events] (fleet.world.site runtime) site)
    (hsite : runtime' = site.runtime)

theorem arises_next (hk : fleet.world.Keyed) {runtime' : Runtime}
    (hr : (fleet.next step).world.runtime? place = some runtime') :
    fleet.Arises step place runtime' := by
  by_cases hc : ∃ call, step = .call place call
  · obtain ⟨call, rfl⟩ := hc
    obtain ⟨before, result, site, hb, hrun, rfl, -⟩ := exists_site_of_call hk hr
    exact .called rfl hb (by rw [hrun])
  have hc : ∀ call, step ≠ .call place call := not_exists.1 hc
  have same (h : fleet.world.runtime? place = some runtime') : fleet.Arises step place runtime' :=
    .passed hc h (refl_of (Touches _) (fleet.world.site runtime')) rfl
  have acted {α : Type} {action : Action α} {parts : List Part} (id : RuntimeId)
      (ha : Moves (Touches parts) (attempt action)) (hp : parts ⊆ [.log, .bodies, .events])
      (h : ((World.act id action).run fleet.world).2.runtime? place = some runtime') :
      fleet.Arises step place runtime' := by
    have ha := ha.widen hp
    obtain ⟨before, hb, rfl | ⟨-, rfl⟩⟩ := World.exists_runtime_of_act hk ha (by decide) h
    · exact same hb
    · exact .passed hc hb (ha (fleet.world.site before)) rfl
  have changed := fleet.change_next step
  generalize (fleet.next step).world = world at changed hr
  cases changed with
  | idle step => exact same hr
  | started hn =>
    rcases World.runtime?_start hr with hr | ⟨rfl, -⟩
    · exact same hr
    · exact .started rfl rfl hn
  | naming naming => exact same hr
  | registries registries => exact same hr
  | called other call =>
    have touched := call.action_touches (fleet.world.constructors other)
    obtain ⟨before, hb, rfl | ⟨rfl, -⟩⟩ :=
      World.exists_runtime_of_act hk touched call.identity_notMem_footprint hr
    · exact same hb
    · exact absurd rfl (hc call)
  | shipped source target id node =>
    exact acted source (Runtime.beginMigration_touches id) (by decide) hr
  | delivered i target node body =>
    exact acted target (Runtime.receiveBody_touches node body) (by decide) hr
  | settled i source id left target answer =>
    exact acted source (Runtime.endMigration_touches id left target answer) (by decide) hr

/-- What there is of a runtime right after its start. -/
theorem exists_boot_of_start {request : StartRequest} {runtime' : Runtime}
    (hn : fleet.world.runtime? request.id = none)
    (hr' : (fleet.next (.start request)).world.runtime? request.id = some runtime') :
    ∃ started, Runtime.ofRequest request = .ok started ∧
      runtime' = ((attempt (Runtime.boot request.config)).run
        (fleet.world.site started)).2.runtime := by
  have world : (fleet.next (.start request)).world = (fleet.world.start request).2 := by
    simp only [next, outcome, hn]
  rw [world] at hr'
  rcases World.runtime?_start hr' with hb | ⟨-, started, ho, -, hsite⟩
  · cases hn.symm.trans hb
  · exact ⟨started, ho, hsite⟩

theorem standing_of_work (hs : fleet.Sound) (hh : Trusting fleet step)
    (hw : WorksOnNodes place step) (ht : (fleet.next step).Tracks place url) :
    Standing fleet step place url := by
  obtain ⟨runtime, hr, hu⟩ := ht
  cases step with
  | call other call =>
    obtain ⟨rfl, hcall⟩ := hw
    have next := hr
    obtain ⟨before, result, site, hb, hrun, rfl, hn⟩ := exists_site_of_call hs.world hr
    have touched := call.action_touches (fleet.world.constructors other) (fleet.world.site before)
      .identity call.identity_notMem_footprint
    rw [hrun] at touched
    rcases Call.bound_of_worksOnNodes hcall hrun hh hu with hown | ⟨hm, hb'⟩ | ⟨ha, handle, hf, hb'⟩
    · refine .own next ?_
      rw [hn, touched.handle_eq]
      exact hown
    · exact .kept ⟨before, hb, hm⟩ (hn ▸ hb')
    · exact .found ⟨rfl, Naming.resolve_eq_ok_iff.2 hf, before, hb, ha⟩ (hn ▸ hb')
  | _ => exact hw.elim

/-- Other than through work on its nodes, a runtime comes to track a URL only when it starts. -/
theorem tracks_of_next (hs : fleet.Sound) (hh : fleet.world.Each Runtime.Housed)
    (hw : ¬ WorksOnNodes place step) (hstart : ∀ request, step = .start request →
      request.id ≠ place) (ht : (fleet.next step).Tracks place url) : fleet.Tracks place url := by
  obtain ⟨runtime, hr, hu⟩ := ht
  cases arises_next hs.world hr with
  | started hstep hp => exact absurd hp (hstart _ hstep)
  | @called call before hstep hb hsite =>
    subst hstep hsite
    refine ⟨before, hb, ?_⟩
    -- To kill drops nodes only, and whatever else changes the table is work on nodes.
    by_cases hk : call.kills = true
    · exact (Call.action_clears _ hk (fleet.world.site before) (hh _ before hb)).nodes hu
    by_cases hn : .nodes ∈ call.footprint
    · cases call with
      | createLocalNode spec => exact absurd ⟨rfl, rfl⟩ hw
      | setDefaultTag tag => exact absurd ⟨rfl, rfl⟩ hw
      | _ => simp [Call.footprint, Call.kills] at hn hk
    · have touched := call.action_touches (fleet.world.constructors place)
      have nodes : _ = before.nodes := touched (fleet.world.site before) .nodes hn
      exact nodes ▸ hu
  | @passed before site _ hb ht hsite =>
    have nodes : site.runtime.nodes = before.nodes := ht .nodes (by decide)
    subst hsite
    exact ⟨before, hb, nodes ▸ hu⟩

/-- A runtime that starts has the nodes that it is configured with. -/
theorem standing_of_start {request : StartRequest} (hh : fleet.world.naming.Honest)
    (hn : fleet.world.runtime? request.id = none)
    (hw : (fleet.next (.start request)).world = (fleet.world.start request).2)
    (ht : (fleet.next (.start request)).Tracks request.id url) :
    Standing fleet (.start request) request.id url := by
  obtain ⟨runtime, hr, hu⟩ := ht
  have next := hr
  rw [hw] at hr
  obtain hr | ⟨-, started, ho, hs, rfl⟩ := World.runtime?_start hr
  · rw [hn] at hr
    cases hr
  have publishes : Publishes (fun url => ∃ settings ∈ request.config.nodes,
      started.nodeUrl settings.name = .ok url ∧ settings.replace = false)
      (fleet.world.site started)
      ((attempt (Runtime.boot request.config)).run (fleet.world.site started)).2 :=
    Runtime.boot_publishes request.config fun settings hm url hu hd => ⟨settings, hm, hu, hd⟩
  have hnaming : (fleet.next (.start request)).world.naming = _ :=
    congrArg World.naming (hw.trans hs)
  rcases publishes.tracked hh url hu with hm | hown | ⟨hf, handle, hb, hb'⟩
  · have fresh : (fleet.world.site started).runtime.nodes = ∅ :=
      (Runtime.ofRequest_fresh ho).2.2.1
    simp [fresh] at hm
  · refine .own next ?_
    rw [hnaming, publishes.handle]
    exact hown
  · refine .found ⟨rfl, hn, Naming.resolve_eq_ok_iff.2 hb, started, ho, hf⟩ ?_
    rw [hnaming]
    exact hb'

theorem Sheltered.standing (hs : fleet.Sound) (hh : fleet.world.Each Runtime.Housed)
    (h : Sheltered place fleet step) (ht : (fleet.next step).Tracks place url) :
    Standing fleet step place url := by
  obtain ⟨honest, quiet⟩ := h
  by_cases hw : WorksOnNodes place step
  · exact standing_of_work hs honest hw ht
  have kept (hold : fleet.Tracks place url) : Standing fleet step place url :=
    .kept hold (quiet.resolve_left hw url hold)
  by_cases hstart : ∃ request, step = .start request ∧ request.id = place
  · obtain ⟨request, rfl, rfl⟩ := hstart
    have changed := fleet.change_next (.start request)
    generalize hworld : (fleet.next (.start request)).world = world at changed
    cases changed with
    | idle step => exact kept (by rwa [Tracks, hworld] at ht)
    | started hn => exact standing_of_start honest hn hworld ht
  · exact kept (tracks_of_next hs hh hw (fun request hr hp => hstart ⟨request, hr, hp⟩) ht)

/-! ## Honest naming facilities -/

/-- Which calls of the naming facility fail is decided from outside. -/
theorem later_next (hn : ∀ naming, step ≠ .naming naming) :
    fleet.world.naming.Later (fleet.next step).world.naming := by
  have changed := fleet.change_next step
  cases step with
  | start request =>
    generalize (fleet.next (.start request)).world = world at changed ⊢
    cases changed with
    | idle step => exact Naming.later_refl _
    | started hf =>
      unfold World.start
      cases ho : Runtime.ofRequest request with
      | error e => exact Naming.later_refl _
      | ok started =>
        have publishes : Publishes (fun _ => True) (fleet.world.site started)
            ((attempt (Runtime.boot request.config)).run (fleet.world.site started)).2 :=
          Runtime.boot_publishes request.config fun _ _ _ _ _ => trivial
        exact publishes.later
  | naming naming => exact absurd rfl (hn naming)
  | call place call =>
    cases hr : fleet.world.runtime? place with
    | none =>
      generalize (fleet.next (.call place call)).world = world at changed ⊢
      cases changed with
      | idle step => exact Naming.later_refl _
      | called place call =>
        rw [World.act_none hr]
        exact Naming.later_refl _
    | some runtime =>
      rw [naming_call hr]
      rcases call.unbinds_or_gains (fleet.world.constructors place) (fleet.world.site runtime)
        with hd | ⟨-, hg⟩
      · rw [hd]
        exact Naming.later_releaseAll ..
      · exact hg.later
  | _ =>
    rw [naming_next (by simp) (by simp) (by simp)]
    exact Naming.later_refl _

/-- A naming facility that speaks of no conflict on its own stays honest. -/
theorem obeys_trusting
    (hq : ∀ call url earlier,
      ¬ (fleet.world.naming.failure? call url earlier).any (·.isNameConflict))
    (hn : ∀ step ∈ steps, ∀ naming, step ≠ .naming naming) : Obeys Trusting fleet steps := by
  induction steps generalizing fleet with
  | nil => trivial
  | cons step steps ih =>
    obtain ⟨made, later⟩ : fleet.world.naming.Later (fleet.next step).world.naming :=
      later_next (hn step (by simp))
    refine ⟨?_, ih ?_ ?_⟩
    · have honest := Naming.honest_of_quiet hq
      cases step with
      | call place call => exact honest 0
      | start request => exact honest
      | _ => trivial
    · intro call url earlier
      rw [later]
      exact hq call url _
    · exact fun other ho => hn other (List.mem_cons_of_mem _ ho)

/-! ## Over runs -/

/-- What was met is still there after a step that leaves it alone. -/
theorem Met.concat {handle : RuntimeHandle} (h : Met place url handle steps)
    (ht : (({} : Fleet).after (steps ++ [step])).Tracks place url)
    (hb : (({} : Fleet).after (steps ++ [step])).world.naming.resolve url = .ok handle) :
    Met place url handle (steps ++ [step]) := by
  obtain ⟨before, first, rest, rfl, hf, hrest⟩ := h
  refine ⟨before, first, rest ++ [step], by simp, hf, fun more hm => ?_⟩
  rcases List.prefix_concat_iff.1 hm with rfl | hm
  · simpa using And.intro ht hb
  · exact hrest more hm

/-- Under a rule that leaves the names of tracked nodes to the work on nodes, whatever URL a runtime
tracks is bound, to the runtime itself or as its creation met it. -/
theorem bound_of_tracks (h : Obeys (Sheltered place) {} steps)
    (ht : (({} : Fleet).after steps).Tracks place url) :
    ∃ handle, (({} : Fleet).after steps).world.naming.bindings[url]? = some handle ∧
      ((∃ own, (({} : Fleet).after steps).url? place = some own ∧ handle = ⟨place, own⟩) ∨
        Met place url handle steps) := by
  induction steps using List.reverseRecOn with
  | nil =>
    obtain ⟨runtime, hr, -⟩ := ht
    simp [after, World.runtime?] at hr
  | append_singleton steps step ih =>
    obtain ⟨hsteps, hstep, -⟩ := obeys_append.1 h
    have sound := sound_after steps
    have next : ({} : Fleet).after (steps ++ [step]) = (({} : Fleet).after steps).next step := by
      rw [after_append]
      rfl
    rw [next] at ht ⊢
    cases hstep.standing sound (each_after lasting_housed steps) ht with
    | @own runtime hr hb =>
      refine ⟨runtime.handle, hb, .inl ⟨runtime.url, ?_, ?_⟩⟩
      · rw [url?, hr]
        rfl
      · rw [Runtime.handle, (sound.next step).world place runtime hr]
    | kept hold hb =>
      obtain ⟨handle, hbound, hwhy⟩ := ih hsteps hold
      rw [hbound] at hb
      refine ⟨handle, hb, hwhy.imp ?_ fun met => ?_⟩
      -- A runtime keeps its URL, so that what was bound to it still is.
      · rintro ⟨own, ho, rfl⟩
        exact ⟨own, url?_next sound.world ho step, rfl⟩
      · rw [← next] at ht hb
        exact met.concat ht (Naming.resolve_eq_ok_iff.2 hb)
    | @found handle hf hb =>
      refine ⟨handle, hb, .inr ⟨steps, step, [], rfl, hf, fun more hm => ?_⟩⟩
      rw [List.prefix_nil.1 hm, next]
      exact ⟨ht, Naming.resolve_eq_ok_iff.2 hb⟩

/-- After every run over an honest naming facility in which only work on the nodes of a runtime
changes the bindings of the URLs that it tracks, each node that the runtime tracks is found under
its own URL, has the name of that URL, belongs to the runtime, and is bound: to the runtime, or as
its creation met it, which was not to replace the binding. -/
theorem bound_of_tracked (h : Obeys (Sheltered place) {} steps) {runtime : Runtime}
    (hr : (({} : Fleet).after steps).world.runtime? place = some runtime) {node : Node}
    (hn : runtime.nodes[url]? = some node) :
    node.url = url ∧ node.name = url.name ∧ node.owner = runtime.url ∧
      ∃ handle, (({} : Fleet).after steps).world.naming.resolve url = .ok handle ∧
        (handle = runtime.handle ∨ Met place url handle steps) := by
  obtain ⟨hname, howner⟩ := each_after lasting_nodesLabelled steps place runtime hr url node hn
  have hkey := each_after lasting_nodesKeyed steps place runtime hr url node hn
  refine ⟨hkey, hname, howner, ?_⟩
  have tracks : (({} : Fleet).after steps).Tracks place url :=
    ⟨runtime, hr, mem_iff_exists_getElem?.2 ⟨node, hn⟩⟩
  obtain ⟨handle, hb, hwhy⟩ := bound_of_tracks h tracks
  refine ⟨handle, Naming.resolve_eq_ok_iff.2 hb, hwhy.imp_left ?_⟩
  rintro ⟨own, ho, rfl⟩
  rw [url?, hr, Option.map_some, Option.some.injEq] at ho
  rw [Runtime.handle, (sound_after steps).world place runtime hr, ho]

/-- The first of two neighbours keeps a node of its own, which the naming facility fails to unbind,
and one whose URL its neighbour had bound. -/
def lodging : List Step :=
  .naming { fault := fun call _ => if call = .unbind then some World.unreachable else none } ::
    (neighbours ++ [.call 1 (.createLocalNode { name := "m" }), .call 1 (.killNode "m")])

/-- The URL is that of the neighbour. -/
theorem bound_of_tracked_lodging :
    ∃ runtime url node handle, (({} : Fleet).after lodging).world.runtime? 1 = some runtime ∧
      runtime.nodes[url]? = some node ∧ node.url = url ∧ handle ≠ runtime.handle ∧
      (({} : Fleet).after lodging).world.naming.resolve url = .ok handle ∧
      Met 1 url handle lodging := by
  have h : ((({} : Fleet).after lodging).world.runtime? 1).any fun runtime =>
      (runtime.nodeUrl "n").toOption.any fun url => runtime.nodes[url]?.any fun _ =>
        (({} : Fleet).after lodging).world.naming.bindings[url]? ≠ some runtime.handle := by
    decide +kernel
  obtain ⟨runtime, hr, h⟩ := (Option.any_eq_true _ _).1 h
  obtain ⟨url, -, h⟩ := (Option.any_eq_true _ _).1 h
  obtain ⟨node, hn, h⟩ := (Option.any_eq_true _ _).1 h
  have unshared : Obeys (Unshared 1) {} lodging := by decide +kernel
  have trusting : Obeys Trusting {} lodging := by
    refine ⟨trivial, obeys_trusting (fun call url earlier hc => ?_) (by simp [neighbours])⟩
    cases call <;>
      simp [next, outcome, Naming.failure?, World.unreachable, RuntimeError.isNameConflict] at hc
  obtain ⟨hu, -, -, handle, hb, hwhy⟩ := bound_of_tracked (trusting.and unshared) hr hn
  have foreign : handle ≠ runtime.handle := by
    rintro rfl
    rw [Naming.resolve_eq_ok_iff] at hb
    exact of_decide_eq_true h hb
  exact ⟨runtime, url, node, handle, hr, hn, hu, foreign, hb, hwhy.resolve_left foreign⟩

end Fleet

end ActiveObjects

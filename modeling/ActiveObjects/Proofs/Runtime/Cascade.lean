import ActiveObjects.Proofs.Naming.Teardown
import ActiveObjects.Proofs.Node.Clearance

/-!
# The stages of a shutdown

A shutdown goes through all of its stages, whatever those before reported. What is left is told by
the calls to unbind that fail. The last stage is about the URL of the runtime, which an earlier
stage may have called to be unbound already; that call and the last one may end differently.
-/

namespace ActiveObjects

open Site

namespace Runtime

/-- The URL of the runtime is still bound when the nodes and the groups are through: it was at
first, and all calls of theirs to unbind it failed. -/
def OwnLeft (runtime : Runtime) (naming : Naming) : Prop :=
  naming.contains runtime.url ∧ naming.Withstands (runtime.stageUrls naming) runtime.url

/-- The failure, if any, of the last stage's own call, which comes after those that the nodes and
the groups made at the URL of the runtime. -/
def ownFailure? (runtime : Runtime) (naming : Naming) : Option RuntimeError :=
  naming.failure? .unbind runtime.url ((runtime.stageUrls naming).count runtime.url)

/-- The failure, if any, of the call to unbind a URL that the sweep over the groups makes when it is
past some keys. The nodes, and the groups before, may have called for it too. -/
def turnFailure? (runtime : Runtime) (naming : Naming) (done : List String) (url : Url) :
    Option RuntimeError :=
  naming.failure? .unbind url <|
    (runtime.nodes.keys ++
      runtime.sweepUrls (naming.releaseAll runtime.nodes.keys) done).count url

/-- What a shutdown makes of a runtime and of the names, when no call to unbind fails because there
is no binding. The nodes that cannot be unbound stay, with the bodies on them, and so do the groups
that fail to be unregistered in each turn that addresses them. -/
structure Cascades (runtime : Runtime) (naming : Naming) (report : ShutdownReport)
    (runtime' : Runtime) (naming' : Naming) : Prop where
  state : runtime'.state = .stopped
  swept : report.nodes = Node.sweepReport naming runtime.nodes.keys
  nodes (url : Url) (node : Node) :
    runtime'.nodes[url]? = some node ↔
      runtime.nodes[url]? = some node ∧ naming.failure? .unbind url 0 ≠ none
  hosted (id : BodyId) (hosted : HostedBody) :
    runtime'.bodies.hosted? id = some hosted ↔
      runtime.bodies.hosted? id = some hosted ∧ naming.failure? .unbind hosted.nodeUrl 0 ≠ none
  attempted : report.virtualNodes.attempted = runtime.groups.size
  complete : report.virtualNodes.succeeded.length + report.virtualNodes.failures.length =
    report.virtualNodes.attempted
  groups (key : String) (group : VirtualNodeGroup) :
    runtime'.groups[key]? = some group ↔
      (∃ before, runtime.groups[key]? = some before ∧
        group = { before with members := before.members.filter fun url =>
          ¬ (url ∈ runtime.nodes ∧ naming.failure? .unbind url 0 = none) }) ∧
      ∀ (done : List String) (other : String), done ++ [other] <+: runtime.groups.keys →
        VirtualNode.key other = key → runtime.turnFailure? naming done group.url ≠ none
  own_failed (e : RuntimeError) : runtime.ownFailure? naming = some e →
    report.runtime = .error (Registry.wrapTransport e "cannot unbind in registry" runtime.url)
  own_unbound : runtime.ownFailure? naming = none → runtime.OwnLeft naming →
    report.runtime = .ok .unbound
  own_absent : runtime.ownFailure? naming = none → ¬ runtime.OwnLeft naming →
    report.runtime = .ok .wasAbsent
  own_bound : naming'.contains runtime.url ↔
    runtime.OwnLeft naming ∧ runtime.ownFailure? naming ≠ none
  names : naming' = naming.releaseAll (runtime.unbindings naming .kill)
  published : ∃ groups : List RuntimeEvent,
    (∀ event ∈ groups, event.topic = .virtualNodeUnregistered) ∧
    runtime'.events.published = runtime.events.published ++
      (runtime.nodes.keys.filter fun url => naming.failure? .unbind url 0 = none).map
        (.nodeKilled runtime.url) ++ groups ++
      if runtime.state = .stopped then [] else [.runtimeStopped runtime.url]
  kept : runtime'.handle = runtime.handle ∧ runtime'.directory = runtime.directory ∧
    ∀ id, runtime'.bodies.lastCheckpoint? id = runtime.bodies.lastCheckpoint? id

theorem turnFailure?_congr {runtime runtime' : Runtime} (h : SameGroups runtime runtime')
    (hu : runtime'.url = runtime.url) (hn : runtime'.nodes = runtime.nodes) (naming : Naming)
    (done : List String) (url : Url) :
    runtime'.turnFailure? naming done url = runtime.turnFailure? naming done url := by
  rw [turnFailure?, turnFailure?, hn, (h.turns hu _ _).2]

/-- How the last stage ends. -/
theorem releaseResult_own (runtime : Runtime) {naming : Naming} (hf : naming.Frank) :
    let last := naming.releaseAll (runtime.stageUrls naming)
    (last.contains runtime.url ↔ runtime.OwnLeft naming) ∧
      last.failure? .unbind runtime.url 0 = runtime.ownFailure? naming ∧
      (∀ e, runtime.ownFailure? naming = some e → last.releaseResult runtime.url =
        .error (Registry.wrapTransport e "cannot unbind in registry" runtime.url)) ∧
      (runtime.ownFailure? naming = none → last.releaseResult runtime.url =
        .ok (if last.contains runtime.url then .unbound else .wasAbsent)) := by
  have frank := hf.later (naming.later_releaseAll (runtime.stageUrls naming))
  have own : (naming.releaseAll (runtime.stageUrls naming)).failure? .unbind runtime.url 0 =
      runtime.ownFailure? naming := Naming.failure?_releaseAll ..
  refine ⟨Naming.contains_releaseAll_iff, own, fun e he => ?_, fun hn => ?_⟩
  · rw [(frank 0).releaseResult_eq, own, he]
  · rw [(frank 0).releaseResult_eq, own, hn]

section

variable {runtime runtime' : Runtime} {naming naming' : Naming} {report : SweepReport}

/-- The groups after the nodes are through. -/
theorem Cleared.groups_eq (h : runtime.Cleared naming report runtime' naming') :
    runtime'.groups = runtime.groups.map fun _ group =>
      { group with members := group.members.filter fun url =>
        ¬ (url ∈ runtime.nodes ∧ naming.failure? .unbind url 0 = none) } := by
  refine Std.ExtTreeMap.ext_getElem? fun key => ?_
  rw [Std.ExtTreeMap.getElem?_map]
  exact h.groups key

theorem Cleared.sameGroups (h : runtime.Cleared naming report runtime' naming') :
    SameGroups runtime runtime' := by
  intro key
  rw [h.groups_eq, Std.ExtTreeMap.getElem?_map, Option.map_map]
  rfl

/-- The groups when both sweeps are through. -/
theorem Cleared.groups_past {killed swept : Site} (hf : naming.Frank)
    (h : runtime.Cleared naming report killed.runtime killed.naming)
    (hn : killed.naming = naming.releaseAll runtime.nodes.keys)
    (hp : VirtualNode.Past killed killed.runtime.groups.keys swept) (key : String)
    (group : VirtualNodeGroup) :
    swept.runtime.groups[key]? = some group ↔
      (∃ before, runtime.groups[key]? = some before ∧
        group = { before with members := before.members.filter fun url =>
          ¬ (url ∈ runtime.nodes ∧ naming.failure? .unbind url 0 = none) }) ∧
      ∀ (done : List String) (other : String), done ++ [other] <+: runtime.groups.keys →
        VirtualNode.key other = key → runtime.turnFailure? naming done group.url ≠ none := by
  have url : killed.runtime.url = runtime.url := by rw [h.rest]
  -- In each turn, the calls before are those of the nodes and of the turns before.
  have able (done : List String) :
      (killed.naming.releaseAll (killed.runtime.sweepUrls killed.naming done)).LetsGo group.url ↔
        runtime.turnFailure? naming done group.url = none := by
    rw [(h.sameGroups.turns url _ done).2, hn, ← Naming.releaseAll_append,
      (hf.later (Naming.later_releaseAll ..) 0).letsGo_iff, Naming.failure?_releaseAll]
    rfl
  rw [hp.groups, getElem?_turns, h.sameGroups.keys_eq]
  refine and_congr ?_ ?_
  · rw [h.groups_eq, Std.ExtTreeMap.getElem?_map, Option.map_eq_some_iff]
    exact exists_congr fun before => and_congr_right fun _ => eq_comm
  · simp only [able, ne_eq]

end

theorem beginShutdown_state_eq_stopped_iff {runtime : Runtime} :
    runtime.beginShutdown.state = .stopped ↔ runtime.state = .stopped := by
  rw [beginShutdown]
  split <;> simp_all

theorem halt_published (runtime : Runtime) :
    runtime.halt.events.published = runtime.events.published ++
      if runtime.state = .stopped then [] else [.runtimeStopped runtime.url] := by
  rw [halt]
  split
  · exact (List.append_nil _).symm
  · rfl

/-- The first two stages. -/
theorem stages_touch (begun : Site) :
    Touches [.naming, .log, .nodes, .groups, .bodies, .events] begun
      (VirtualNode.unregisterAll.run (Node.killAll.run begun).2).2 :=
  trans_of (Touches _) (Node.killAll_touches begun)
    ((VirtualNode.unregisterAll_touches _).mono (by decide))

/-- A shutdown goes for the nodes that there are, whatever the naming facility does. -/
theorem kill_swept (site : Site) :
    (kill.run site).1.nodes = Node.sweepReport site.naming site.runtime.nodes.keys := by
  obtain ⟨begun, killed, swept, last, nodes, groups, own, hnaming, hruntime, hn, -, -, hreport,
    -⟩ := run_kill_stages site
  have first := (Node.run_killAll begun).1
  rw [hn, hnaming, hruntime, beginShutdown_eq] at first
  rw [hreport]
  exact first

theorem kill_cascades (site : Site) (hf : site.naming.Frank) (hh : site.runtime.Housed) :
    site.runtime.Cascades site.naming (kill.run site).1 (kill.run site).2.runtime
      (kill.run site).2.naming := by
  obtain ⟨begun, killed, swept, last, nodes, groups, own, hnaming, hruntime, hn, hg, ho, hreport,
    -, hruntime'⟩ := run_kill_stages site
  have final := kill_names site
  have all : Touches _ site (kill.run site).2 := kill_touches site
  have stages := stages_touch begun
  rw [beginShutdown_eq] at hruntime
  have ownUrl : begun.runtime.url = site.runtime.url := by rw [hruntime]
  have ownNodes : begun.runtime.nodes = site.runtime.nodes := by rw [hruntime]
  have ownGroups : SameGroups site.runtime begun.runtime := fun key => by rw [hruntime]
  -- The nodes.
  have first := Node.killAll_cleared begun (by rw [hnaming]; exact hf 0)
    (by rw [hruntime]; exact hh.bodies.keyed)
  obtain ⟨url, names⟩ := swept_names begun
  have past := first.groups_past (by rwa [hnaming]) (Node.killAll_kills begun).names
    (VirtualNode.unregisterAll_past _)
  simp only [turnFailure?_congr ownGroups ownUrl ownNodes] at past
  rw [hn, hruntime, hnaming] at first
  rw [hn, hg] at stages
  rw [hn, hg, ownUrl] at url
  rw [hn, hg, stageUrls_congr ownGroups ownUrl ownNodes, hnaming] at names
  rw [hn, hg, hruntime, hnaming] at past
  have size : killed.runtime.groups.size = site.runtime.groups.size := by
    rw [first.groups_eq, Std.ExtTreeMap.size_map]
  have killings : killed.runtime.events.published = _ := first.published
  -- The groups.
  obtain ⟨attempted, complete⟩ := VirtualNode.unregisterAll_attempted killed
  have touched := VirtualNode.unregisterAll_touches killed
  have told := VirtualNode.unregisterAll_announces killed
  rw [hg] at attempted complete touched told
  have url : swept.runtime.url = site.runtime.url := url
  have names : swept.naming = site.naming.releaseAll (site.runtime.stageUrls site.naming) := names
  have state : swept.runtime.state = .stopped ↔ site.runtime.state = .stopped := by
    rw [show swept.runtime.state = begun.runtime.state from stages .state (by decide), hruntime]
    exact beginShutdown_state_eq_stopped_iff
  -- The runtime itself.
  obtain ⟨hown, -, hlast⟩ := Registry.run_unregister ho
  have ending := site.runtime.releaseResult_own hf
  rw [← names] at ending
  obtain ⟨left, next, failed, ended⟩ := ending
  rw [url] at hown
  rw [hlast] at hruntime'
  have settled : (kill.run site).2.runtime.nodes = killed.runtime.nodes ∧
      (kill.run site).2.runtime.bodies = killed.runtime.bodies := by
    rw [hruntime']
    exact ⟨touched .nodes (by decide), touched.bodies_eq (by decide)⟩
  rw [hreport]
  constructor
  case state =>
    rw [hruntime']
    rfl
  case swept =>
    rw [← hreport]
    exact kill_swept site
  case nodes =>
    rw [settled.1]
    exact first.nodes
  case hosted =>
    intro id hosted
    rw [settled.2, first.hosted]
    refine and_congr_right fun hi => not_congr (and_iff_right ?_)
    exact hh.bodies.mem hi
  case attempted => exact attempted.trans size
  case complete => exact complete.trans attempted.symm
  case groups =>
    rw [hruntime']
    exact past
  case own_failed => exact fun e he => hown.trans (failed e he)
  case own_unbound =>
    intro hn hl
    rw [hown, ended hn, if_pos (left.2 hl)]
  case own_absent =>
    intro hn hl
    rw [hown, ended hn, if_neg fun hc => hl (left.1 hc)]
  case own_bound =>
    rw [final, unbindings, Naming.releaseAll_append, ← names, Naming.contains_releaseAll_iff, left,
      Naming.withstands_iff_of_nodup (List.nodup_singleton _), next]
    simp
  case names => exact final
  case published =>
    obtain ⟨unregistered, hu, hk⟩ := told
    have unregistrations : swept.runtime.events.published = _ := hu
    refine ⟨unregistered, fun event he => List.mem_singleton.1 (hk event he), ?_⟩
    rw [hruntime', halt_published, unregistrations, killings, url]
    simp only [state]
  case kept =>
    exact ⟨(all .identity (by decide)).handle_eq, all .directory (by decide),
      (kill_evicts site).lastCheckpoint?⟩

/-! ## Announced once -/

/-- The announcements that a runtime is stopped. -/
def stops (runtime : Runtime) : List RuntimeEvent :=
  runtime.events.published.filter (·.topic = .runtimeStopped)

/-- The runtime runs and was never announced as stopped, or it is stopped and was announced once. -/
def StopsOnce (runtime : Runtime) : Prop :=
  runtime.state = .running ∧ runtime.stops = [] ∨
    runtime.state = .stopped ∧ runtime.stops = [.runtimeStopped runtime.url]

end Runtime

section

variable {s s' : Site} {topics : List EventTopic}

theorem Announces.stops_eq (h : Announces topics s s') (hk : .runtimeStopped ∉ topics) :
    s'.runtime.stops = s.runtime.stops := by
  obtain ⟨later, hl, hlater⟩ := h
  rw [Runtime.stops, Runtime.stops, hl, List.filter_append, List.append_right_eq_self,
    List.filter_eq_nil_iff]
  intro event he hs
  exact hk (of_decide_eq_true hs ▸ hlater event he)

theorem Announces.stopsOnce {parts : List Part} (h : Announces topics s s')
    (hk : .runtimeStopped ∉ topics) (ht : Touches parts s s')
    (hp : .identity ∉ parts ∧ .state ∉ parts) : Preserves Runtime.StopsOnce s s' := by
  have state : s'.runtime.state = s.runtime.state := ht .state hp.2
  rw [Preserves, Runtime.StopsOnce, Runtime.StopsOnce, state, h.stops_eq hk,
    (ht .identity hp.1).2.2.1]
  exact fun hs => hs

end

/-- Only the first shutdown announces the runtime as stopped. -/
theorem Runtime.kill_stops (site : Site) :
    (kill.run site).2.runtime.state = .stopped ∧
      (kill.run site).2.runtime.stops = site.runtime.stops ++
        if site.runtime.state = .stopped then [] else [.runtimeStopped site.runtime.url] := by
  obtain ⟨begun, killed, swept, last, nodes, groups, own, -, hruntime, hn, hg, ho, -, -,
    hruntime'⟩ := run_kill_stages site
  have first := Node.killAll_announces begun
  have second := VirtualNode.unregisterAll_announces killed
  have stages := stages_touch begun
  rw [hn] at first
  rw [hg] at second
  rw [hn, hg] at stages
  have url : swept.runtime.url = site.runtime.url := by
    rw [(stages .identity (by decide)).2.2.1, hruntime, beginShutdown_eq]
  have state : swept.runtime.state = .stopped ↔ site.runtime.state = .stopped := by
    rw [show swept.runtime.state = begun.runtime.state from stages .state (by decide), hruntime]
    exact beginShutdown_state_eq_stopped_iff
  have quiet : Announces [] site begun := beginShutdown_announces hruntime
  have before : swept.runtime.stops = site.runtime.stops := by
    rw [second.stops_eq (by decide), first.stops_eq (by decide), quiet.stops_eq (by simp)]
  rw [hruntime', (Registry.run_unregister ho).2.2]
  refine ⟨rfl, ?_⟩
  rw [stops, halt_published, List.filter_append, ← stops, before]
  simp only [state, url]
  split <;> rfl

theorem Runtime.kill_stopsOnce : Moves (Preserves StopsOnce) kill := by
  intro site hs
  obtain ⟨state, stops⟩ := kill_stops site
  have url : (kill.run site).2.runtime.url = site.runtime.url :=
    (kill_touches site .identity (by decide)).2.2.1
  refine .inr ⟨state, ?_⟩
  rw [stops, url]
  rcases hs with ⟨running, none⟩ | ⟨stopped, once⟩
  · simp [running, none]
  · simp [stopped, once]

theorem lasting_stopsOnce : Lasting Runtime.StopsOnce where
  start h := by
    obtain ⟨-, -, -, -, state, published, -⟩ := Runtime.ofRequest_fresh h
    exact .inl ⟨state, by rw [Runtime.stops, published]; rfl⟩
  boot config site := (Runtime.boot_announces config site).stopsOnce (by decide)
    (Runtime.boot_touches config site) (by decide)
  call constructors call := by
    cases call with
    | kill => exact .attempt_discard (.attempt_lift Runtime.kill_stopsOnce)
    | _ =>
      refine fun site => (Call.action_announces constructors _ site).stopsOnce ?_
        (Call.action_touches constructors _ site) ⟨Call.identity_notMem_footprint _, ?_⟩ <;>
        simp [Call.topics, Call.footprint]
  beginMigration id site := by
    have touched := Runtime.beginMigration_touches id site
    have quiet : Announces [] site _ := touched.announces (by decide)
    exact quiet.stopsOnce (by simp) touched (by decide)
  receiveBody node body site :=
    (Runtime.receiveBody_announces node body site).stopsOnce (by decide)
      (Runtime.receiveBody_touches node body site) (by decide)
  endMigration id left target answer site :=
    (Runtime.endMigration_announces id left target answer site).stopsOnce (by decide)
      (Runtime.endMigration_touches id left target answer site) (by decide)

end ActiveObjects

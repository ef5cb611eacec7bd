import ActiveObjects.Proofs.Event.Announcements
import ActiveObjects.Proofs.Node.Sweep
import ActiveObjects.Proofs.Runtime.Residence
import ActiveObjects.Proofs.VirtualNode.Sweep

/-!
# The sweep over all nodes

The sweep loses the nodes one by one, in the order of their URLs, those apart that the naming
facility fails to unbind. What one node takes with it does not depend on the others, so the whole
effect is read off the nodes that go.
-/

namespace ActiveObjects

open Site

/-! ## Names -/

namespace Naming

variable {naming : Naming} {url : Url} {urls : List Url}

/-- Calls to unbind that come after so many others never fail by saying that there is no binding. -/
def FrankAfter (naming : Naming) (earlier : Nat) : Prop :=
  ∀ url, ¬ (naming.failure? .unbind url earlier).any (·.isNotBound)

/-- No call to unbind fails by saying that there is no binding. -/
def Frank (naming : Naming) : Prop := ∀ earlier, naming.FrankAfter earlier

theorem Frank.later {naming' : Naming} (h : naming.Frank) (hl : Later naming naming') :
    naming'.Frank := by
  obtain ⟨made, hl⟩ := hl
  intro earlier url
  rw [hl]
  exact h _ url

theorem FrankAfter.letsGo_iff (h : naming.FrankAfter 0) (url : Url) :
    naming.LetsGo url ↔ naming.failure? .unbind url 0 = none := by
  have hf := h url
  rw [LetsGo]
  cases he : naming.failure? .unbind url 0 with
  | none => simp
  | some e => simpa [he] using hf

theorem FrankAfter.releaseResult_eq (h : naming.FrankAfter 0) (url : Url) :
    naming.releaseResult url = match naming.failure? .unbind url 0 with
      | some e => .error (Registry.wrapTransport e "cannot unbind in registry" url)
      | none => .ok (if naming.contains url then .unbound else .wasAbsent) := by
  have hf := h url
  rw [releaseResult]
  cases he : naming.failure? .unbind url 0 with
  | none => rfl
  | some e =>
    rw [he, Option.any_some] at hf
    exact if_neg hf

/-- Unregistrations of other URLs do not show in the result. -/
theorem releaseResult_releaseAll (hu : url ∉ urls) :
    (naming.releaseAll urls).releaseResult url = naming.releaseResult url := by
  have none : urls.count url = 0 := List.count_eq_zero_of_not_mem hu
  have same : (naming.releaseAll urls).contains url = naming.contains url := by
    refine Bool.eq_iff_iff.2 (contains_releaseAll_iff.trans (and_iff_left fun earlier he => ?_))
    rw [none] at he
    exact absurd he (Nat.not_lt_zero _)
  rw [releaseResult, releaseResult, failure?_releaseAll, none, same]
  rfl

end Naming

/-- Lines of the log do not show elsewhere. -/
theorem Touches.same_of_log {s s' : Site} (h : Touches [.log] s s') :
    s'.naming = s.naming ∧ s'.runtime = s.runtime :=
  ⟨h .naming (by decide), (h.mono (by decide)).runtime_eq⟩

/-! ## What goes with a node -/

namespace Runtime

variable {runtime : Runtime}

/-- The runtime without a node that is torn down. The node leaves its groups, the bodies on it go,
and it is announced as killed. -/
def lose (runtime : Runtime) (url : Url) : Runtime :=
  { runtime with
    nodes := runtime.nodes.erase url
    groups := runtime.groups.detach url
    bodies := runtime.bodies.evict url
    events := runtime.events.publish (.nodeKilled runtime.url url) }

theorem nodes_foldl_lose (gone : List Url) {url : Url} {node : Node} :
    (gone.foldl lose runtime).nodes[url]? = some node ↔
      runtime.nodes[url]? = some node ∧ url ∉ gone := by
  induction gone generalizing runtime with
  | nil => simp
  | cons first gone ih =>
    rw [List.foldl_cons, ih, lose, Std.ExtTreeMap.getElem?_erase]
    by_cases hu : first = url
    · simp [hu]
    · simp [hu, Ne.symm hu]

theorem groups_foldl_lose (gone : List Url) (key : String) :
    (gone.foldl lose runtime).groups[key]? = runtime.groups[key]?.map fun group =>
      { group with members := group.members.filter (· ∉ gone) } := by
  induction gone generalizing runtime with
  | nil => simp
  | cons first gone ih =>
    rw [List.foldl_cons, ih, lose, GroupTable.getElem?_detach, Option.map_map]
    congr 1
    funext group
    simp [VirtualNodeGroup.leave, List.filter_filter, Bool.and_comm]

theorem hosted?_foldl_lose (hk : runtime.bodies.Keyed) (gone : List Url) {id : BodyId}
    {hosted : HostedBody} :
    (gone.foldl lose runtime).bodies.hosted? id = some hosted ↔
      runtime.bodies.hosted? id = some hosted ∧ hosted.nodeUrl ∉ gone := by
  induction gone generalizing runtime with
  | nil => simp
  | cons first gone ih =>
    have evicted : (runtime.lose first).bodies.Keyed := hk.sheds (runtime.bodies.evict_sheds first)
    rw [List.foldl_cons, ih evicted, lose, hk.hosted?_evict_iff, List.mem_cons, not_or, and_assoc]

/-- Apart from the three tables and the announcements all is as it was. -/
theorem foldl_lose_eq (runtime : Runtime) (gone : List Url) :
    gone.foldl lose runtime =
      { runtime with
        nodes := (gone.foldl lose runtime).nodes
        groups := (gone.foldl lose runtime).groups
        bodies :=
          { runtime.bodies with bodies := (gone.foldl lose runtime).bodies.bodies }
        events :=
          { runtime.events with
            published := runtime.events.published ++ gone.map (.nodeKilled runtime.url) } } := by
  induction gone generalizing runtime with
  | nil => simp
  | cons first gone ih =>
    rw [List.foldl_cons, ih]
    simp [lose, EventBus.publish, BodyTable.evict]

end Runtime

namespace Node

theorem run_tearDown (url : Url) (site : Site) :
    ((tearDown url).run site).2.naming = site.naming ∧
      ((tearDown url).run site).2.runtime = site.runtime.lose url := by
  let unlisted : Site :=
    { site with
      runtime :=
        { site.runtime with
          nodes := site.runtime.nodes.erase url
          groups := site.runtime.groups.detach url } }
  have evicted : Touches [.log]
      { unlisted with
        runtime := { unlisted.runtime with bodies := site.runtime.bodies.evict url } }
      ((BodyTable.evictFrom url).run unlisted).2 :=
    Moves.ite (.bind (logLine_touches (by decide) _ _) fun _ => .pure _) (.pure _) _
  obtain ⟨naming, runtime⟩ := evicted.same_of_log
  generalize hm : ((BodyTable.evictFrom url).run unlisted).2 = middle at naming runtime
  have told := run_publish (.nodeKilled middle.runtime.url url)
    { middle with log := ⟨.info, "Node killed"⟩ :: middle.log }
  have last : ((tearDown url).run site).2 = ((publish (.nodeKilled middle.runtime.url url)).run
      { middle with log := ⟨.info, "Node killed"⟩ :: middle.log }).2 := by
    rw [← hm]
    rfl
  rw [last, told.1, told.2, runtime]
  exact ⟨naming, rfl⟩

/-! ## The nodes in turn -/

/-- The report on the nodes at some URLs. -/
def sweepReport (naming : Naming) (urls : List Url) : SweepReport :=
  urls.foldl (fun report url => report.note url.display url (naming.releaseResult url)) {}

theorem run_sweepOne {site : Site} {url : Url} (ht : url ∈ site.runtime.nodes)
    (report : SweepReport) :
    ((sweepOne report url).run site).1 =
        report.note url.display url (site.naming.releaseResult url) ∧
      ((sweepOne report url).run site).2.naming = site.naming.release url ∧
      ((sweepOne report url).run site).2.runtime =
        if site.naming.LetsGo url then site.runtime.lose url else site.runtime := by
  obtain ⟨node, hf⟩ := mem_iff_exists_getElem?.1 ht
  rw [sweepOne, run_get_bind, hf]
  dsimp only
  rcases hr : (attempt (Registry.unregister url)).run site with ⟨result, middle⟩
  obtain ⟨hresult, hn, hs⟩ := Registry.run_unregister hr
  rw [StateT.run_bind, hr]
  rcases result with e | outcome
  · have hl : ¬ site.naming.LetsGo url := by
      rw [Naming.letsGo_iff, ← hresult]
      rintro ⟨outcome, ho⟩
      cases ho
    rw [if_neg hl, ← hresult]
    exact ⟨rfl, hn, hs⟩
  · have hl : site.naming.LetsGo url := Naming.letsGo_iff.2 ⟨outcome, hresult.symm⟩
    rw [if_pos hl, ← hresult, ← hn, ← hs]
    cases outcome with
    | unbound => exact ⟨rfl, run_tearDown url middle⟩
    | wasAbsent =>
      -- The warning comes first.
      exact ⟨rfl, run_tearDown url
        { middle with log := ⟨.warn, "Tracked node was not bound"⟩ :: middle.log }⟩

/-- Where a sweep has got to when it is past some URLs. -/
structure Past (site : Site) (done : List Url) (report : SweepReport) (last : Site) : Prop where
  report : report = sweepReport site.naming done
  naming : last.naming = site.naming.releaseAll done
  runtime : last.runtime =
    (done.filter (site.naming.LetsGo ·)).foldl Runtime.lose site.runtime

theorem past_keys (site : Site) :
    Past site site.runtime.nodes.keys
      ((site.runtime.nodes.keys.foldlM sweepOne {}).run site).1
      ((site.runtime.nodes.keys.foldlM sweepOne {}).run site).2 := by
  refine run_foldlM_induction (P := Past site) ⟨rfl, rfl, rfl⟩ ?_
  rintro done url rest report middle hd ⟨rfl, hn, hs⟩
  have fresh : url ∉ done := by
    have distinct := Std.ExtTreeMap.distinct_keys (t := site.runtime.nodes)
    rw [hd, List.pairwise_append] at distinct
    intro hm
    exact distinct.2.2 url hm url (List.mem_cons_self ..) Std.compare_self
  have tracked : url ∈ middle.runtime.nodes := by
    have ht : url ∈ site.runtime.nodes := Std.ExtTreeMap.mem_keys.1 (by simp [hd])
    obtain ⟨node, hf⟩ := mem_iff_exists_getElem?.1 ht
    rw [mem_iff_exists_getElem?, hs]
    exact ⟨node, (Runtime.nodes_foldl_lose _).2
      ⟨hf, fun hm => fresh (List.mem_of_mem_filter hm)⟩⟩
  obtain ⟨hreport, hnaming, hruntime⟩ := run_sweepOne tracked (sweepReport site.naming done)
  refine ⟨?_, ?_, ?_⟩
  · rw [hreport, hn, Naming.releaseResult_releaseAll fresh, sweepReport, sweepReport,
      List.foldl_concat]
  · rw [hnaming, hn, Naming.releaseAll_append, Naming.releaseAll_singleton]
  · rw [hruntime, hs, hn, List.filter_append, List.foldl_append]
    by_cases hl : site.naming.LetsGo url
    · rw [if_pos ((Naming.letsGo_releaseAll fresh).2 hl),
        List.filter_cons_of_pos (by simpa using hl)]
      rfl
    · rw [if_neg fun h => hl ((Naming.letsGo_releaseAll fresh).1 h),
        List.filter_cons_of_neg (by simpa using hl)]
      rfl

/-- The whole sweep. -/
theorem run_killAll (site : Site) :
    Past site site.runtime.nodes.keys (killAll.run site).1 (killAll.run site).2 := by
  have swept := past_keys site
  rw [killAll, run_get_bind, run_work_bind]
  generalize (site.runtime.nodes.keys.foldlM sweepOne {}).run site = last at swept ⊢
  obtain ⟨report, last⟩ := last
  dsimp only at swept ⊢
  split
  · exact ⟨swept.report, swept.naming, swept.runtime⟩
  · exact swept

/-! ## The report -/

section

variable {naming : Naming}

theorem sweepReport_concat (naming : Naming) (urls : List Url) (url : Url) :
    sweepReport naming (urls ++ [url]) =
      (sweepReport naming urls).note url.display url (naming.releaseResult url) :=
  List.foldl_concat ..

/-- Every node has its entry. -/
theorem attempted_sweepReport (naming : Naming) (urls : List Url) :
    (sweepReport naming urls).attempted = urls.length ∧
      (sweepReport naming urls).succeeded.length + (sweepReport naming urls).failures.length =
        urls.length := by
  induction urls using List.reverseRecOn with
  | nil => exact ⟨rfl, rfl⟩
  | append_singleton urls url ih =>
    obtain ⟨attempted, complete⟩ := ih
    obtain ⟨ha, hc⟩ := (sweepReport naming urls).attempted_note url.display url
      (naming.releaseResult url)
    rw [sweepReport_concat, ha, hc, attempted, complete]
    simp

/-- What is reported of a node tells how the naming facility answered. -/
theorem entries_sweepReport (h : naming.FrankAfter 0) (urls : List Url) :
    (sweepReport naming urls).succeeded =
        (urls.filter fun url => naming.failure? .unbind url 0 = none ∧ naming.contains url).map
          Url.display ∧
      (sweepReport naming urls).failures.filter (·.cause.isNotBound) =
        (urls.filter fun url => naming.failure? .unbind url 0 = none ∧ ¬ naming.contains url).map
          (fun url => ⟨url.display, .notBound url.display⟩) ∧
      (sweepReport naming urls).failures.filter (·.cause.isTransportFailure) =
        urls.filterMap fun url => (naming.failure? .unbind url 0).map fun e =>
          ⟨url.display, Registry.wrapTransport e "cannot unbind in registry" url⟩ := by
  induction urls using List.reverseRecOn with
  | nil => exact ⟨rfl, rfl, rfl⟩
  | append_singleton urls url ih =>
    obtain ⟨succeeded, absent, failed⟩ := ih
    rw [sweepReport_concat, h.releaseResult_eq]
    cases hf : naming.failure? .unbind url 0 with
    | some e =>
      obtain ⟨ht, hn⟩ := Registry.wrapTransport_kind e "cannot unbind in registry" url
      simp [SweepReport.note, SweepReport.recordFailure, hf, ht, hn, succeeded, absent, failed]
    | none =>
      by_cases hb : naming.contains url
      · simp [SweepReport.note, SweepReport.recordSuccess, hf, hb, succeeded, absent, failed]
      · have ha : (RuntimeError.notBound url.display).isNotBound = true := rfl
        have ht : (RuntimeError.notBound url.display).isTransportFailure = false := rfl
        simp [SweepReport.note, SweepReport.recordFailure, hf, hb, ha, ht, succeeded, absent,
          failed]

end

end Node

/-- What the sweep over all nodes makes of a runtime and of the names, when no call to unbind fails
because there is no binding. Of the tracked nodes, taken in the order of their URLs, a node is a
success if its URL is bound and unbinding it does not fail, is not bound if it is not, and is a
failure of transport if unbinding fails; these nodes stay, with their memberships and bodies. -/
structure Runtime.Cleared (runtime : Runtime) (naming : Naming) (report : SweepReport)
    (runtime' : Runtime) (naming' : Naming) : Prop where
  attempted : report.attempted = runtime.nodes.size
  complete : report.succeeded.length + report.failures.length = report.attempted
  order : report = runtime.nodes.keys.foldl
    (fun report url => report.note url.display url (naming.releaseResult url)) {}
  succeeded : report.succeeded =
    (runtime.nodes.keys.filter fun url => naming.failure? .unbind url 0 = none ∧
      naming.contains url).map Url.display
  absent : report.failures.filter (·.cause.isNotBound) =
    (runtime.nodes.keys.filter fun url => naming.failure? .unbind url 0 = none ∧
      ¬ naming.contains url).map fun url => ⟨url.display, .notBound url.display⟩
  failed : report.failures.filter (·.cause.isTransportFailure) =
    runtime.nodes.keys.filterMap fun url => (naming.failure? .unbind url 0).map fun e =>
      ⟨url.display, Registry.wrapTransport e "cannot unbind in registry" url⟩
  failure? (call : NamingCall) (url : Url) (earlier : Nat) :
    naming'.failure? call url earlier = naming.failure? call url
      (if call = .unbind ∧ url ∈ runtime.nodes then earlier + 1 else earlier)
  bound_iff (url : Url) (handle : RuntimeHandle) :
    naming'.bindings[url]? = some handle ↔
      naming.bindings[url]? = some handle ∧
        ¬ (url ∈ runtime.nodes ∧ naming.failure? .unbind url 0 = none)
  nodes (url : Url) (node : Node) :
    runtime'.nodes[url]? = some node ↔
      runtime.nodes[url]? = some node ∧ naming.failure? .unbind url 0 ≠ none
  groups (key : String) :
    runtime'.groups[key]? = runtime.groups[key]?.map fun group =>
      { group with members := group.members.filter fun url =>
          ¬ (url ∈ runtime.nodes ∧ naming.failure? .unbind url 0 = none) }
  hosted (id : BodyId) (hosted : HostedBody) :
    runtime'.bodies.hosted? id = some hosted ↔
      runtime.bodies.hosted? id = some hosted ∧
        ¬ (hosted.nodeUrl ∈ runtime.nodes ∧ naming.failure? .unbind hosted.nodeUrl 0 = none)
  published : runtime'.events.published = runtime.events.published ++
    (runtime.nodes.keys.filter fun url => naming.failure? .unbind url 0 = none).map
      (.nodeKilled runtime.url)
  rest : runtime' =
    { runtime with
      nodes := runtime'.nodes
      groups := runtime'.groups
      bodies := { runtime.bodies with bodies := runtime'.bodies.bodies }
      events := { runtime.events with published := runtime'.events.published } }

theorem Node.killAll_cleared (site : Site) (hf : site.naming.FrankAfter 0)
    (hk : site.runtime.bodies.Keyed) :
    site.runtime.Cleared site.naming (killAll.run site).1 (killAll.run site).2.runtime
      (killAll.run site).2.naming := by
  obtain ⟨hreport, hnaming, hruntime⟩ := run_killAll site
  have distinct := Std.ExtTreeMap.nodup_keys (t := site.runtime.nodes)
  obtain ⟨attempted, complete⟩ := attempted_sweepReport site.naming site.runtime.nodes.keys
  obtain ⟨succeeded, absent, failed⟩ := entries_sweepReport hf site.runtime.nodes.keys
  have gone (url : Url) : url ∈ site.runtime.nodes.keys.filter (site.naming.LetsGo ·) ↔
      url ∈ site.runtime.nodes ∧ site.naming.failure? .unbind url 0 = none := by
    simp [hf.letsGo_iff]
  have kept := site.runtime.foldl_lose_eq
    (site.runtime.nodes.keys.filter (site.naming.LetsGo ·))
  rw [← hruntime] at kept
  rw [hreport, hnaming]
  constructor
  · exact attempted.trans Std.ExtTreeMap.length_keys
  · rw [complete, attempted]
  · rfl
  · exact succeeded
  · exact absent
  · exact failed
  · intro call url earlier
    rw [Naming.failure?_releaseAll]
    by_cases hu : url ∈ site.runtime.nodes
    · rw [List.count_eq_one_of_mem distinct (Std.ExtTreeMap.mem_keys.2 hu), Nat.add_comm]
      simp [hu]
    · have hk : url ∉ site.runtime.nodes.keys := fun hm => hu (Std.ExtTreeMap.mem_keys.1 hm)
      rw [List.count_eq_zero_of_not_mem hk]
      simp [hu]
  · intro url handle
    rw [Naming.bound_releaseAll_iff, Naming.withstands_iff_of_nodup distinct,
      Std.ExtTreeMap.mem_keys]
  · intro url node
    rw [hruntime, Runtime.nodes_foldl_lose, gone]
    refine and_congr_right fun hn => not_congr (and_iff_right ?_)
    exact mem_iff_exists_getElem?.2 ⟨node, hn⟩
  · intro key
    rw [hruntime, Runtime.groups_foldl_lose]
    simp only [gone]
  · intro id hosted
    rw [hruntime, Runtime.hosted?_foldl_lose hk, gone]
  · rw [kept]
    simp only [hf.letsGo_iff]
  · rw [kept]

namespace Fleet

variable {fleet : Fleet} {place : RuntimeId} {runtime : Runtime}

/-- Work that always ends with a result does the same in a step that calls for it. -/
theorem perform_call {α : Type} (work : Work α) (call : Call)
    (hc : ∀ constructors, call.action constructors = (do let _ ← (liftM work : Action α)))
    (hr : fleet.world.runtime? place = some runtime) :
    fleet.world.perform place work =
        some ((work.run (fleet.world.site runtime)).1,
          fleet.world.absorb (work.run (fleet.world.site runtime)).2) ∧
      (fleet.next (.call place call)).world =
        fleet.world.absorb (work.run (fleet.world.site runtime)).2 := by
  have hs : (attempt (call.action (fleet.world.constructors place))).run
      (fleet.world.site runtime) = (.ok (), (work.run (fleet.world.site runtime)).2) := by
    rw [hc]
    rfl
  exact ⟨by rw [World.perform, hr]; rfl, world_call hr hs⟩

/-- After every run, the sweep over the nodes of a runtime does what it should, over any naming
facility that never fails to unbind because there is no binding. Nothing changes elsewhere. -/
theorem cleared_by_sweep {steps : List Step}
    (hr : (({} : Fleet).after steps).world.runtime? place = some runtime)
    (hf : (({} : Fleet).after steps).world.naming.FrankAfter 0) :
    ∃ report site,
      (({} : Fleet).after steps).world.perform place Node.killAll =
        some (report, (({} : Fleet).after steps).world.absorb site) ∧
      ((({} : Fleet).after steps).next (.call place .killAllNodes)).world =
        (({} : Fleet).after steps).world.absorb site ∧
      site.runtime.id = place ∧
      runtime.Cleared (({} : Fleet).after steps).world.naming report site.runtime site.naming := by
  have sound := sound_after steps
  generalize ({} : Fleet).after steps = fleet at hr hf sound ⊢
  have keyed : runtime.bodies.Keyed := World.bodies_eq hr ▸ sound.bodies place
  obtain ⟨performed, stepped⟩ := perform_call Node.killAll .killAllNodes (fun _ => rfl) hr
  have cleared := Node.killAll_cleared (fleet.world.site runtime) hf keyed
  refine ⟨_, _, performed, stepped, ?_, cleared⟩
  rw [cleared.rest]
  exact sound.world place runtime hr

/-- Three nodes. One of them is unbound by somebody else, and the next call to unbind another, which
has a body, fails. -/
def stuck : List Step :=
  let steps : List Step :=
    [.registries (.ofList [(0, constructors)]),
      .start
        { id := 1
          config :=
            { runtime := { name := "r", port := 1099 }
              nodes := [{ name := "a" }, { name := "b" }, { name := "c" }] }
          resolver := .literals },
      .call 1 (.createBody ⟨7⟩ "b" { className := "Empty" } true),
      .call 1 (.unregisterVirtualNode "c")]
  steps ++ [.naming
    { (({} : Fleet).after steps).world.naming with
      ahead := fun call url =>
        if call = .unbind ∧ url.name = "b" then [some (.config "down")] else []
      fault := fun _ _ => none }]

theorem frank_stuck : (({} : Fleet).after stuck).world.naming.FrankAfter 0 := by
  intro url
  rw [stuck, after_append]
  simp only [after, List.foldl_cons, List.foldl_nil, next, outcome, Naming.failure?]
  by_cases hb : url.name = "b" <;> simp [hb, RuntimeError.isNotBound]

/-- One node of each kind. The one that cannot be unbound keeps its body. -/
theorem cleared_by_sweep_stuck :
    ∃ runtime report site, (({} : Fleet).after stuck).world.runtime? 1 = some runtime ∧
      (({} : Fleet).after stuck).world.perform 1 Node.killAll =
        some (report, (({} : Fleet).after stuck).world.absorb site) ∧
      runtime.Cleared (({} : Fleet).after stuck).world.naming report site.runtime site.naming ∧
      report.succeeded.length = 1 ∧ report.failures.length = 2 ∧
      site.runtime.nodes.names = ["b"] ∧ site.runtime.bodies.status? ⟨7⟩ = some .active := by
  have h : (({} : Fleet).after stuck).world.runtime? 1 |>.any fun runtime =>
      ((({} : Fleet).after stuck).world.perform 1 Node.killAll).any fun (report, world) =>
        (world.runtime? 1).any fun runtime' =>
          report.succeeded.length = 1 ∧ report.failures.length = 2 ∧
          runtime'.nodes.names = ["b"] ∧ runtime'.bodies.status? ⟨7⟩ = some .active := by
    decide +kernel
  obtain ⟨runtime, hr, h⟩ := (Option.any_eq_true _ _).1 h
  obtain ⟨⟨report, world⟩, hp, h⟩ := (Option.any_eq_true _ _).1 h
  obtain ⟨runtime', hr', h⟩ := (Option.any_eq_true _ _).1 h
  obtain ⟨succeeded, failures, nodes, bodies⟩ := of_decide_eq_true h
  obtain ⟨report', site, hp', -, hid, cleared⟩ := cleared_by_sweep hr frank_stuck
  cases Option.some.inj (hp.symm.trans hp')
  rw [World.runtime?_absorb, if_pos hid] at hr'
  cases hr'
  exact ⟨runtime, report, site, hr, hp, cleared, succeeded, failures, nodes, bodies⟩

end Fleet

end ActiveObjects

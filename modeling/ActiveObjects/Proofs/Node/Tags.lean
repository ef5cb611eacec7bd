import ActiveObjects.Proofs.Runtime.Decline
import ActiveObjects.Proofs.Runtime.Roster

/-!
# Which tag a node has

The tag of a node follows from the history of its runtime. It is the one that the last creation
asked for that put the node there, or else the default of that moment, or else the first default
that was set later. Nothing else bears on tags.
-/

namespace ActiveObjects

open Site

/-- What bears on the tags of a runtime. -/
inductive Tagging where
  /-- A creation puts a node at a URL, with the tag that it asks for. -/
  | installed (url : Url) (given : Option String)
  /-- A default is set. -/
  | defaulted (tag : String)

namespace Tagging

variable {log new : List Tagging} {url : Url} {tag : Option String}

def default? : Tagging → Option String
  | installed .. => none
  | defaulted tag => some tag

/-- The defaults that were set, in order. -/
def defaults (log : List Tagging) : List String := log.filterMap default?

@[simp] theorem defaults_append (log new : List Tagging) :
    defaults (log ++ new) = defaults log ++ defaults new := List.filterMap_append

/-- A history decides on the tag of the node at a URL. What counts is the last time that the node
was put there: the tag asked for, the default of the moment, and the first default after it, in this
order. -/
def Decides (log : List Tagging) (url : Url) (tag : Option String) : Prop :=
  ∃ earlier given later, log = earlier ++ .installed url given :: later ∧
    (∀ again, .installed url again ∉ later) ∧
    tag = (given.or (defaults earlier).getLast?).or (defaults later).head?

theorem decides_concat (log : List Tagging) (url : Url) (given : Option String) :
    Decides (log ++ [.installed url given]) url (given.or (defaults log).getLast?) :=
  ⟨log, given, [], rfl, by simp, Option.or_none.symm⟩

theorem Decides.append (h : Decides log url tag) (hn : ∀ given, .installed url given ∉ new) :
    Decides (log ++ new) url (tag.or (defaults new).head?) := by
  obtain ⟨earlier, given, later, rfl, hl, rfl⟩ := h
  refine ⟨earlier, given, later ++ new, by simp, fun again hm => ?_, ?_⟩
  · exact (List.mem_append.1 hm).elim (hl again) (hn again)
  · rw [defaults_append, List.head?_append, Option.or_assoc]

/-- A default reaches every node: those that come later, and those without a tag. -/
theorem Decides.isSome (h : Decides log url tag) (hd : defaults log ≠ []) : tag.isSome := by
  obtain ⟨earlier, given, later, rfl, -, rfl⟩ := h
  have split : defaults (earlier ++ .installed url given :: later) =
      defaults earlier ++ defaults later := defaults_append ..
  by_contra hn
  simp only [Bool.not_eq_true, Option.isSome_eq_false_iff, Option.isNone_iff_eq_none,
    Option.or_eq_none_iff, List.getLast?_eq_none_iff, List.head?_eq_none_iff] at hn
  exact hd (by rw [split, hn.1.2, hn.2, List.append_nil])

end Tagging

open Tagging

/-! ## From one state to another -/

/-- A runtime passes from one state to another, with the taggings on the way. -/
inductive Retags : List Tagging → Runtime → Runtime → Prop where
  /-- Nodes may go, and those that stay are as they were. -/
  | kept {runtime runtime' : Runtime} (default : runtime'.defaultTag = runtime.defaultTag)
    (nodes : ∀ (url : Url) (node : Node), runtime'.nodes[url]? = some node →
      runtime.nodes[url]? = some node) :
    Retags [] runtime runtime'
  | installed {runtime runtime' : Runtime} {url : Url} {given : Option String} {node : Node}
    (default : runtime'.defaultTag = runtime.defaultTag)
    (nodes : runtime'.nodes = runtime.nodes.insert url node)
    (tag : node.virtualNode = given.or runtime.defaultTag) :
    Retags [.installed url given] runtime runtime'
  | defaulted {runtime runtime' : Runtime} {tag : String}
    (default : runtime'.defaultTag = some tag)
    (nodes : runtime'.nodes = runtime.nodes.tagUntagged tag) :
    Retags [.defaulted tag] runtime runtime'
  | trans {log new : List Tagging} {runtime middle runtime' : Runtime} :
    Retags log runtime middle → Retags new middle runtime' → Retags (log ++ new) runtime runtime'

/-- The history decides on the default and on the tags of all nodes. -/
structure Runtime.TaggedBy (runtime : Runtime) (log : List Tagging) : Prop where
  default : runtime.defaultTag = (defaults log).getLast?
  nodes (url : Url) (node : Node) : runtime.nodes[url]? = some node →
    Decides log url node.virtualNode

section

variable {log new : List Tagging} {runtime runtime' : Runtime}

theorem NodeTable.getElem?_tagUntagged {table : NodeTable} {tag : String} {url : Url} {node : Node}
    (h : (table.tagUntagged tag)[url]? = some node) :
    ∃ before, table[url]? = some before ∧ node.virtualNode = before.virtualNode.or (some tag) := by
  rw [tagUntagged, Std.ExtTreeMap.getElem?_map] at h
  obtain ⟨before, hb, rfl⟩ := Option.map_eq_some_iff.1 h
  refine ⟨before, hb, ?_⟩
  cases ht : before.virtualNode <;> simp [ht]

/-- A node that is not put there anew was there before, and at most gains the first default. -/
theorem Retags.exists_before (h : Retags new runtime runtime') {url : Url}
    (hu : ∀ given, .installed url given ∉ new) {node' : Node}
    (hn : runtime'.nodes[url]? = some node') :
    ∃ node, runtime.nodes[url]? = some node ∧
      node'.virtualNode = node.virtualNode.or (defaults new).head? := by
  induction h generalizing node' with
  | kept _ nodes => exact ⟨node', nodes url node' hn, Option.or_none.symm⟩
  | @installed _ _ other given node _ nodes _ =>
    have ho : other ≠ url := by
      rintro rfl
      exact hu given (by simp)
    rw [nodes, Std.ExtTreeMap.getElem?_insert, if_neg (by simpa using ho)] at hn
    exact ⟨node', hn, Option.or_none.symm⟩
  | defaulted _ nodes =>
    rw [nodes] at hn
    exact NodeTable.getElem?_tagUntagged hn
  | trans _ _ first second =>
    simp only [List.mem_append, not_or] at hu
    obtain ⟨middle, hm, he⟩ := second (fun given => (hu given).2) hn
    obtain ⟨node, hb, he'⟩ := first (fun given => (hu given).1) hm
    refine ⟨node, hb, ?_⟩
    rw [he, he', defaults_append, List.head?_append, Option.or_assoc]

theorem Runtime.TaggedBy.retags (h : runtime.TaggedBy log) (hr : Retags new runtime runtime') :
    runtime'.TaggedBy (log ++ new) := by
  induction hr generalizing log with
  | kept default nodes =>
    rw [List.append_nil]
    exact ⟨default.trans h.default, fun url node hn => h.nodes url node (nodes url node hn)⟩
  | @installed runtime runtime' url given node default nodes tag =>
    refine ⟨?_, fun other node' hn => ?_⟩
    · rw [default, h.default, defaults_append]
      exact congrArg List.getLast? (List.append_nil _).symm
    rw [nodes, Std.ExtTreeMap.getElem?_insert] at hn
    simp only [Std.compare_eq_iff_eq] at hn
    split at hn
    · rename_i ho
      cases hn
      rw [← ho, tag, h.default]
      exact decides_concat log url given
    · rename_i ho
      have unlike (again : Option String) :
          .installed other again ∉ [Tagging.installed url given] :=
        fun hm => ho (Tagging.installed.inj (List.mem_singleton.1 hm)).1.symm
      have same := (h.nodes other node' hn).append unlike
      rwa [show (defaults [.installed url given]).head? = none from rfl, Option.or_none] at same
  | defaulted default nodes =>
    refine ⟨?_, fun url node hn => ?_⟩
    · rw [default, defaults_append]
      exact List.getLast?_concat.symm
    · rw [nodes] at hn
      obtain ⟨before, hb, ht⟩ := NodeTable.getElem?_tagUntagged hn
      rw [ht]
      exact (h.nodes url before hb).append (by simp)
  | trans _ _ first second =>
    rw [← List.append_assoc]
    exact second (first h)

end

/-! ## What calls add -/

/-- What a creation adds to the history, told from its answer: nothing if it keeps the node that is
there. -/
def NodeSpec.taggings (spec : NodeSpec) (nodes : NodeTable) :
    Except RuntimeError Url → List Tagging
  | .ok url =>
    if spec.replaceIfBound = false ∧ url ∈ nodes then [] else [.installed url spec.virtualNode]
  | .error _ => []

/-- What a call adds to the history. -/
def Call.taggings (site : Site) : Call → List Tagging
  | createLocalNode spec =>
    spec.taggings site.runtime.nodes ((attempt (Runtime.createLocalNode spec)).run site).1
  | setDefaultTag tag =>
    match ((attempt (Runtime.setDefaultTag tag)).run site).1 with
    | .ok () => [.defaulted tag]
    | .error _ => []
  | _ => []

theorem Retags.refl (runtime : Runtime) : Retags [] runtime runtime :=
  .kept rfl fun _ _ hn => hn

theorem Touches.retags {parts : List Part} {s s' : Site} (h : Touches parts s s')
    (hn : .nodes ∉ parts) (hd : .defaultTag ∉ parts) : Retags [] s.runtime s'.runtime := by
  have nodes : s'.runtime.nodes = s.runtime.nodes := h .nodes hn
  exact .kept (h .defaultTag hd) (nodes ▸ fun _ _ => id)

theorem Declines.retags {parts : List Part} {s s' : Site} (h : Declines s s')
    (ht : Touches parts s s') (hd : .defaultTag ∉ parts) : Retags [] s.runtime s'.runtime :=
  .kept (ht .defaultTag hd) h.runtime.nodes

theorem Runtime.createLocalNode_retags (spec : NodeSpec) {site : Site}
    (hk : site.runtime.NodesKeyed) :
    Retags ((Call.createLocalNode spec).taggings site) site.runtime
      ((attempt (createLocalNode spec)).run site).2.runtime := by
  rcases hr : (attempt (createLocalNode spec)).run site with ⟨result, site'⟩
  rw [Call.taggings, hr]
  show Retags (spec.taggings site.runtime.nodes result) site.runtime site'.runtime
  rcases run_createLocalNode hr with ⟨-, rfl, rfl⟩ | ⟨-, created, rfl, hc⟩
  · exact .refl site'.runtime
  cases hc with
  | unnamed hu => exact .refl site.runtime
  | @kept url node _ hu ht hkeep hs =>
    have hm : node.url ∈ site.runtime.nodes := by
      rw [hk url node ht]
      exact mem_iff_exists_getElem?.2 ⟨node, ht⟩
    have nothing : spec.taggings site.runtime.nodes (.ok node.url) = [] := if_pos ⟨hkeep, hm⟩
    exact nothing ▸ hs.retags (by decide) (by decide)
  | refused hu hkeep he naming hs => exact hs.retags (by decide) (by decide)
  | @installed url outcome _ hu hkeep he naming nodes groups hs =>
    have one : spec.taggings site.runtime.nodes (.ok url) = [.installed url spec.virtualNode] :=
      if_neg fun h => hkeep h.1 h.2
    have installed : Retags [.installed url spec.virtualNode] site.runtime site'.runtime :=
      .installed (hs .defaultTag (by decide)) nodes rfl
    exact one ▸ installed

theorem Node.setDefaultTag_defaultTag (tag : String) (site : Site) :
    ((setDefaultTag tag).run site).2.runtime.defaultTag = some tag := by
  have joins (nodes : List Node) : Moves (Touches [.log, .groups]) (nodes.forM fun node => do
      let _ ← VirtualNode.attach tag node.url : Work Unit) := by
    refine .forM (fun node => ?_) nodes
    exact .bind (VirtualNode.attach_touches tag node.url) fun _ => .pure _
  exact joins _ _ .defaultTag (by decide)

theorem Runtime.setDefaultTag_retags (tag : String) (site : Site) :
    Retags ((Call.setDefaultTag tag).taggings site) site.runtime
      ((attempt (setDefaultTag tag)).run site).2.runtime := by
  have run : (attempt (setDefaultTag tag)).run site =
      if site.runtime.state = .running then (attempt (liftM (Node.setDefaultTag tag))).run site
      else (.error (.shutDown site.runtime.url.display), site) := run_ensureRunning _ site
  rw [Call.taggings, run]
  by_cases hs : site.runtime.state = .running
  · rw [if_pos hs]
    exact .defaulted (Node.setDefaultTag_defaultTag tag site) (Node.setDefaultTag_tables tag site).1
  · rw [if_neg hs]
    exact .refl site.runtime

theorem Call.action_retags (constructors : ConstructorRegistry) (call : Call) {site : Site}
    (hk : site.runtime.NodesKeyed) :
    Retags (call.taggings site) site.runtime
      ((attempt (call.action constructors)).run site).2.runtime := by
  have touched := call.action_touches constructors site
  cases call with
  | createLocalNode spec =>
    rw [action, run_attempt_discard]
    exact Runtime.createLocalNode_retags spec hk
  | setDefaultTag tag => exact Runtime.setDefaultTag_retags tag site
  | killNode name =>
    exact Declines.retags (Moves.attempt_discard (Node.kill_declines name) site) touched
      (by simp [footprint])
  | killAllNodes =>
    exact Declines.retags (Moves.attempt_discard (.attempt_lift Node.killAll_declines) site) touched
      (by simp [footprint])
  | kill =>
    exact Declines.retags (Moves.attempt_discard (.attempt_lift Runtime.kill_declines) site) touched
      (by simp [footprint])
  | _ => exact touched.retags (by simp [footprint]) (by simp [footprint])

/-! ## What starts add -/

namespace Runtime

/-- What the creations of a start add, up to the first that fails. -/
def bootTaggings : List NodeSettings → Site → List Tagging
  | [], _ => []
  | settings :: rest, site =>
    let call := Call.createLocalNode (.ofSettings settings)
    call.taggings site ++
      match (attempt (call.action ∅)).run site with
      | (.ok (), site) => bootTaggings rest site
      | (.error _, _) => []

theorem bootNodes_retags (nodes : List NodeSettings) {site : Site} (hk : site.runtime.NodesKeyed) :
    Retags (bootTaggings nodes site) site.runtime
      ((attempt (nodes.forM fun settings => do
        let _ ← createLocalNode (NodeSpec.ofSettings settings))).run site).2.runtime := by
  induction nodes generalizing site with
  | nil => exact .refl site.runtime
  | cons settings rest ih =>
    have first := (Call.createLocalNode (.ofSettings settings)).action_retags ∅ hk
    have keyed := lasting_nodesKeyed.call ∅ (.createLocalNode (.ofSettings settings)) site hk
    have run : attempt ((Call.createLocalNode (.ofSettings settings)).action ∅) =
      attempt (do let _ ← createLocalNode (NodeSpec.ofSettings settings)) := rfl
    rw [run_attempt_forM_cons, bootTaggings]
    rw [run] at first keyed ⊢
    rcases hr : (attempt (do let _ ← createLocalNode (NodeSpec.ofSettings settings))).run site with
      ⟨e | _, middle⟩
    · rw [hr] at first
      exact (List.append_nil _).symm ▸ first
    · rw [hr] at first keyed
      exact first.trans (ih keyed)

/-- The nodes come last. -/
theorem boot_eq (config : RuntimeConfig) :
    boot config = (do
      boot { config with nodes := [] }
      config.nodes.forM fun settings => do
        let _ ← createLocalNode (NodeSpec.ofSettings settings)) := by
  simp [boot]

/-- Without nodes to create, a start leaves the nodes alone. -/
theorem boot_touches_without (config : RuntimeConfig) :
    Moves (Touches [.naming, .log, .groups, .events])
      (attempt (boot { config with nodes := [] })) := by
  rw [boot]
  refine .attempt_bind .attempt_get fun site => ?_
  refine .attempt_bind (Registry.register_touches (by decide) (by decide) _ _ _) fun _ => ?_
  refine .attempt_bind (.attempt_lift (logLine_touches (by decide) _ _)) fun _ => ?_
  refine .attempt_bind (.attempt_lift (publish_touches (by decide) (by decide) _)) fun _ => ?_
  refine .attempt_bind (.attempt_forM (fun name => .attempt_discard ?_) _) fun _ => .attempt_pure _
  exact registerVirtualNode_touches name true

end Runtime

/-- What a start adds to the history of the runtime that it starts. -/
def StartRequest.taggings (request : StartRequest) (world : World) : List Tagging :=
  match Runtime.ofRequest request with
  | .error _ => []
  | .ok runtime =>
    match (attempt (Runtime.boot { request.config with nodes := [] })).run (world.site runtime) with
    | (.ok (), site) => Runtime.bootTaggings request.config.nodes site
    | (.error _, _) => []

theorem Runtime.ofRequest_defaultTag {request : StartRequest} {runtime : Runtime}
    (h : ofRequest request = .ok runtime) : runtime.defaultTag = none := by
  obtain ⟨url, parent, rfl⟩ := exists_ofRequest_eq h
  rfl

/-- A runtime that starts has no nodes and no default at first. -/
theorem StartRequest.taggedBy {request : StartRequest} {started : Runtime} (world : World)
    (h : Runtime.ofRequest request = .ok started) :
    ((attempt (Runtime.boot request.config)).run (world.site started)).2.runtime.TaggedBy
      (request.taggings world) := by
  have touched := Runtime.boot_touches_without request.config (world.site started)
  have fresh : started.nodes = ∅ := (Runtime.ofRequest_fresh h).2.2.1
  rw [taggings, h, Runtime.boot_eq, run_attempt_bind]
  dsimp only
  rcases hr : (attempt (Runtime.boot { request.config with nodes := [] })).run (world.site started)
    with ⟨result, middle⟩
  rw [hr] at touched
  have nodes : middle.runtime.nodes = ∅ := Eq.trans (touched .nodes (by decide)) fresh
  have bare : middle.runtime.TaggedBy [] :=
    ⟨Eq.trans (touched .defaultTag (by decide)) (Runtime.ofRequest_defaultTag h), by simp [nodes]⟩
  cases result with
  | error e => exact bare
  | ok u =>
    have keyed : middle.runtime.NodesKeyed := by
      rw [Runtime.NodesKeyed, nodes]
      exact NodeTable.keyed_empty
    exact bare.retags (Runtime.bootNodes_retags request.config.nodes keyed)

/-! ## Over runs -/

namespace Fleet

variable {fleet : Fleet} {place : RuntimeId}

/-- What a step adds to the history of a runtime. -/
def taggingsOf (place : RuntimeId) (fleet : Fleet) : Step → List Tagging
  | .start request =>
    if request.id = place ∧ (fleet.world.runtime? place).isNone then request.taggings fleet.world
    else []
  | .call other call =>
    if other = place then
      (fleet.world.runtime? place).elim [] fun runtime => call.taggings (fleet.world.site runtime)
    else []
  | _ => []

/-- The history of a runtime over a run. -/
def taggings (place : RuntimeId) : Fleet → List Step → List Tagging
  | _, [] => []
  | fleet, step :: steps => taggingsOf place fleet step ++ taggings place (fleet.next step) steps

/-- A runtime that is there passes a step with the taggings of the step. -/
theorem taggingsOf_eq_nil {step : Step} {runtime : Runtime}
    (hr : fleet.world.runtime? place = some runtime) (hc : ∀ call, step ≠ .call place call) :
    taggingsOf place fleet step = [] := by
  cases step with
  | start request => simp [taggingsOf, hr]
  | call other call =>
    rw [taggingsOf, if_neg]
    rintro rfl
    exact hc call rfl
  | _ => rfl

theorem retags_next (hs : fleet.Sound) (hk : fleet.world.Each Runtime.NodesKeyed) {step : Step}
    {runtime runtime' : Runtime} (hr : fleet.world.runtime? place = some runtime)
    (hr' : (fleet.next step).world.runtime? place = some runtime') :
    Retags (taggingsOf place fleet step) runtime runtime' := by
  cases arises_next hs.world hr' with
  | started _ _ hn => exact nomatch hn.symm.trans hr
  | @called call before hstep hb hsite =>
    subst hstep hsite
    obtain rfl := Option.some.inj (hr.symm.trans hb)
    have keyed : (fleet.world.site runtime).runtime.NodesKeyed := hk place runtime hr
    rw [taggingsOf, if_pos rfl, hr]
    exact call.action_retags (fleet.world.constructors place) keyed
  | passed hc hb ht hsite =>
    obtain rfl := Option.some.inj (hr.symm.trans hb)
    rw [taggingsOf_eq_nil hr hc, hsite]
    exact ht.retags (by decide) (by decide)

/-- What is known of a runtime after a run with the given history, if it is there by then. -/
def TaggedAt (place : RuntimeId) (fleet : Fleet) (log : List Tagging) : Prop :=
  match fleet.world.runtime? place with
  | none => log = []
  | some runtime => runtime.TaggedBy log

theorem taggedAt_start {request : StartRequest}
    (hn : fleet.world.runtime? request.id = none) :
    TaggedAt request.id (fleet.next (.start request))
      (taggingsOf request.id fleet (.start request)) := by
  have world : (fleet.next (.start request)).world = (fleet.world.start request).2 := by
    simp only [next, outcome, hn]
  have added : taggingsOf request.id fleet (.start request) = request.taggings fleet.world := by
    simp [taggingsOf, hn]
  rw [added, TaggedAt, world, World.start]
  cases ho : Runtime.ofRequest request with
  | error e =>
    dsimp only
    rw [hn, StartRequest.taggings, ho]
  | ok started =>
    have tagged := StartRequest.taggedBy fleet.world ho
    have touched := Runtime.boot_touches request.config (fleet.world.site started) .identity
      (by decide)
    rcases hr : (attempt (Runtime.boot request.config)).run (fleet.world.site started) with
      ⟨result, site⟩
    rw [hr] at tagged touched
    have id : site.runtime.id = request.id := touched.1.trans (Runtime.ofRequest_fresh ho).1
    dsimp only
    rw [hr]
    dsimp only
    rw [World.runtime?_absorb, if_pos id]
    exact tagged

/-- A runtime that is not there comes with a start only. -/
theorem runtime?_next_of_absent (hs : fleet.Sound) (hn : fleet.world.runtime? place = none)
    {step : Step} (hstart : ∀ request, step = .start request → request.id ≠ place) :
    (fleet.next step).world.runtime? place = none := by
  by_contra hsome
  obtain ⟨runtime, hr⟩ := Option.ne_none_iff_exists'.1 hsome
  cases arises_next hs.world hr with
  | started hstep hp => exact hstart _ hstep hp
  | called _ hb => exact nomatch hn.symm.trans hb
  | passed _ hb => exact nomatch hn.symm.trans hb

theorem TaggedAt.next {log : List Tagging} (h : TaggedAt place fleet log) (hs : fleet.Sound)
    (hk : fleet.world.Each Runtime.NodesKeyed) (step : Step) :
    TaggedAt place (fleet.next step) (log ++ taggingsOf place fleet step) := by
  cases hr : fleet.world.runtime? place with
  | some runtime =>
    rw [TaggedAt, hr] at h
    have url : (fleet.next step).url? place = some runtime.url :=
      url?_next hs.world (by rw [url?, hr]; rfl) step
    obtain ⟨runtime', hr', -⟩ := Option.map_eq_some_iff.1 url
    rw [TaggedAt, hr']
    exact h.retags (retags_next hs hk hr hr')
  | none =>
    rw [TaggedAt, hr] at h
    subst h
    by_cases hstart : ∃ request, step = .start request ∧ request.id = place
    · obtain ⟨request, rfl, rfl⟩ := hstart
      exact taggedAt_start hr
    · have absent := runtime?_next_of_absent hs hr
        fun request h hp => hstart ⟨request, h, hp⟩
      have nothing : taggingsOf place fleet step = [] := by
        cases step with
        | start request =>
          exact if_neg fun h => hstart ⟨request, rfl, h.1⟩
        | call other call => simp [taggingsOf, hr]
        | _ => rfl
      rw [TaggedAt, absent, nothing]
      rfl

theorem TaggedAt.after {log : List Tagging} (h : TaggedAt place fleet log) (hs : fleet.Sound)
    (hk : fleet.world.Each Runtime.NodesKeyed) (steps : List Step) :
    TaggedAt place (fleet.after steps) (log ++ taggings place fleet steps) := by
  induction steps generalizing fleet log with
  | nil => exact (List.append_nil log).symm ▸ h
  | cons step steps ih =>
    rw [taggings, ← List.append_assoc]
    exact ih (h.next hs hk step) (hs.next step) (each_next lasting_nodesKeyed hk step)

/-- After every run, the tag of a node that is tracked is the one that was asked for when the node
was put there last, or else the default of that moment, or else the first default that was set
later; so no node is without a tag once a default was set. The default is the last one that was set.
A further step that does not put the node there anew leaves its tag as it is, but for the default
that it sets if there was no tag. -/
theorem tag_of_tracked {steps : List Step} {runtime : Runtime}
    (hr : (({} : Fleet).after steps).world.runtime? place = some runtime) {name : String}
    {node : Node} (hn : runtime.node name = .ok node) :
    (∃ earlier given later,
      taggings place {} steps = earlier ++ .installed node.url given :: later ∧
      (∀ again, .installed node.url again ∉ later) ∧
      node.virtualNode = (given.or (defaults earlier).getLast?).or (defaults later).head?) ∧
    runtime.defaultTag = (defaults (taggings place {} steps)).getLast? ∧
    (defaults (taggings place {} steps) ≠ [] → node.virtualNode.isSome) ∧
    ∀ (step : Step) (runtime' : Runtime) (node' : Node),
      ((({} : Fleet).after steps).next step).world.runtime? place = some runtime' →
      runtime'.nodes[node.url]? = some node' →
      (∀ given, .installed node.url given ∉ taggingsOf place (({} : Fleet).after steps) step) →
      node'.virtualNode =
        node.virtualNode.or
          (defaults (taggingsOf place (({} : Fleet).after steps) step)).head? := by
  have keyed := each_after lasting_nodesKeyed steps
  have untagged : TaggedAt place {} [] := by simp [TaggedAt, World.runtime?]
  have tagged : TaggedAt place (({} : Fleet).after steps) (taggings place {} steps) :=
    untagged.after sound_empty (each_after lasting_nodesKeyed []) steps
  rw [TaggedAt, hr] at tagged
  obtain ⟨url, -, hf⟩ := Runtime.node_eq_ok_iff.1 hn
  obtain rfl := keyed place runtime hr url node hf
  have decides := tagged.nodes node.url node hf
  refine ⟨decides, tagged.default, decides.isSome, fun step runtime' node' hr' hn' hu => ?_⟩
  obtain ⟨before, hb, ht⟩ :=
    (retags_next (sound_after steps) keyed hr hr').exists_before hu hn'
  obtain rfl := Option.some.inj (hf.symm.trans hb)
  exact ht

/-- The node `b` is without a tag until there is a default, and is then found by a creation that is
not to replace it. The node `n` fails to be killed. The node `a` is replaced after the default has
changed. -/
def retagging : List Step :=
  [opening 1 1099, .call 1 (.createLocalNode { name := "a", virtualNode := some "g" }),
    .call 1 (.createLocalNode { name := "b" }), .call 1 (.setDefaultTag "d"),
    .call 1 (.createLocalNode { name := "b", replaceIfBound := false, virtualNode := some "h" }),
    .naming { fault := fun call _ => if call = .unbind then some World.unreachable else none },
    .call 1 (.killNode "n"), .call 1 (.registerVirtualNode "d" true),
    .call 1 (.setDefaultTag "e"), .call 1 (.createLocalNode { name := "a" })]

theorem tag_of_tracked_retagging :
    ∃ runtime node, (({} : Fleet).after retagging).world.runtime? 1 = some runtime ∧
      runtime.nodes.values.map (fun node => (node.name, node.virtualNode)) =
        [("a", some "e"), ("b", some "d"), ("n", some "d")] ∧
      runtime.node "b" = .ok node ∧
      ∃ earlier given later, taggings 1 {} retagging =
          earlier ++ .installed node.url given :: later ∧
        node.virtualNode = (given.or (defaults earlier).getLast?).or (defaults later).head? := by
  have h : ((({} : Fleet).after retagging).world.runtime? 1).any fun runtime =>
      runtime.nodes.values.map (fun node => (node.name, node.virtualNode)) =
        [("a", some "e"), ("b", some "d"), ("n", some "d")] ∧
      (runtime.node "b").toOption.isSome := by decide +kernel
  obtain ⟨runtime, hr, h⟩ := (Option.any_eq_true _ _).1 h
  obtain ⟨tags, h⟩ := of_decide_eq_true h
  obtain ⟨node, hn⟩ := Option.isSome_iff_exists.1 h
  rw [toOption_eq_some_iff] at hn
  obtain ⟨⟨earlier, given, later, hlog, -, htag⟩, -⟩ := tag_of_tracked hr hn
  exact ⟨runtime, node, hr, tags, hn, earlier, given, later, hlog, htag⟩

end Fleet

end ActiveObjects

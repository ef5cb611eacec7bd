import ActiveObjects.Proofs.Node.Tags

/-!
# Which policy server a node has

The policy server of a node is the one that the last creation asked for that put the node there. No
other operation changes it, and the policy server that the runtime is configured with is not passed
on to its nodes.
-/

namespace ActiveObjects

open Site Tagging

/-! ## Calls -/

/-- The policy server that a call asks for. -/
def Call.givenServer : Call → Option PolicyServerRef
  | createLocalNode spec => spec.policyServer
  | _ => none

/-- A node that is found after some work: it was put there with the given policy server, or it was
there before, with the policy server that it has. -/
inductive Serves (puts : Prop) (given : Option PolicyServerRef) (before : Option Node)
    (node' : Node) : Prop where
  | put (h : puts) (server : node'.policyServer = given)
  | kept (h : ¬ puts) {node : Node} (found : before = some node)
    (server : node'.policyServer = node.policyServer)

section

variable {puts : Prop} {given : Option PolicyServerRef} {nodes : NodeTable} {url : Url}
  {node' : Node}

theorem Serves.of_kept (h : ¬ puts) (hn : nodes[url]? = some node') :
    Serves puts given nodes[url]? node' :=
  .kept h hn rfl

theorem NodeTable.serves_tagUntagged {tag : String} (h : ¬ puts)
    (hn : (nodes.tagUntagged tag)[url]? = some node') :
    Serves puts given nodes[url]? node' := by
  rw [tagUntagged, Std.ExtTreeMap.getElem?_map] at hn
  obtain ⟨node, found, rfl⟩ := Option.map_eq_some_iff.1 hn
  apply Serves.kept h found
  split <;> rfl

end

namespace Call

/-- Only a creation puts nodes there. -/
theorem not_installed {call : Call} (h : ∀ spec, call ≠ .createLocalNode spec) (site : Site)
    (url : Url) : ¬ ∃ given, .installed url given ∈ call.taggings site := by
  rintro ⟨given, hm⟩
  cases call with
  | createLocalNode spec => exact h spec rfl
  | setDefaultTag tag =>
    rw [taggings] at hm
    split at hm <;> simp at hm
  | _ => simp [taggings] at hm

theorem createLocalNode_serves (spec : NodeSpec) {site : Site} (hk : site.runtime.NodesKeyed)
    {url : Url} {node' : Node}
    (hn : ((attempt (Runtime.createLocalNode spec)).run site).2.runtime.nodes[url]? =
      some node') :
    Serves (∃ given, .installed url given ∈ (createLocalNode spec).taggings site)
      spec.policyServer site.runtime.nodes[url]? node' := by
  rcases hr : (attempt (Runtime.createLocalNode spec)).run site with ⟨result, site'⟩
  rw [hr] at hn
  have taggings : (createLocalNode spec).taggings site =
      spec.taggings site.runtime.nodes result := by
    rw [Call.taggings, hr]
  rw [taggings]
  rcases Runtime.run_createLocalNode hr with ⟨-, rfl, rfl⟩ | ⟨-, created, rfl, hc⟩
  · exact .of_kept (by simp [NodeSpec.taggings]) hn
  cases hc with
  | unnamed hu => exact .of_kept (by simp [NodeSpec.taggings, Except.map]) hn
  | @kept other node _ hu ht hkeep hs =>
    have hm : node.url ∈ site.runtime.nodes := by
      rw [hk other node ht]
      exact mem_iff_exists_getElem?.2 ⟨node, ht⟩
    have same : site'.runtime.nodes = site.runtime.nodes := hs .nodes (by decide)
    rw [same] at hn
    exact .of_kept (by simp [NodeSpec.taggings, Except.map, hkeep, hm]) hn
  | refused hu hkeep he naming hs =>
    have same : site'.runtime.nodes = site.runtime.nodes := hs .nodes (by decide)
    rw [same] at hn
    exact .of_kept (by simp [NodeSpec.taggings, Except.map]) hn
  | @installed other outcome _ hu hkeep he naming nodes groups hs =>
    have one : spec.taggings site.runtime.nodes (.ok other) =
        [.installed other spec.virtualNode] := if_neg fun h => hkeep h.1 h.2
    have one : spec.taggings site.runtime.nodes
        ((Except.ok (Node.ofSpec spec other site.runtime)).map (·.url)) =
        [.installed other spec.virtualNode] := one
    rw [one]
    rw [nodes, Std.ExtTreeMap.getElem?_insert] at hn
    simp only [Std.compare_eq_iff_eq] at hn
    split at hn
    · rename_i ho
      subst ho
      cases hn
      exact .put ⟨_, List.mem_singleton_self _⟩ rfl
    · rename_i ho
      refine .of_kept ?_ hn
      rintro ⟨given, hm⟩
      exact ho (Tagging.installed.inj (List.mem_singleton.1 hm)).1.symm

theorem action_serves (constructors : ConstructorRegistry) (call : Call) {site : Site}
    (hk : site.runtime.NodesKeyed) {url : Url} {node' : Node}
    (hn : ((attempt (call.action constructors)).run site).2.runtime.nodes[url]? = some node') :
    Serves (∃ given, .installed url given ∈ call.taggings site) call.givenServer
      site.runtime.nodes[url]? node' := by
  have declines (h : Declines site ((attempt (call.action constructors)).run site).2)
      (hc : ∀ spec, call ≠ .createLocalNode spec) :
      Serves (∃ given, .installed url given ∈ call.taggings site) call.givenServer
        site.runtime.nodes[url]? node' :=
    .of_kept (not_installed hc site url) (h.runtime.nodes url node' hn)
  have touched := call.action_touches constructors site
  cases call with
  | createLocalNode spec =>
    rw [action, run_attempt_discard] at hn
    exact createLocalNode_serves spec hk hn
  | setDefaultTag tag =>
    have run : (attempt (Runtime.setDefaultTag tag)).run site =
        if site.runtime.state = .running then (attempt (liftM (Node.setDefaultTag tag))).run site
        else (.error (.shutDown site.runtime.url.display), site) :=
      Runtime.run_ensureRunning _ site
    have none : ¬ ∃ given, .installed url given ∈ (setDefaultTag tag).taggings site :=
      not_installed (by simp) site url
    rw [action, run] at hn
    split at hn
    · rw [run_attempt_lift, (Node.setDefaultTag_tables tag site).1] at hn
      exact NodeTable.serves_tagUntagged none hn
    · exact .of_kept none hn
  | killNode name =>
    exact declines (Moves.attempt_discard (Node.kill_declines name) site) (by simp)
  | killAllNodes =>
    exact declines (Moves.attempt_discard (.attempt_lift Node.killAll_declines) site) (by simp)
  | kill =>
    exact declines (Moves.attempt_discard (.attempt_lift Runtime.kill_declines) site) (by simp)
  | _ =>
    have same : _ = site.runtime.nodes := touched .nodes (by simp [footprint])
    rw [same] at hn
    exact .of_kept (not_installed (by simp) site url) hn

end Call

/-! ## Starts -/

namespace Runtime

/-- No node has a policy server. -/
def Unserved (runtime : Runtime) : Prop :=
  ∀ (url : Url) (node : Node), runtime.nodes[url]? = some node → node.policyServer = none

theorem createLocalNode_unserved {spec : NodeSpec} (hspec : spec.policyServer = none)
    {site : Site} (h : site.runtime.Unserved) :
    ((attempt (createLocalNode spec)).run site).2.runtime.Unserved := by
  rcases hr : (attempt (createLocalNode spec)).run site with ⟨result, site'⟩
  rcases run_createLocalNode hr with ⟨-, -, rfl⟩ | ⟨-, created, -, hc⟩
  · exact h
  have same (hs : site'.runtime.nodes = site.runtime.nodes) : site'.runtime.Unserved := by
    rw [Unserved, hs]
    exact h
  cases hc with
  | unnamed => exact h
  | kept _ _ _ touched => exact same (touched .nodes (by decide))
  | refused _ _ _ _ touched => exact same (touched .nodes (by decide))
  | installed _ _ _ _ nodes =>
    intro other node hn
    rw [nodes, Std.ExtTreeMap.getElem?_insert] at hn
    split at hn
    · cases hn
      exact hspec
    · exact h other node hn

/-- The settings of a node do not name a policy server. -/
theorem boot_unserved (config : RuntimeConfig) :
    Moves (Preserves Unserved) (attempt (boot config)) := by
  have untouched : Moves (Preserves Unserved)
      (attempt (boot { config with nodes := [] })) := by
    refine (boot_touches_without config).mono fun site site' touched h => ?_
    have same : site'.runtime.nodes = site.runtime.nodes := touched .nodes (by decide)
    rw [Unserved, same]
    exact h
  have created (settings : NodeSettings) : Moves (Preserves Unserved)
      (attempt (createLocalNode (.ofSettings settings))) :=
    fun _ h => createLocalNode_unserved rfl h
  rw [boot_eq]
  exact .attempt_bind untouched fun _ =>
    .attempt_forM (fun settings => .attempt_discard (created settings)) _

theorem ofRequest_configuredServer {request : StartRequest} {runtime : Runtime}
    (h : ofRequest request = .ok runtime) :
    runtime.security.configuredServer =
      request.config.security.policyServer.map PolicyServerRef.mk := by
  obtain ⟨url, parent, rfl⟩ := exists_ofRequest_eq h
  rfl

end Runtime

/-! ## Over runs -/

/-- The policy server that a step asks for. The nodes of a start are created without one. -/
def Step.givenServer : Step → Option PolicyServerRef
  | .call _ asked => asked.givenServer
  | _ => none

namespace Fleet

variable {fleet : Fleet} {place : RuntimeId} {url : Url}

/-- A step puts a node there, and does not keep the one that is there. -/
def Puts (place : RuntimeId) (fleet : Fleet) (url : Url) (step : Step) : Prop :=
  ∃ given, .installed url given ∈ taggingsOf place fleet step

/-- The last step of a run that puts the node at a URL there. -/
inductive PutLast (place : RuntimeId) (url : Url) : List Step → Step → Prop where
  | now {steps : List Step} {step : Step} (h : Puts place (({} : Fleet).after steps) url step) :
    PutLast place url (steps ++ [step]) step
  | before {steps : List Step} {step further : Step} (h : PutLast place url steps step)
    (hn : ¬ Puts place (({} : Fleet).after steps) url further) :
    PutLast place url (steps ++ [further]) step

/-- The request that a runtime was started with in a run. -/
inductive StartedWith (place : RuntimeId) : List Step → StartRequest → Prop where
  | now {steps : List Step} {request : StartRequest} (hp : request.id = place)
    (hn : (({} : Fleet).after steps).world.runtime? place = none)
    (hs : ((({} : Fleet).after steps).next (.start request)).world.runtime? place ≠ none) :
    StartedWith place (steps ++ [.start request]) request
  | before {steps : List Step} {request : StartRequest} {further : Step}
    (h : StartedWith place steps request) : StartedWith place (steps ++ [further]) request

theorem serves_next (hs : fleet.Sound) (hk : fleet.world.Each Runtime.NodesKeyed) {step : Step}
    {runtime' : Runtime} {node' : Node}
    (hr' : (fleet.next step).world.runtime? place = some runtime')
    (hn' : runtime'.nodes[url]? = some node') :
    Serves (Puts place fleet url step) step.givenServer
      ((fleet.world.runtime? place).bind (·.nodes[url]?)) node' := by
  cases arises_next hs.world hr' with
  | @started request hstep hp hn =>
    subst hstep hp
    have tagged := taggedAt_start hn
    rw [TaggedAt, hr'] at tagged
    obtain ⟨earlier, given, later, log, -⟩ := tagged.nodes url node' hn'
    have put : Puts request.id fleet url (.start request) := by
      refine ⟨given, ?_⟩
      rw [log]
      simp
    obtain ⟨started, ho, rfl⟩ := exists_boot_of_start hn hr'
    have fresh : (fleet.world.site started).runtime.Unserved := by
      have empty : (fleet.world.site started).runtime.nodes = ∅ :=
        (Runtime.ofRequest_fresh ho).2.2.1
      simp [Runtime.Unserved, empty]
    exact .put put (Runtime.boot_unserved request.config _ fresh url node' hn')
  | @called call runtime hstep hr hsite =>
    subst hstep hsite
    have keyed : (fleet.world.site runtime).runtime.NodesKeyed := hk place runtime hr
    have served := call.action_serves (fleet.world.constructors place) keyed hn'
    rw [Puts, taggingsOf, if_pos rfl, hr]
    exact served
  | @passed runtime site hc hr touched hsite =>
    have same : _ = runtime.nodes := touched .nodes (by decide)
    rw [hsite, same] at hn'
    rw [Puts, taggingsOf_eq_nil hr hc, hr]
    exact .of_kept (by simp) hn'

/-- The policy server of a node is the one that was asked for when the node was put there last. -/
theorem exists_putLast {steps : List Step} {runtime : Runtime}
    (hr : (({} : Fleet).after steps).world.runtime? place = some runtime) {node : Node}
    (hn : runtime.nodes[url]? = some node) :
    ∃ step, PutLast place url steps step ∧ node.policyServer = step.givenServer := by
  induction steps using List.reverseRecOn generalizing runtime node with
  | nil => simp [after, World.runtime?] at hr
  | append_singleton steps step ih =>
    have sound := sound_after steps
    have keyed := each_after lasting_nodesKeyed steps
    rw [after_append] at hr
    cases serves_next sound keyed hr hn with
    | put h server => exact ⟨step, .now h, server⟩
    | kept h found server =>
      obtain ⟨before, hb, found⟩ := Option.bind_eq_some_iff.1 found
      obtain ⟨last, hlast, given⟩ := ih hb found
      exact ⟨last, hlast.before h, server.trans given⟩

theorem configuredServer_next (hs : fleet.Sound) {step : Step} {runtime runtime' : Runtime}
    (hr : fleet.world.runtime? place = some runtime)
    (hr' : (fleet.next step).world.runtime? place = some runtime') :
    runtime'.security.configuredServer = runtime.security.configuredServer := by
  cases arises_next hs.world hr' with
  | started _ _ hn => cases hn.symm.trans hr
  | @called call before hstep hb hsite =>
    obtain rfl := Option.some.inj (hr.symm.trans hb)
    have touched := call.action_touches (fleet.world.constructors place) (fleet.world.site runtime)
    rw [hsite]
    cases call with
    | setSecurityManager evaluator => rfl
    | _ =>
      exact congrArg SecurityRelay.configuredServer
        (touched .security (by simp [Call.footprint]))
  | passed _ hb touched hsite =>
    obtain rfl := Option.some.inj (hr.symm.trans hb)
    rw [hsite]
    exact congrArg SecurityRelay.configuredServer (touched .security (by decide))

/-- A runtime is configured with the policy server of the request that started it, for good. -/
theorem exists_startedWith {steps : List Step} {runtime : Runtime}
    (hr : (({} : Fleet).after steps).world.runtime? place = some runtime) :
    ∃ request, StartedWith place steps request ∧
      runtime.security.configuredServer =
        request.config.security.policyServer.map PolicyServerRef.mk := by
  induction steps using List.reverseRecOn generalizing runtime with
  | nil => simp [after, World.runtime?] at hr
  | append_singleton steps step ih =>
    have sound := sound_after steps
    rw [after_append] at hr
    cases hb : (({} : Fleet).after steps).world.runtime? place with
    | some before =>
      obtain ⟨request, started, configured⟩ := ih hb
      exact ⟨request, started.before, (configuredServer_next sound hb hr).trans configured⟩
    | none =>
      cases arises_next sound.world hr with
      | called _ h => cases hb.symm.trans h
      | passed _ h => cases hb.symm.trans h
      | @started request hstep hp _ =>
        subst hstep hp
        obtain ⟨started, ho, rfl⟩ := exists_boot_of_start hb hr
        refine ⟨request, .now rfl hb (Option.ne_none_iff_exists'.2 ⟨_, hr⟩), ?_⟩
        have touched := Runtime.boot_touches request.config
          ((({} : Fleet).after steps).world.site started)
        have same : _ = started.security := touched .security (by decide)
        rw [same]
        exact Runtime.ofRequest_configuredServer ho

/-- After every run, the policy server of a node that is tracked is the one that was asked for by
the step that put the node there last, so there is none if the step is a start or asks for none. The
policy server that the runtime was configured with makes no difference: a node that was to get it
has it only if there is none to get. A further step that does not put the node there anew leaves its
policy server as it is. -/
theorem server_of_tracked {steps : List Step} {runtime : Runtime}
    (hr : (({} : Fleet).after steps).world.runtime? place = some runtime) {name : String}
    {node : Node} (hn : runtime.node name = .ok node) :
    (∃ step request, PutLast place node.url steps step ∧ StartedWith place steps request ∧
      node.policyServer = step.givenServer ∧
      runtime.security.configuredServer =
        request.config.security.policyServer.map PolicyServerRef.mk ∧
      (node.policyServer = step.givenServer.or runtime.security.configuredServer ↔
        step.givenServer.isSome ∨ runtime.security.configuredServer = none)) ∧
    ∀ (step : Step) (runtime' : Runtime) (node' : Node),
      ((({} : Fleet).after steps).next step).world.runtime? place = some runtime' →
      runtime'.nodes[node.url]? = some node' →
      ¬ Puts place (({} : Fleet).after steps) node.url step →
      node'.policyServer = node.policyServer := by
  have keyed := each_after lasting_nodesKeyed steps
  obtain ⟨url, -, hf⟩ := Runtime.node_eq_ok_iff.1 hn
  obtain rfl := keyed place runtime hr url node hf
  obtain ⟨step, put, given⟩ := exists_putLast hr hf
  obtain ⟨request, started, configured⟩ := exists_startedWith hr
  constructor
  · refine ⟨step, request, put, started, given, configured, ?_⟩
    rw [given]
    cases step.givenServer with
    | some server => simp
    | none => simp [eq_comm]
  · intro step runtime' node' hr' hn' unput
    cases serves_next (sound_after steps) keyed hr' hn' with
    | put h => exact absurd h unput
    | kept _ found server =>
      rw [hr] at found
      obtain rfl := Option.some.inj (hf.symm.trans found)
      exact server

/-- A start with a policy server and with one node. -/
def openingUnder (server : String) : Step :=
  .start
    { id := 1
      config :=
        { runtime := { name := "r" }, security := { policyServer := some server }
          nodes := [{ name := "n" }] }
      resolver := .literals }

/-- The node `a` asks for a policy server. It is tagged, fails to be killed, and is then found by a
creation that is not to replace it. -/
def serving : List Step :=
  [openingUnder "ps", .call 1 (.createLocalNode { name := "a", policyServer := some ⟨"own"⟩ }),
    .call 1 (.setDefaultTag "t"),
    .naming { fault := fun call _ => if call = .unbind then some World.unreachable else none },
    .call 1 (.killNode "a"),
    .call 1 (.createLocalNode
      { name := "a", replaceIfBound := false, policyServer := some ⟨"other"⟩ })]

theorem server_of_tracked_serving :
    ∃ runtime node, (({} : Fleet).after serving).world.runtime? 1 = some runtime ∧
      runtime.nodes.values.map (fun node => (node.name, node.policyServer)) =
        [("a", some ⟨"own"⟩), ("n", none)] ∧
      runtime.node "a" = .ok node ∧
      ∃ step request, PutLast 1 node.url serving step ∧ StartedWith 1 serving request ∧
        node.policyServer = step.givenServer := by
  have h : ((({} : Fleet).after serving).world.runtime? 1).any fun runtime =>
      runtime.nodes.values.map (fun node => (node.name, node.policyServer)) =
        [("a", some ⟨"own"⟩), ("n", none)] ∧
      (runtime.node "a").toOption.isSome := by decide +kernel
  obtain ⟨runtime, hr, h⟩ := (Option.any_eq_true _ _).1 h
  obtain ⟨servers, h⟩ := of_decide_eq_true h
  obtain ⟨node, hn⟩ := Option.isSome_iff_exists.1 h
  rw [toOption_eq_some_iff] at hn
  obtain ⟨⟨step, request, put, started, given, -⟩, -⟩ := server_of_tracked hr hn
  exact ⟨runtime, node, hr, servers, hn, step, request, put, started, given⟩

/-- Neither the node of the start nor those that are created without a policy server have the one
that the runtime was configured with; and it does not come back when `b` is replaced. -/
theorem server_not_inherited :
    ((({} : Fleet).after
      [openingUnder "ps", .call 1 (.createLocalNode { name := "a" }),
        .call 1 (.createLocalNode { name := "b", policyServer := some ⟨"own"⟩ }),
        .call 1 (.createLocalNode { name := "b" })]).world.runtime? 1).map
      (fun runtime => (runtime.security.policyServer,
        runtime.nodes.values.map fun node => (node.name, node.policyServer))) =
    some (some ⟨"ps"⟩, [("a", none), ("b", none), ("n", none)]) := by
  decide +kernel

end Fleet

end ActiveObjects

import ActiveObjects.Proofs.Naming.Entry
import ActiveObjects.Proofs.Node.Tables
import ActiveObjects.Proofs.Runtime.Refusal
import ActiveObjects.Proofs.Table

/-!
# What creating nodes and groups does

A node or group is looked up, entered in the naming facility and tracked, in that order. Each way in
which this can end is a case, with the names and the table that it leaves behind.
-/

namespace ActiveObjects

open Site

/-! ## Nodes -/

namespace Node

/-- The node that a request asks for, under its URL. -/
def ofSpec (spec : NodeSpec) (url : Url) (runtime : Runtime) : Node :=
  { name := url.name, url, owner := runtime.url, jobId := spec.jobId
    policyServer := spec.policyServer
    virtualNode := spec.virtualNode.or runtime.defaultTag }

/-- The ways in which the creation of a node can end. -/
inductive Creates (spec : NodeSpec) (owner : RuntimeHandle) (site : Site) :
    Except RuntimeError Node → Site → Prop where
  /-- The name stands for nothing. -/
  | unnamed {e : RuntimeError} (hu : site.runtime.entryUrl spec.name = .error e) :
    Creates spec owner site (.error e) site
  /-- A node is there, and is not to be replaced. -/
  | kept {url : Url} {node : Node} {site' : Site} (hu : site.runtime.entryUrl spec.name = .ok url)
    (ht : site.runtime.nodes[url]? = some node) (hk : spec.replaceIfBound = false)
    (hs : Touches [.log] site site') : Creates spec owner site (.ok node) site'
  /-- The URL is not registered. -/
  | refused {url : Url} {e : RuntimeError} {site' : Site}
    (hu : site.runtime.entryUrl spec.name = .ok url)
    (hk : spec.replaceIfBound = false → url ∉ site.runtime.nodes)
    (he : site.naming.enterResult site.runtime.strict url spec.replaceIfBound = .error e)
    (naming : site'.naming = site.naming.enter url owner spec.replaceIfBound)
    (hs : Touches [.naming, .log] site site') : Creates spec owner site (.error e) site'
  | installed {url : Url} {outcome : RegisterOutcome} {site' : Site}
    (hu : site.runtime.entryUrl spec.name = .ok url)
    (hk : spec.replaceIfBound = false → url ∉ site.runtime.nodes)
    (he : site.naming.enterResult site.runtime.strict url spec.replaceIfBound = .ok outcome)
    (naming : site'.naming = site.naming.enter url owner spec.replaceIfBound)
    (nodes : site'.runtime.nodes =
      site.runtime.nodes.insert url (ofSpec spec url site.runtime))
    (groups : site'.runtime.groups = regroup (ofSpec spec url site.runtime)
      site.runtime.nodes[url]? site.runtime.groups)
    (hs : Touches [.naming, .log, .nodes, .groups, .events] site site') :
    Creates spec owner site (.ok (ofSpec spec url site.runtime)) site'

/-- What is done once the URL is registered. -/
def track (spec : NodeSpec) (url : Url) : Action Node := do
  let node := ofSpec spec url (← get).runtime
  install node
  logLine .info "Node created"
  publish (.nodeCreated node.owner url node.jobId node.virtualNode)
  return node

theorem run_track (spec : NodeSpec) (url : Url) (site : Site) :
    ∃ site', (attempt (track spec url)).run site = (.ok (ofSpec spec url site.runtime), site') ∧
      site'.naming = site.naming ∧
      site'.runtime.nodes = site.runtime.nodes.insert url (ofSpec spec url site.runtime) ∧
      site'.runtime.groups = regroup (ofSpec spec url site.runtime) site.runtime.nodes[url]?
        site.runtime.groups := by
  generalize hnode : ofSpec spec url site.runtime = node
  have hurl : node.url = url := hnode ▸ rfl
  obtain ⟨nodes, groups⟩ := install_tables node site
  rw [hurl] at nodes groups
  have installed := install_touches node site
  have told : Moves (Touches [.log, .events]) (do
      logLine .info "Node created"
      publish (.nodeCreated node.owner url node.jobId node.virtualNode) : Work Unit) :=
    .bind (logLine_touches (by decide) _ _) fun _ => publish_touches (by decide) (by decide) _
  have last := told ((install node).run site).2
  refine ⟨_, ?_, Eq.trans (last .naming (by decide)) (installed .naming (by decide)),
    Eq.trans (last .nodes (by decide)) nodes, Eq.trans (last .groups (by decide)) groups⟩
  rw [← hnode]
  rfl

theorem run_create {spec : NodeSpec} {owner : RuntimeHandle} {site site' : Site}
    {result : Except RuntimeError Node}
    (hr : (attempt (create spec owner)).run site = (result, site')) :
    Creates spec owner site result site' := by
  have touched := create_touches spec owner site
  rw [hr] at touched
  rw [create, Runtime.run_entryUrl] at hr
  cases hu : site.runtime.entryUrl spec.name with
  | error e =>
    rw [hu] at hr
    cases hr
    exact .unnamed hu
  | ok url =>
    rw [hu] at hr
    dsimp only at hr
    rw [run_attempt_get_bind] at hr
    split at hr
    · rename_i node ht hk
      cases hr
      refine .kept hu ht hk fun part hp => ?_
      cases part <;> simp_all [Part.Same]
    · rename_i hk
      have hk : spec.replaceIfBound = false → url ∉ site.runtime.nodes := by
        intro hf ht
        obtain ⟨node, ht⟩ := mem_iff_exists_getElem?.1 ht
        exact hk node ht hf
      rw [run_attempt_bind] at hr
      rcases hreg : (attempt (Registry.register url owner spec.replaceIfBound)).run site with
        ⟨registered, middle⟩
      obtain ⟨hresult, hn, hs⟩ := Registry.run_register hreg
      have ht : Touches [.naming, .log] site _ :=
        Registry.register_touches (by decide) (by decide) url owner spec.replaceIfBound site
      rw [hreg] at hr ht
      cases registered with
      | error e =>
        cases hr
        exact .refused hu hk hresult.symm hn ht
      | ok outcome =>
        -- A line of the log comes between if the URL stays bound as it is.
        have tracked {start : Site} (hstart : start.naming = middle.naming)
            (hruntime : start.runtime = site.runtime)
            (hlast : (attempt (track spec url)).run start = (result, site')) :
            Creates spec owner site result site' := by
          obtain ⟨last, hrun, naming, nodes, groups⟩ := run_track spec url start
          obtain ⟨rfl, rfl⟩ := Prod.mk.inj (hrun.symm.trans hlast)
          rw [hruntime] at nodes groups ⊢
          exact .installed hu hk hresult.symm (naming.trans (hstart.trans hn)) nodes groups touched
        have hr : (attempt (ite (outcome = .alreadyBound) _ _)).run middle = (result, site') := hr
        split at hr
        · have logged : Touches [.log] middle _ := logLine_touches (by decide) .debug
            "Tracking node whose URL is bound elsewhere" middle
          exact tracked (logged .naming (by decide))
            ((logged.mono (by decide)).runtime_eq.trans hs) hr
        · exact tracked rfl hs hr

end Node

/-! ## Virtual nodes -/

namespace VirtualNode

/-- The ways in which the registration of a group can end. -/
inductive Enrolls (name : String) (replaceIfBound : Bool) (owner : RuntimeHandle)
    (members : List Url) (site : Site) : Except RuntimeError VirtualNodeGroup → Site → Prop where
  /-- The name stands for nothing. -/
  | unnamed {e : RuntimeError} (hu : site.runtime.entryUrl name = .error e) :
    Enrolls name replaceIfBound owner members site (.error e) site
  /-- The URL is not registered. -/
  | refused {url : Url} {e : RuntimeError} {site' : Site}
    (hu : site.runtime.entryUrl name = .ok url)
    (he : site.naming.enterResult site.runtime.strict url replaceIfBound = .error e)
    (naming : site'.naming = site.naming.enter url owner replaceIfBound)
    (hs : Touches [.naming, .log] site site') :
    Enrolls name replaceIfBound owner members site (.error e) site'
  | enrolled {url : Url} {outcome : RegisterOutcome} {group : VirtualNodeGroup} {site' : Site}
    (hu : site.runtime.entryUrl name = .ok url)
    (he : site.naming.enterResult site.runtime.strict url replaceIfBound = .ok outcome)
    (naming : site'.naming = site.naming.enter url owner replaceIfBound)
    (groups : site'.runtime.groups = site.runtime.groups.enroll (key name) url members)
    (hg : site'.runtime.groups[key name]? = some group)
    (hs : Touches [.naming, .log, .groups, .events] site site') :
    Enrolls name replaceIfBound owner members site (.ok group) site'

/-- What is done once the URL is registered. -/
def track (key : String) (url : Url) (members : List Url) : Action VirtualNodeGroup := do
  modifyGroups (·.enroll key url members)
  logLine .info "Virtual node registered"
  let runtime := (← get).runtime
  publish (.virtualNodeRegistered runtime.url key url)
  return (runtime.groups[key]?).getD ⟨key, url, []⟩

theorem run_track (key : String) (url : Url) (members : List Url) (site : Site) :
    ∃ group site', (attempt (track key url members)).run site = (.ok group, site') ∧
      site'.naming = site.naming ∧
      site'.runtime.groups = site.runtime.groups.enroll key url members ∧
      site'.runtime.groups[key]? = some group := by
  have told : Moves (Touches [.log, .events]) (do
      logLine .info "Virtual node registered"
      publish (.virtualNodeRegistered site.runtime.url key url) : Work Unit) :=
    .bind (logLine_touches (by decide) _ _) fun _ => publish_touches (by decide) (by decide) _
  have last := told ((modifyGroups (·.enroll key url members)).run site).2
  have groups := last .groups (by decide)
  refine ⟨_, _, rfl, last .naming (by decide), groups, (congrArg (·[key]?) groups).trans ?_⟩
  show (site.runtime.groups.enroll key url members)[key]? =
    some (((site.runtime.groups.enroll key url members)[key]?).getD _)
  rw [GroupTable.getElem?_enroll, if_pos rfl, Option.getD_some]

theorem run_register {name : String} {replaceIfBound : Bool} {owner : RuntimeHandle}
    {members : List Url} {site site' : Site} {result : Except RuntimeError VirtualNodeGroup}
    (hr : (attempt (register name replaceIfBound owner members)).run site = (result, site')) :
    Enrolls name replaceIfBound owner members site result site' := by
  have touched := register_touches name replaceIfBound owner members site
  rw [hr] at touched
  rw [register, Runtime.run_entryUrl] at hr
  cases hu : site.runtime.entryUrl name with
  | error e =>
    rw [hu] at hr
    cases hr
    exact .unnamed hu
  | ok url =>
    rw [hu] at hr
    dsimp only at hr
    rw [run_attempt_bind] at hr
    rcases hreg : (attempt (Registry.register url owner replaceIfBound)).run site with
      ⟨registered, middle⟩
    obtain ⟨hresult, hn, hs⟩ := Registry.run_register hreg
    have ht : Touches [.naming, .log] site _ :=
      Registry.register_touches (by decide) (by decide) url owner replaceIfBound site
    rw [hreg] at hr ht
    cases registered with
    | error e =>
      cases hr
      exact .refused hu hresult.symm hn ht
    | ok outcome =>
      have hr : (attempt (track (key name) url members)).run middle = (result, site') := hr
      obtain ⟨group, last, hrun, naming, groups, hg⟩ := run_track (key name) url members middle
      obtain ⟨rfl, rfl⟩ := Prod.mk.inj (hrun.symm.trans hr)
      rw [hs] at groups
      exact .enrolled hu hresult.symm (naming.trans hn) groups hg touched

end VirtualNode

/-! ## Running runtimes -/

namespace Runtime

theorem run_ensureRunning {α : Type} (f : Unit → Action α) (site : Site) :
    (attempt (ensureRunning >>= f)).run site =
      if site.runtime.state = .running then (attempt (f ())).run site
      else (.error (.shutDown site.runtime.url.display), site) := by
  rw [ensureRunning, run_attempt_bind, run_attempt_ask]
  by_cases h : site.runtime.state = .running
  · simp only [h, if_true]
  · simp only [h, if_false]

theorem run_createLocalNode {spec : NodeSpec} {site site' : Site} {result : Except RuntimeError Url}
    (hr : (attempt (createLocalNode spec)).run site = (result, site')) :
    (site.runtime.state ≠ .running ∧ result = .error (.shutDown site.runtime.url.display) ∧
        site' = site) ∨
      site.runtime.state = .running ∧ ∃ created, result = created.map (·.url) ∧
        Node.Creates spec site.runtime.handle site created site' := by
  rw [createLocalNode, run_ensureRunning] at hr
  split at hr <;> rename_i hs
  · rw [run_attempt_get_bind, run_attempt_bind] at hr
    rcases hc : (attempt (Node.create spec site.runtime.handle)).run site with ⟨created, last⟩
    rw [hc] at hr
    refine .inr ⟨hs, created, ?_⟩
    cases created <;> cases hr <;> exact ⟨rfl, Node.run_create hc⟩
  · cases hr
    exact .inl ⟨hs, rfl, rfl⟩

theorem run_registerVirtualNode {name : String} {replaceIfBound : Bool} {site site' : Site}
    {result : Except RuntimeError Url}
    (hr : (attempt (registerVirtualNode name replaceIfBound)).run site = (result, site')) :
    (site.runtime.state ≠ .running ∧ result = .error (.shutDown site.runtime.url.display) ∧
        site' = site) ∨
      site.runtime.state = .running ∧ ∃ enrolled, result = enrolled.map (·.url) ∧
        VirtualNode.Enrolls name replaceIfBound site.runtime.handle
          (site.runtime.nodes.taggedWith name) site enrolled site' := by
  rw [registerVirtualNode, run_ensureRunning] at hr
  split at hr <;> rename_i hs
  · rw [run_attempt_get_bind, run_attempt_bind] at hr
    rcases hc : (attempt (VirtualNode.register name replaceIfBound site.runtime.handle
      (site.runtime.nodes.taggedWith name))).run site with ⟨enrolled, last⟩
    rw [hc] at hr
    refine .inr ⟨hs, enrolled, ?_⟩
    cases enrolled <;> cases hr <;> exact ⟨rfl, VirtualNode.run_register hc⟩
  · cases hr
    exact .inl ⟨hs, rfl, rfl⟩

/-! ### What is gained -/

theorem register_gains (url : Url) (replaceIfBound : Bool) :
    Moves Gains (attempt (register url replaceIfBound)) := by
  intro site
  rw [register, run_ensureRunning]
  split
  · rw [run_attempt_get_bind]
    exact Registry.register_gains url replaceIfBound site
  · exact refl_of Gains site

theorem createLocalNode_gains (spec : NodeSpec) :
    Moves Gains (attempt (createLocalNode spec)) := by
  intro site
  rcases hr : (attempt (createLocalNode spec)).run site with ⟨result, site'⟩
  rcases run_createLocalNode hr with ⟨-, -, rfl⟩ | ⟨-, created, -, hc⟩
  · exact refl_of Gains site'
  cases hc with
  | unnamed hu => exact refl_of Gains site
  | kept hu ht hk hs => exact hs.gains (by decide) (by decide)
  | refused hu hk he naming hs => exact .of_enter naming (hs .identity (by decide))
  | installed hu hk he naming nodes groups hs => exact .of_enter naming (hs .identity (by decide))

theorem registerVirtualNode_gains (name : String) (replaceIfBound : Bool) :
    Moves Gains (attempt (registerVirtualNode name replaceIfBound)) := by
  intro site
  rcases hr : (attempt (registerVirtualNode name replaceIfBound)).run site with ⟨result, site'⟩
  rcases run_registerVirtualNode hr with ⟨-, -, rfl⟩ | ⟨-, enrolled, -, he⟩
  · exact refl_of Gains site'
  cases he with
  | unnamed hu => exact refl_of Gains site
  | refused hu he naming hs => exact .of_enter naming (hs .identity (by decide))
  | enrolled hu he naming groups hg hs => exact .of_enter naming (hs .identity (by decide))

end Runtime

end ActiveObjects

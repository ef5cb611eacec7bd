import ActiveObjects.Proofs.Event.Announcements
import ActiveObjects.Proofs.Event.View
import ActiveObjects.Proofs.Node.Clearance
import ActiveObjects.Proofs.Runtime.Creation

/-!
# Following a runtime by its events

Every change of the nodes, groups and peers is announced right after it, and nothing else is
announced that the picture depends on. So an observer who had the right picture before an operation
has the right one after it.
-/

namespace ActiveObjects

open Site

/-- The events of this topic are about nodes, groups or peers. -/
def EventTopic.drawn : EventTopic → Bool
  | nodeCreated | nodeKilled | virtualNodeRegistered | virtualNodeUnregistered | peerRegistered
  | peerUnregistered => true
  | _ => false

theorem DirectoryView.apply_of_not_drawn (view : DirectoryView) {event : RuntimeEvent}
    (h : event.topic.drawn = false) : view.apply event = view := by
  cases event <;> first | rfl | simp [RuntimeEvent.topic, EventTopic.drawn] at h

theorem DirectoryView.replay_of_not_drawn (view : DirectoryView) {events : List RuntimeEvent}
    (h : ∀ event ∈ events, event.topic.drawn = false) : view.replay events = view := by
  apply List.foldlRecOn (motive := (· = view)) events apply rfl
  rintro _ rfl event he
  exact apply_of_not_drawn _ (h event he)

/-- The same runtime later, with what was published on the way. An observer who has the picture of
the first and hears of this gets the picture of the second. -/
structure Runtime.FollowedBy (runtime runtime' : Runtime) : Prop where
  id : runtime'.id = runtime.id
  later : ∃ later, runtime'.events.published = runtime.events.published ++ later ∧
    runtime'.view = runtime.view.replay later

theorem Runtime.FollowedBy.refl (runtime : Runtime) : runtime.FollowedBy runtime :=
  ⟨rfl, [], (List.append_nil _).symm, rfl⟩

theorem Runtime.FollowedBy.trans {runtime runtime' runtime'' : Runtime}
    (h : runtime.FollowedBy runtime') (h' : runtime'.FollowedBy runtime'') :
    runtime.FollowedBy runtime'' := by
  obtain ⟨later, hl, hv⟩ := h.later
  obtain ⟨later', hl', hv'⟩ := h'.later
  refine ⟨h'.id.trans h.id, later ++ later', ?_, ?_⟩
  · rw [hl', hl, List.append_assoc]
  · rw [hv', hv, DirectoryView.replay_append]

/-- The picture of the runtime at a site can be followed. -/
def Replays (s s' : Site) : Prop := s.runtime.FollowedBy s'.runtime

instance : IsPreorder Site Replays where
  refl s := .refl s.runtime
  trans _ _ _ := .trans

/-! ## Work that leaves the picture -/

section

variable {α : Type} {parts : List Part} {s s' : Site}

theorem Touches.view (h : Touches parts s s') (hn : .nodes ∉ parts) (hg : .groups ∉ parts)
    (hd : .directory ∉ parts) : s'.runtime.view = s.runtime.view := by
  have nodes : s'.runtime.nodes = s.runtime.nodes := h .nodes hn
  have groups : s'.runtime.groups = s.runtime.groups := h .groups hg
  have directory : s'.runtime.directory = s.runtime.directory := h .directory hd
  rw [Runtime.view, nodes, groups, directory]
  rfl

/-- What is published on the way does not matter. -/
theorem Announces.replays {topics : List EventTopic} (h : Announces topics s s')
    (hk : ∀ topic ∈ topics, topic.drawn = false) (hi : s'.runtime.id = s.runtime.id)
    (hv : s'.runtime.view = s.runtime.view) : Replays s s' := by
  obtain ⟨later, hl, he⟩ := h
  refine ⟨hi, later, hl, ?_⟩
  rw [hv, DirectoryView.replay_of_not_drawn _ fun event hm => hk _ (he event hm)]

theorem Touches.replays (h : Touches parts s s') (hi : .identity ∉ parts) (hn : .nodes ∉ parts)
    (hg : .groups ∉ parts) (hd : .directory ∉ parts) (he : .events ∉ parts) : Replays s s' := by
  have silent : Announces [] s s' := h.announces he
  exact silent.replays (fun _ hm => nomatch hm) (h .identity hi).1 (h.view hn hg hd)

theorem Touches.unseen (h : Touches [.naming, .log] s s') : Replays s s' :=
  h.replays (by decide) (by decide) (by decide) (by decide) (by decide)

theorem Moves.unseen {work : Work α} (h : Moves (Touches [.naming, .log]) work) :
    Moves Replays work :=
  h.mono fun _ _ ht => ht.unseen

theorem Site.logLine_replays (level : LogLevel) (message : String) :
    Moves Replays (logLine level message) :=
  .unseen (logLine_touches (by decide) level message)

/-! ## Changes that are announced -/

/-- A change of the tables and the event that tells of it. -/
theorem Site.publish_replays {event : RuntimeEvent} (middle : Site)
    (hi : middle.runtime.id = s.runtime.id) (he : middle.runtime.events = s.runtime.events)
    (hv : middle.runtime.view = s.runtime.view.apply event) :
    Replays s ((publish event).run middle).2 := by
  have told := (run_publish event middle).2
  rw [Replays, told]
  refine ⟨hi, [event], ?_, hv⟩
  rw [← he]
  rfl

/-- The same with a line of the log in between. -/
theorem Site.log_publish_replays {event : RuntimeEvent} {middle : Site}
    (hi : middle.runtime.id = s.runtime.id) (he : middle.runtime.events = s.runtime.events)
    (hv : middle.runtime.view = s.runtime.view.apply event) (level : LogLevel) (message : String) :
    Replays s ((do logLine level message; publish event : Work Unit).run middle).2 :=
  publish_replays ((logLine level message).run middle).2 hi he hv

end

/-! ## Virtual nodes -/

namespace VirtualNode

theorem track_replays (key : String) (url : Url) (members : List Url) :
    Moves Replays (attempt (track key url members)) := by
  intro site
  refine log_publish_replays (s := site) ?_ ?_ ?_ .info "Virtual node registered"
  · rfl
  · rfl
  · exact DirectoryView.ext rfl (site.runtime.groups.urls_enroll key url members) rfl

theorem register_replays (name : String) (replaceIfBound : Bool) (owner : RuntimeHandle)
    (members : List Url) :
    Moves Replays (attempt (register name replaceIfBound owner members)) := by
  refine .attempt_bind (.attempt_ask _) fun url => .attempt_bind (.attempt_ask _) fun _ => ?_
  refine .attempt_bind (.unseen ?_) fun _ => track_replays (key name) url members
  exact Registry.register_touches (by decide) (by decide) url owner replaceIfBound

/-- What is done once the URL is unbound. -/
theorem forget_replays (key : String) (owner : Url) : Moves Replays (do
    modifyGroups (·.erase key)
    logLine .info "Virtual node unregistered"
    publish (.virtualNodeUnregistered owner key) : Work Unit) := by
  intro site
  refine log_publish_replays (s := site) ?_ ?_ ?_ .info "Virtual node unregistered"
  · rfl
  · rfl
  · exact DirectoryView.ext rfl (site.runtime.groups.urls_erase key) rfl

theorem unregister_replays (name : String) : Moves Replays (attempt (unregister name)) := by
  have unbound (url : Url) : Moves Replays (attempt (Registry.unregister url)) :=
    .unseen (Registry.unregister_touches (by decide) (by decide) url)
  refine .attempt_bind .attempt_get fun site => ?_
  dsimp only
  cases site.runtime.groups.find? name with
  | some group =>
    refine .attempt_bind (.attempt_pure _) fun url => .attempt_bind (unbound url) fun outcome => ?_
    exact forget_replays (key name) site.runtime.url
  | none =>
    refine .attempt_bind (.attempt_ask _) fun url => .attempt_bind (unbound url) fun outcome => ?_
    exact .attempt_bind (.attempt_lift (logLine_replays _ _)) fun _ => .attempt_pure _

theorem unregisterAll_replays : Moves Replays unregisterAll := by
  refine .bind .get fun site => .foldlM (fun report group => ?_) _ _
  refine .bind (unregister_replays _) fun result => ?_
  rcases result with e | (_ | _)
  · exact .bind (logLine_replays _ _) fun _ => .pure _
  · exact .pure _
  · exact .bind (logLine_replays _ _) fun _ => .pure _

end VirtualNode

/-! ## Nodes -/

namespace Node

theorem track_replays (spec : NodeSpec) (url : Url) :
    Moves Replays (attempt (track spec url)) := by
  intro site
  generalize hnode : ofSpec spec url site.runtime = node
  have hurl : node.url = url := hnode ▸ rfl
  obtain ⟨nodes, groups⟩ := install_tables node site
  rw [hurl] at nodes groups
  have installed := install_touches node site
  have told : Replays site ((do
      logLine .info "Node created"
      publish (.nodeCreated node.owner url node.jobId node.virtualNode) : Work Unit).run
        ((install node).run site).2).2 := by
    apply log_publish_replays (installed .identity (by decide)).1 (installed .events (by decide))
    apply DirectoryView.ext
    · exact (congrArg NodeTable.jobs nodes).trans (site.runtime.nodes.jobs_insert url node)
    · exact (congrArg GroupTable.urls groups).trans (GroupTable.urls_regroup node _ _)
    · exact congrArg AcquaintanceDirectory.names (installed .directory (by decide))
  subst hnode
  exact told

theorem create_replays (spec : NodeSpec) (owner : RuntimeHandle) :
    Moves Replays (attempt (create spec owner)) := by
  have logged (level : LogLevel) (message : String) :
      Moves Replays (attempt (logLine level message)) := .attempt_lift (logLine_replays _ _)
  refine .attempt_bind (.attempt_ask _) fun url => .attempt_bind (.attempt_ask _) fun _ => ?_
  refine .attempt_bind .attempt_get fun site => ?_
  dsimp only
  split
  · exact .attempt_bind (logged _ _) fun _ => .attempt_pure _
  · refine .attempt_bind (.unseen ?_) fun _ => .attempt_ite ?_ (track_replays spec url)
    · exact Registry.register_touches (by decide) (by decide) url owner spec.replaceIfBound
    · exact .attempt_bind (logged _ _) fun _ => track_replays spec url

theorem tearDown_replays (url : Url) : Moves Replays (tearDown url) := by
  intro site
  rw [Replays, (run_tearDown url site).2]
  refine ⟨rfl, [.nodeKilled site.runtime.url url], rfl, ?_⟩
  apply DirectoryView.ext
  · exact site.runtime.nodes.jobs_erase url
  · exact site.runtime.groups.urls_detach url
  · rfl

theorem kill_replays (name : String) : Moves Replays (attempt (kill name)) :=
  kill_moves (fun _ _ h => h.unseen) tearDown_replays name

theorem killAll_replays : Moves Replays killAll :=
  killAll_moves (fun _ _ h => h.unseen) tearDown_replays

theorem setDefaultTag_replays (tag : String) : Moves Replays (setDefaultTag tag) := by
  intro site
  obtain ⟨nodes, groups⟩ := setDefaultTag_tables tag site
  have touched := setDefaultTag_touches tag site
  have announced : Announces [] site ((setDefaultTag tag).run site).2 :=
    touched.announces (by decide)
  apply announced.replays (fun _ hm => nomatch hm) (touched .identity (by decide)).1
  apply DirectoryView.ext
  · exact (congrArg NodeTable.jobs nodes).trans (site.runtime.nodes.jobs_tagUntagged tag)
  · exact (congrArg GroupTable.urls groups).trans (GroupTable.urls_foldl_attach _ tag _)
  · exact congrArg AcquaintanceDirectory.names (touched .directory (by decide))

end Node

/-! ## Runtimes -/

namespace Runtime

theorem createLocalNode_replays (spec : NodeSpec) :
    Moves Replays (attempt (createLocalNode spec)) := by
  refine .attempt_bind (.attempt_ask _) fun _ => .attempt_bind .attempt_get fun site => ?_
  exact .attempt_bind (Node.create_replays spec _) fun _ => .attempt_pure _

theorem registerVirtualNode_replays (name : String) (replaceIfBound : Bool) :
    Moves Replays (attempt (registerVirtualNode name replaceIfBound)) := by
  refine .attempt_bind (.attempt_ask _) fun _ => .attempt_bind .attempt_get fun site => ?_
  exact .attempt_bind (VirtualNode.register_replays name _ _ _) fun _ => .attempt_pure _

theorem registerRuntime_replays (peer : PeerRuntime) :
    Moves Replays (attempt (registerRuntime peer)) := by
  refine .attempt_bind (.attempt_ask _) fun _ => fun site => ?_
  rw [run_attempt_bind, run_attempt_lift]
  dsimp only
  have told (middle : Site) (hm : middle.runtime =
      { site.runtime with directory := site.runtime.directory.register peer }) :
      Replays site
        ((publish (.peerRegistered middle.runtime.url peer.name)).run middle).2 := by
    apply publish_replays middle <;> rw [hm]
    exact DirectoryView.ext rfl rfl (site.runtime.directory.names_register peer)
  split
  · exact told _ rfl
  · exact told _ rfl

theorem unregisterRuntime_replays (name : String) : Moves Replays (unregisterRuntime name) := by
  refine .bind .get fun site => .ite (fun site' => ?_) (.pure _)
  refine publish_replays (s := site') _ ?_ ?_ ?_
  · rfl
  · rfl
  · exact DirectoryView.ext rfl rfl (site'.runtime.directory.names_unregister name)

/-- Acquaintances are not announced, and are not in the picture. -/
theorem modifyDirectory_replays {f : AcquaintanceDirectory → AcquaintanceDirectory}
    (hf : ∀ directory, (f directory).peers = directory.peers) :
    Moves Replays (modifyDirectory f) := by
  intro site
  refine ⟨rfl, [], (List.append_nil _).symm, ?_⟩
  refine DirectoryView.ext rfl rfl ?_
  exact congrArg (fun peers => Std.ExtTreeSet.ofList peers.keys) (hf site.runtime.directory)

theorem addAcquaintance_replays (name : String) : Moves Replays (addAcquaintance name) := by
  have added : Moves Replays (modifyDirectory (·.add name)) := by
    apply modifyDirectory_replays
    intro directory
    unfold AcquaintanceDirectory.add
    split <;> rfl
  refine .bind .get fun site => ?_
  refine .ite (.bind (logLine_replays _ _) fun _ => ?_) ?_ <;> exact .bind added fun _ => .pure _

theorem removeAcquaintance_replays (name : String) : Moves Replays (removeAcquaintance name) := by
  refine .bind .get fun site => .bind ?_ fun _ => .pure _
  exact modifyDirectory_replays fun _ => rfl

theorem boot_replays (config : RuntimeConfig) : Moves Replays (attempt (boot config)) := by
  refine .attempt_bind .attempt_get fun site => .attempt_bind (.unseen ?_) fun _ => ?_
  · exact Registry.register_touches (by decide) (by decide) _ _ _
  refine .attempt_bind (.attempt_lift (logLine_replays _ _)) fun _ => ?_
  refine .attempt_bind (.attempt_lift fun site => publish_replays _ rfl rfl rfl) fun _ => ?_
  refine .attempt_bind (.attempt_forM (fun name => ?_) _) fun _ => .attempt_forM (fun spec => ?_) _
  · exact .attempt_discard (registerVirtualNode_replays name true)
  · exact .attempt_discard (createLocalNode_replays _)

theorem kill_replays : Moves Replays kill := by
  refine kill_of_stages ?_ Node.killAll_replays VirtualNode.unregisterAll_replays
    (fun url => .unseen (Registry.unregister_touches (by decide) (by decide) url)) ?_
  · intro s s' _ hs
    rw [Replays, hs, beginShutdown_eq]
    exact ⟨rfl, [], (List.append_nil _).symm, rfl⟩
  · intro s s' _ hs
    rw [Replays, hs, halt]
    split
    · exact ⟨rfl, [], (List.append_nil _).symm, rfl⟩
    · exact ⟨rfl, [.runtimeStopped s.runtime.url], rfl, rfl⟩

/-- Work on bodies: it announces what is not in the picture. -/
theorem bodies_replay {α : Type} {work : Work α} {parts : List Part} {topics : List EventTopic}
    (h : Moves (Touches parts) work) (ha : Moves (Announces topics) work)
    (hp : ∀ part ∈ [Part.identity, .nodes, .groups, .directory], part ∉ parts)
    (ht : ∀ topic ∈ topics, topic.drawn = false) : Moves Replays work := by
  intro site
  have same := h site
  apply (ha site).replays ht (same .identity (hp .identity (by simp))).1
  exact same.view (hp .nodes (by simp)) (hp .groups (by simp)) (hp .directory (by simp))

theorem beginMigration_replays (id : BodyId) : Moves Replays (attempt (beginMigration id)) :=
  (beginMigration_touches id).mono fun _ _ h =>
    h.replays (by decide) (by decide) (by decide) (by decide) (by decide)

theorem receiveBody_replays (node : String) (body : Body) :
    Moves Replays (attempt (receiveBody node body)) :=
  bodies_replay (receiveBody_touches node body) (receiveBody_announces node body) (by decide)
    (by decide)

theorem endMigration_replays (id : BodyId) (left target : Url)
    (answer : Except RuntimeError BodyHandle) :
    Moves Replays (attempt (endMigration id left target answer)) :=
  bodies_replay (endMigration_touches id left target answer)
    (endMigration_announces id left target answer) (by decide) (by decide)

end Runtime

/-- An observer can follow every call. -/
theorem Call.action_replays (constructors : ConstructorRegistry) (call : Call) :
    Moves Replays (attempt (call.action constructors)) := by
  cases call with
  | createLocalNode spec => exact .attempt_discard (Runtime.createLocalNode_replays spec)
  | killNode name => exact .attempt_discard (Node.kill_replays name)
  | killAllNodes => exact .attempt_discard (.attempt_lift Node.killAll_replays)
  | setDefaultTag tag =>
    exact .attempt_bind (.attempt_ask _) fun _ => .attempt_lift (Node.setDefaultTag_replays tag)
  | registerVirtualNode name replaceIfBound =>
    exact .attempt_discard (Runtime.registerVirtualNode_replays name replaceIfBound)
  | unregisterVirtualNode name => exact .attempt_discard (VirtualNode.unregister_replays name)
  | unregisterAllVirtualNodes =>
    exact .attempt_discard (.attempt_lift VirtualNode.unregisterAll_replays)
  | registerRuntime peer => exact Runtime.registerRuntime_replays peer
  | unregisterRuntime name => exact .attempt_lift (Runtime.unregisterRuntime_replays name)
  | addAcquaintance name =>
    exact .attempt_discard (.attempt_lift (Runtime.addAcquaintance_replays name))
  | removeAcquaintance name =>
    exact .attempt_discard (.attempt_lift (Runtime.removeAcquaintance_replays name))
  | kill => exact .attempt_discard (.attempt_lift Runtime.kill_replays)
  | _ =>
    apply Runtime.bodies_replay (action_touches constructors _) (action_announces constructors _)
    · simp [footprint]
    · simp [topics, EventTopic.drawn]

end ActiveObjects

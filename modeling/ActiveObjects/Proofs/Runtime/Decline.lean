import ActiveObjects.Proofs.Node.Clearance
import ActiveObjects.Proofs.Node.Presence

/-!
# Runtimes that are shut down

Once a runtime is not running any more, it only loses what it has. Operations that create something
are refused; cleaning up, and what is left of migrations under way, may take something away or put a
body back to service. So nothing is gained by any run, whatever the other runtimes do.
-/

namespace ActiveObjects

open Site

/-! ## What is lost -/

/-- Groups go, or lose members. -/
def GroupTable.Shrinks (groups groups' : GroupTable) : Prop :=
  ∀ (key : String) (group' : VirtualNodeGroup), groups'[key]? = some group' →
    ∃ group, groups[key]? = some group ∧ group'.name = group.name ∧ group'.url = group.url ∧
      group'.members.Sublist group.members

theorem GroupTable.Shrinks.refl (groups : GroupTable) : groups.Shrinks groups :=
  fun _ group hg => ⟨group, hg, rfl, rfl, .refl _⟩

theorem GroupTable.Shrinks.trans {groups groups' groups'' : GroupTable}
    (h : groups.Shrinks groups') (h' : groups'.Shrinks groups'') : groups.Shrinks groups'' := by
  intro key group'' hg
  obtain ⟨group', hg, name, url, members⟩ := h' key group'' hg
  obtain ⟨group, hg, name', url', members'⟩ := h key group' hg
  exact ⟨group, hg, name.trans name', url.trans url', members.trans members'⟩

/-- Bodies go, or return to service. No checkpoint is applied. -/
structure BodyTable.Shrinks (table table' : BodyTable) : Prop where
  hosted (id : BodyId) (hosted' : HostedBody) : table'.hosted? id = some hosted' →
    ∃ hosted, table.hosted? id = some hosted ∧
      (hosted' = hosted ∨ hosted' = { hosted with status := .active })
  lastCheckpoint (id : BodyId) : table'.lastCheckpoint? id = table.lastCheckpoint? id

namespace BodyTable

variable {table table' table'' : BodyTable}

theorem Shrinks.trans (h : table.Shrinks table') (h' : table'.Shrinks table'') :
    table.Shrinks table'' where
  hosted id hosted'' hh := by
    obtain ⟨hosted', hh, hs⟩ := h'.hosted id hosted'' hh
    obtain ⟨hosted, hh, hs'⟩ := h.hosted id hosted' hh
    refine ⟨hosted, hh, ?_⟩
    rcases hs with rfl | rfl <;> rcases hs' with rfl | rfl
    · exact .inl rfl
    · exact .inr rfl
    · exact .inr rfl
    · exact .inr rfl
  lastCheckpoint id := (h'.lastCheckpoint id).trans (h.lastCheckpoint id)

theorem Sheds.shrinks (h : table.Sheds table') : table.Shrinks table' where
  hosted id hosted' hh := by
    rcases h.hosted? id with gone | kept
    · exact nomatch gone.symm.trans hh
    · exact ⟨hosted', kept.symm.trans hh, .inl rfl⟩
  lastCheckpoint := h.lastCheckpoint?

theorem abortMigration_shrinks (table : BodyTable) (id : BodyId) :
    table.Shrinks (table.abortMigration id) where
  hosted other hosted' hh := by
    rw [abortMigration, hosted?_setStatus] at hh
    split at hh
    · obtain ⟨hosted, hf, rfl⟩ := Option.map_eq_some_iff.1 hh
      exact ⟨hosted, hf, .inr rfl⟩
    · exact ⟨hosted', hh, .inl rfl⟩
  lastCheckpoint _ := rfl

theorem completeMigration_sheds (table : BodyTable) (id : BodyId) :
    table.Sheds (table.completeMigration id) where
  hosted? other := by
    rw [hosted?_completeMigration]
    split
    · exact .inl rfl
    · exact .inr rfl
  lastCheckpoint? _ := rfl

end BodyTable

/-- Nothing is gained: nodes, groups, bodies and peers that are there were there before. -/
structure Runtime.Dwindles (runtime runtime' : Runtime) : Prop where
  handle : runtime'.handle = runtime.handle
  state : runtime'.state = .running → runtime.state = .running
  nodes (url : Url) (node : Node) :
    runtime'.nodes[url]? = some node → runtime.nodes[url]? = some node
  groups : runtime.groups.Shrinks runtime'.groups
  bodies : runtime.bodies.Shrinks runtime'.bodies
  peers (name : String) (peer : PeerRuntime) :
    runtime'.directory.peer? name = some peer → runtime.directory.peer? name = some peer

namespace Runtime.Dwindles

variable {runtime runtime' runtime'' : Runtime}

theorem refl (runtime : Runtime) : runtime.Dwindles runtime where
  handle := rfl
  state h := h
  nodes _ _ h := h
  groups := .refl _
  bodies := (BodyTable.Sheds.refl _).shrinks
  peers _ _ h := h

theorem trans (h : runtime.Dwindles runtime') (h' : runtime'.Dwindles runtime'') :
    runtime.Dwindles runtime'' where
  handle := h'.handle.trans h.handle
  state hs := h.state (h'.state hs)
  nodes url node hn := h.nodes url node (h'.nodes url node hn)
  groups := h.groups.trans h'.groups
  bodies := h.bodies.trans h'.bodies
  peers name peer hp := h.peers name peer (h'.peers name peer hp)

/-- Tables that are touched must gain nothing. -/
theorem of_touches {parts : List Part} {s s' : Site} (h : Touches parts s s')
    (hi : .identity ∉ parts ∧ .state ∉ parts ∧ .nodes ∉ parts)
    (hg : .groups ∈ parts → s.runtime.groups.Shrinks s'.runtime.groups)
    (hb : .bodies ∈ parts → s.runtime.bodies.Shrinks s'.runtime.bodies)
    (hd : .directory ∈ parts → ∀ name peer, s'.runtime.directory.peer? name = some peer →
      s.runtime.directory.peer? name = some peer) :
    s.runtime.Dwindles s'.runtime := by
  obtain ⟨identity, state, nodes⟩ := hi
  have state : s'.runtime.state = s.runtime.state := h .state state
  have nodes : s'.runtime.nodes = s.runtime.nodes := h .nodes nodes
  have same := refl s.runtime
  refine ⟨(h .identity identity).handle_eq, state ▸ same.state, nodes ▸ same.nodes, ?_, ?_, ?_⟩
  · by_cases hp : .groups ∈ parts
    · exact hg hp
    · rw [show s'.runtime.groups = s.runtime.groups from h .groups hp]
      exact same.groups
  · by_cases hp : .bodies ∈ parts
    · exact hb hp
    · rw [show s'.runtime.bodies = s.runtime.bodies from h .bodies hp]
      exact same.bodies
  · by_cases hp : .directory ∈ parts
    · exact hd hp
    · rw [show s'.runtime.directory = s.runtime.directory from h .directory hp]
      exact same.peers

end Runtime.Dwindles

namespace Runtime

variable (runtime : Runtime)

theorem dwindles_lose (url : Url) : runtime.Dwindles (runtime.lose url) where
  handle := rfl
  state h := h
  nodes _ _ h := ((nodes_foldl_lose [url]).1 h).1
  groups key group' h := by
    rw [lose, GroupTable.getElem?_detach] at h
    obtain ⟨group, hg, rfl⟩ := Option.map_eq_some_iff.1 h
    exact ⟨group, hg, rfl, rfl, List.filter_sublist⟩
  bodies := (runtime.bodies.evict_sheds url).shrinks
  peers _ _ h := h

theorem dwindles_foldl_lose (gone : List Url) : runtime.Dwindles (gone.foldl lose runtime) := by
  induction gone generalizing runtime with
  | nil => exact .refl runtime
  | cons url gone ih => exact (runtime.dwindles_lose url).trans (ih (runtime.lose url))

theorem dwindles_beginShutdown : runtime.Dwindles runtime.beginShutdown := by
  unfold beginShutdown
  split
  · exact { Dwindles.refl runtime with state := fun h => nomatch h }
  · exact .refl runtime

theorem dwindles_halt : runtime.Dwindles runtime.halt :=
  { Dwindles.refl runtime with state := fun h => nomatch h }

end Runtime

/-! ## Operations that clean up -/

/-- A site loses bindings, and its runtime gains nothing. -/
structure Declines (s s' : Site) : Prop where
  runtime : s.runtime.Dwindles s'.runtime
  names (url : Url) (handle : RuntimeHandle) :
    s'.naming.bindings[url]? = some handle → s.naming.bindings[url]? = some handle

instance : IsPreorder Site Declines where
  refl _ := ⟨.refl _, fun _ _ h => h⟩
  trans _ _ _ h h' := ⟨h.runtime.trans h'.runtime, fun url handle hb =>
    h.names url handle (h'.names url handle hb)⟩

theorem Touches.declines {parts : List Part} {s s' : Site} (h : Touches parts s s')
    (hp : parts ⊆ [.log, .parent, .security, .events]) : Declines s s' where
  runtime := .of_touches h ⟨fun hi => absurd (hp hi) (by decide),
      fun hs => absurd (hp hs) (by decide), fun hn => absurd (hp hn) (by decide)⟩
    (fun hg => absurd (hp hg) (by decide)) (fun hb => absurd (hp hb) (by decide))
    fun hd => absurd (hp hd) (by decide)
  names url handle := by
    rw [show s'.naming = s.naming from h .naming fun hn => absurd (hp hn) (by decide)]
    exact fun h => h

theorem Registry.unregister_declines (url : Url) : Moves Declines (attempt (unregister url)) := by
  intro site
  rcases hr : (attempt (unregister url)).run site with ⟨result, site'⟩
  obtain ⟨-, hn, hs⟩ := run_unregister hr
  refine ⟨hs ▸ .refl _, fun other handle hb => ?_⟩
  rw [hn, ← Naming.releaseAll_singleton] at hb
  exact (Naming.bound_releaseAll_iff.1 hb).1

namespace VirtualNode

theorem unregister_declines (name : String) : Moves Declines (attempt (unregister name)) := by
  intro site
  have touched := unregister_touches name site
  rcases hr : (attempt (unregister name)).run site with ⟨result, site'⟩
  rw [hr] at touched
  obtain ⟨-, forgets⟩ := run_unregister hr
  constructor
  · refine .of_touches touched (by decide) (fun _ key group hg => ?_) (by simp) (by simp)
    rw [forgets.groups, Runtime.getElem?_forget] at hg
    exact ⟨group, hg.1, rfl, rfl, .refl _⟩
  · intro url handle hb
    rw [forgets.names] at hb
    exact (Naming.bound_releaseAll_iff.1 hb).1

theorem unregisterAll_declines : Moves Declines unregisterAll := by
  have logged (level : LogLevel) (message : String) : Moves Declines (logLine level message) :=
    (logLine_touches (List.mem_singleton.2 rfl) _ _).mono fun _ _ h => h.declines (by decide)
  refine .bind .get fun site => .foldlM (fun report group => ?_) _ _
  refine .bind (unregister_declines _) fun result => ?_
  rcases result with e | (_ | _)
  · exact .bind (logged _ _) fun _ => .pure _
  · exact .pure _
  · exact .bind (logged _ _) fun _ => .pure _

end VirtualNode

namespace Node

theorem tearDown_declines (url : Url) : Moves Declines (tearDown url) := by
  intro site
  obtain ⟨hn, hs⟩ := run_tearDown url site
  exact ⟨hs ▸ site.runtime.dwindles_lose url, fun other handle hb => hn ▸ hb⟩

theorem kill_declines (name : String) : Moves Declines (attempt (kill name)) := by
  refine .attempt_bind (.attempt_ask _) fun url => .attempt_bind .attempt_get fun site => ?_
  cases site.runtime.nodes[url]? with
  | none =>
    refine .attempt_bind (.attempt_lift ?_) fun _ => .attempt_pure _
    exact (logLine_touches (List.mem_singleton.2 rfl) _ _).mono fun _ _ h => h.declines (by decide)
  | some node =>
    refine .attempt_bind (Registry.unregister_declines url) fun _ => ?_
    exact .attempt_bind (.attempt_lift (tearDown_declines url)) fun _ => .attempt_pure _

theorem killAll_declines : Moves Declines killAll := by
  intro site
  obtain ⟨-, hn, hs⟩ := run_killAll site
  refine ⟨hs ▸ site.runtime.dwindles_foldl_lose _, fun url handle hb => ?_⟩
  rw [hn] at hb
  exact (Naming.bound_releaseAll_iff.1 hb).1

end Node

namespace Runtime

theorem modifyDirectory_declines {f : AcquaintanceDirectory → AcquaintanceDirectory}
    (h : ∀ directory name peer, (f directory).peer? name = some peer →
      directory.peer? name = some peer) : Moves Declines (modifyDirectory f) :=
  .modify fun site => ⟨{ Dwindles.refl site.runtime with peers := h _ }, fun _ _ hb => hb⟩

theorem unregisterRuntime_declines (name : String) : Moves Declines (unregisterRuntime name) := by
  have forgotten (directory : AcquaintanceDirectory) (other : String) (peer : PeerRuntime)
      (h : (directory.unregister name).peer? other = some peer) :
      directory.peer? other = some peer := by
    rw [AcquaintanceDirectory.unregister, AcquaintanceDirectory.peer?,
      Std.ExtTreeMap.getElem?_erase] at h
    split at h
    · cases h
    · exact h
  refine .bind .get fun site => .ite (.bind (modifyDirectory_declines forgotten) fun _ => ?_)
    (.pure _)
  have told (event : RuntimeEvent) : Moves (Touches [.log, .events]) (publish event) :=
    publish_touches (by decide) (by decide) event
  exact (told _).mono fun _ _ h => h.declines (by decide)

theorem addAcquaintance_declines (name : String) : Moves Declines (addAcquaintance name) := by
  have logged : Moves Declines (logLine .debug "Adding acquaintance") :=
    (logLine_touches (List.mem_singleton.2 rfl) _ _).mono fun _ _ h => h.declines (by decide)
  have added : Moves Declines (modifyDirectory (·.add name)) := by
    refine modifyDirectory_declines fun directory other peer h => ?_
    rw [AcquaintanceDirectory.add] at h
    split at h <;> exact h
  refine .bind .get fun site => ?_
  exact .ite (.bind logged fun _ => .bind added fun _ => .pure _) (.bind added fun _ => .pure _)

theorem removeAcquaintance_declines (name : String) : Moves Declines (removeAcquaintance name) :=
  .bind .get fun _ => .bind (modifyDirectory_declines fun _ _ _ h => h) fun _ => .pure _

theorem endMigration_declines (id : BodyId) (left target : Url)
    (answer : Except RuntimeError BodyHandle) :
    Moves Declines (attempt (endMigration id left target answer)) := by
  intro site
  have touched := endMigration_touches id left target answer site
  rcases hr : (attempt (endMigration id left target answer)).run site with ⟨result, site'⟩
  rw [hr] at touched
  obtain ⟨-, hb⟩ := run_endMigration hr
  constructor
  · refine .of_touches touched (by decide) (by simp) (fun _ => ?_) (by simp)
    rw [hb]
    cases answer with
    | error e => exact site.runtime.bodies.abortMigration_shrinks id
    | ok handle =>
      dsimp only
      split
      · exact (BodyTable.Sheds.refl _).shrinks
      · exact (site.runtime.bodies.completeMigration_sheds id).shrinks
  · intro url handle
    rw [show site'.naming = site.naming from touched .naming (by decide)]
    exact fun h => h

theorem kill_declines : Moves Declines kill := by
  refine kill_of_stages (fun s s' hn hs => ⟨?_, ?_⟩) Node.killAll_declines
    VirtualNode.unregisterAll_declines Registry.unregister_declines fun s s' hn hs => ⟨?_, ?_⟩
  · exact hs ▸ s.runtime.dwindles_beginShutdown
  · exact fun url handle hb => hn ▸ hb
  · exact hs ▸ s.runtime.dwindles_halt
  · exact fun url handle hb => hn ▸ hb

end Runtime

/-! ## What is announced -/

namespace EventTopic

/-- Something new is announced. -/
def opens : EventTopic → Bool
  | runtimeStarted | peerRegistered | nodeCreated | virtualNodeRegistered | bodyCreated
  | bodyArrived | checkpointApplied => true
  | _ => false

/-- The other topics of events. -/
def closing : List EventTopic :=
  [runtimeStopped, peerUnregistered, nodeKilled, virtualNodeUnregistered, bodyLeft]

theorem opens_of_mem_closing {topic : EventTopic} (h : topic ∈ closing) : topic.opens = false := by
  cases topic <;> first | rfl | exact absurd h (by decide)

end EventTopic

/-- Nodes go only if they are announced as killed, and nothing new is announced. -/
structure Tells (s s' : Site) : Prop where
  url : s'.runtime.url = s.runtime.url
  later : ∃ later, s'.runtime.events.published = s.runtime.events.published ++ later ∧
    (∀ event ∈ later, event.topic ∈ EventTopic.closing) ∧
    ∀ (url : Url) (node : Node), s'.runtime.nodes[url]? = some node ↔
      s.runtime.nodes[url]? = some node ∧ .nodeKilled s.runtime.url url ∉ later

instance : IsPreorder Site Tells where
  refl s := ⟨rfl, [], (List.append_nil _).symm, (fun _ h => nomatch h), by simp⟩
  trans s s' s'' h h' := by
    obtain ⟨url, later, hl, hk, hn⟩ := h
    obtain ⟨url', later', hl', hk', hn'⟩ := h'
    refine ⟨url'.trans url, later ++ later', by rw [hl', hl, List.append_assoc], ?_, ?_⟩
    · intro event he
      rcases List.mem_append.1 he with he | he
      · exact hk event he
      · exact hk' event he
    · intro other node
      rw [hn', hn, url, List.mem_append, not_or, and_assoc]

section

variable {s s' : Site} {topics : List EventTopic}

theorem Announces.tells (h : Announces topics s s') (hk : topics ⊆ EventTopic.closing)
    (hkill : .nodeKilled ∉ topics) (url : s'.runtime.url = s.runtime.url)
    (nodes : s'.runtime.nodes = s.runtime.nodes) : Tells s s' := by
  obtain ⟨later, hl, htopics⟩ := h
  refine ⟨url, later, hl, fun event he => hk (htopics event he), fun other node => ?_⟩
  rw [nodes]
  exact (and_iff_left fun hm => hkill (htopics (.nodeKilled s.runtime.url other) hm)).symm

theorem Touches.tells {parts : List Part} (h : Touches parts s s') (hi : .identity ∉ parts)
    (hn : .nodes ∉ parts) (ha : Announces topics s s') (hk : topics ⊆ EventTopic.closing)
    (hkill : .nodeKilled ∉ topics) : Tells s s' :=
  ha.tells hk hkill (h .identity hi).2.2.1 (h .nodes hn)

/-- What is not announced does not concern nodes. -/
theorem Touches.tells_of_silent {parts : List Part} (h : Touches parts s s')
    (hp : .identity ∉ parts ∧ .nodes ∉ parts ∧ .events ∉ parts) : Tells s s' := by
  have quiet : Announces [] s s' := h.announces hp.2.2
  exact h.tells hp.1 hp.2.1 quiet (by simp) (by simp)

end

namespace Node

theorem tearDown_tells (url : Url) : Moves Tells (tearDown url) := by
  intro site
  obtain ⟨-, hs⟩ := run_tearDown url site
  refine ⟨by rw [hs]; rfl, [.nodeKilled site.runtime.url url], by rw [hs]; rfl, ?_, ?_⟩
  · simp [RuntimeEvent.topic, EventTopic.closing]
  · intro other node
    rw [hs, Runtime.lose, Std.ExtTreeMap.getElem?_erase]
    by_cases hu : url = other
    · simp [hu]
    · simp [hu, Ne.symm hu]

theorem kill_tells (name : String) : Moves Tells (attempt (kill name)) :=
  kill_moves (fun _ _ h => h.tells_of_silent (by decide)) tearDown_tells name

theorem killAll_tells : Moves Tells killAll :=
  killAll_moves (fun _ _ h => h.tells_of_silent (by decide)) tearDown_tells

end Node

theorem Runtime.kill_tells : Moves Tells kill := by
  have unbound (url : Url) : Moves (Touches [.naming, .log])
      (attempt (Registry.unregister url)) :=
    Registry.unregister_touches (by decide) (by decide) _
  refine kill_of_stages (fun s s' _ hs => ?_) Node.killAll_tells ?_
    (fun url => (unbound url).mono fun _ _ h => h.tells_of_silent (by decide)) fun s s' _ hs => ?_
  · have quiet : Announces [] s s' := beginShutdown_announces hs
    refine quiet.tells (by simp) (by simp) ?_ ?_ <;> rw [hs, beginShutdown_eq]
  · exact fun site => (VirtualNode.unregisterAll_touches site).tells (by decide) (by decide)
      (VirtualNode.unregisterAll_announces site) (by decide) (by decide)
  · refine (halt_announces (List.mem_singleton.2 rfl) hs).tells (by decide) (by decide) ?_ ?_ <;>
      rw [hs] <;> rfl

/-! ## All operations -/

/-- What an operation leaves behind: if the runtime was not running, it only lost what it had. New
bindings are those of a running runtime. -/
structure Fades (s s' : Site) : Prop where
  id : s'.runtime.id = s.runtime.id
  dwindles : s.runtime.state ≠ .running → s.runtime.Dwindles s'.runtime
  tells : s.runtime.state ≠ .running → Tells s s'
  names (url : Url) (handle : RuntimeHandle) : s'.naming.bindings[url]? = some handle →
    s.naming.bindings[url]? = some handle ∨
      s.runtime.state = .running ∧ handle = s.runtime.handle

namespace Fades

variable {α : Type} {s s' : Site}

theorem of_declines (h : Declines s s') (ht : Tells s s') : Fades s s' where
  id := congrArg RuntimeHandle.id h.runtime.handle
  dwindles _ := h.runtime
  tells _ := ht
  names url handle hb := .inl (h.names url handle hb)

theorem of_gains (h : Gains s s') (hs : s.runtime.state = .running) : Fades s s' where
  id := congrArg RuntimeHandle.id h.handle
  dwindles hn := absurd hs hn
  tells hn := absurd hs hn
  names url handle hb := by
    rcases h.bound url with hk | hk
    · exact .inl (hk ▸ hb)
    · exact .inr ⟨hs, Option.some.inj (hb.symm.trans hk)⟩

/-- An operation that is refused unless the runtime is running. -/
theorem of_refused {action : Action α}
    (hr : ∀ site, site.runtime.state ≠ .running → ((attempt action).run site).2 = site)
    (hg : Moves Gains (attempt action)) : Moves Fades (attempt action) := by
  intro site
  by_cases hs : site.runtime.state = .running
  · exact of_gains (hg site) hs
  · rw [hr site hs]
    exact of_declines (refl_of Declines site) (refl_of Tells site)

end Fades

namespace Runtime

/-- What comes after the check is not done. -/
theorem run_ensureRunning_of_not {α : Type} {site : Site} (hs : site.runtime.state ≠ .running)
    (f : Unit → Action α) :
    (attempt (ensureRunning >>= f)).run site =
      (.error (.shutDown site.runtime.url.display), site) := by
  rw [run_ensureRunning, if_neg hs]

theorem beginMigration_fades (id : BodyId) : Moves Fades (attempt (beginMigration id)) :=
  .of_refused (fun _ hs => congrArg Prod.snd (run_ensureRunning_of_not hs _))
    ((beginMigration_touches id).mono fun _ _ h => h.gains (by decide) (by decide))

theorem receiveBody_fades (node : String) (body : Body) :
    Moves Fades (attempt (receiveBody node body)) :=
  .of_refused (fun _ hs => congrArg Prod.snd (run_ensureRunning_of_not hs _))
    ((receiveBody_touches node body).mono fun _ _ h => h.gains (by decide) (by decide))

theorem endMigration_fades (id : BodyId) (left target : Url)
    (answer : Except RuntimeError BodyHandle) :
    Moves Fades (attempt (endMigration id left target answer)) :=
  fun site => .of_declines (endMigration_declines id left target answer site)
    ((endMigration_touches id left target answer site).tells (by decide) (by decide)
      (endMigration_announces id left target answer site) (by decide) (by decide))

end Runtime

namespace Call

/-- The calls that are refused unless the runtime is running. -/
def opens : Call → Bool
  | register .. | createLocalNode .. | setDefaultTag .. | registerVirtualNode ..
  | registerRuntime .. | createBody .. | receiveBody .. | receiveCheckpoint .. => true
  | _ => false

theorem run_of_opens {constructors : ConstructorRegistry} {call : Call} (h : call.opens = true)
    {site : Site} (hs : site.runtime.state ≠ .running) :
    (attempt (call.action constructors)).run site =
      (.error (.shutDown site.runtime.url.display), site) := by
  have discarded {α : Type} {f : Unit → Action α} :
      (attempt (do let _ ← Runtime.ensureRunning >>= f)).run site =
        (.error (.shutDown site.runtime.url.display), site) := by
    rw [run_attempt_bind, Runtime.run_ensureRunning_of_not hs]
  cases call with
  | setDefaultTag tag => exact Runtime.run_ensureRunning_of_not hs _
  | registerRuntime peer => exact Runtime.run_ensureRunning_of_not hs _
  | register url replaceIfBound => exact discarded
  | createLocalNode spec => exact discarded
  | registerVirtualNode name replaceIfBound => exact discarded
  | createBody fresh node call isLocal => exact discarded
  | receiveBody node body => exact discarded
  | receiveCheckpoint node snapshot sequence => exact discarded
  | _ => cases h

theorem action_gains (constructors : ConstructorRegistry) {call : Call} (h : call.opens = true) :
    Moves Gains (attempt (call.action constructors)) := by
  have quiet (hn : .naming ∉ call.footprint) : Moves Gains (attempt (call.action constructors)) :=
    (action_touches constructors call).mono fun _ _ ht =>
      ht.gains hn call.identity_notMem_footprint
  cases call with
  | register url replaceIfBound =>
    exact .attempt_discard (Runtime.register_gains url replaceIfBound)
  | createLocalNode spec => exact .attempt_discard (Runtime.createLocalNode_gains spec)
  | registerVirtualNode name replaceIfBound =>
    exact .attempt_discard (Runtime.registerVirtualNode_gains name replaceIfBound)
  | setDefaultTag tag => exact quiet (by simp [footprint])
  | registerRuntime peer => exact quiet (by simp [footprint])
  | createBody fresh node call isLocal => exact quiet (by simp [footprint])
  | receiveBody node body => exact quiet (by simp [footprint])
  | receiveCheckpoint node snapshot sequence => exact quiet (by simp [footprint])
  | _ => cases h

theorem action_declines (constructors : ConstructorRegistry) {call : Call}
    (h : call.opens = false) : Moves Declines (attempt (call.action constructors)) := by
  cases call with
  | unregister url => exact .attempt_discard (Registry.unregister_declines url)
  | killNode name => exact .attempt_discard (Node.kill_declines name)
  | killAllNodes => exact .attempt_discard (.attempt_lift Node.killAll_declines)
  | unregisterVirtualNode name => exact .attempt_discard (VirtualNode.unregister_declines name)
  | unregisterAllVirtualNodes =>
    exact .attempt_discard (.attempt_lift VirtualNode.unregisterAll_declines)
  | unregisterRuntime name => exact .attempt_lift (Runtime.unregisterRuntime_declines name)
  | addAcquaintance name =>
    exact .attempt_discard (.attempt_lift (Runtime.addAcquaintance_declines name))
  | removeAcquaintance name =>
    exact .attempt_discard (.attempt_lift (Runtime.removeAcquaintance_declines name))
  | setParent parent =>
    exact .attempt_lift ((Runtime.setParent_touches parent).mono fun _ _ h =>
      h.declines (by decide))
  | setSecurityManager evaluator =>
    exact .attempt_lift ((Runtime.setSecurityManager_touches evaluator).mono fun _ _ h =>
      h.declines (by decide))
  | kill => exact .attempt_discard (.attempt_lift Runtime.kill_declines)
  | _ => cases h

theorem topics_closing {call : Call} (h : call.opens = false) :
    call.topics ⊆ EventTopic.closing := by
  cases call <;> simp_all [opens, topics, EventTopic.closing]

theorem action_tells (constructors : ConstructorRegistry) {call : Call} (h : call.opens = false) :
    Moves Tells (attempt (call.action constructors)) := by
  cases call with
  | killNode name => exact .attempt_discard (Node.kill_tells name)
  | killAllNodes => exact .attempt_discard (.attempt_lift Node.killAll_tells)
  | kill => exact .attempt_discard (.attempt_lift Runtime.kill_tells)
  | _ =>
    refine fun site => (action_touches constructors _ site).tells
      (identity_notMem_footprint _) ?_ (action_announces constructors _ site)
      (topics_closing h) ?_ <;>
      simp_all [opens, footprint, topics]

theorem action_fades (constructors : ConstructorRegistry) (call : Call) :
    Moves Fades (attempt (call.action constructors)) := by
  cases h : call.opens with
  | true =>
    exact .of_refused (fun _ hs => congrArg Prod.snd (run_of_opens h hs))
      (action_gains constructors h)
  | false =>
    exact fun site => .of_declines (action_declines constructors h site)
      (action_tells constructors h site)

end Call

end ActiveObjects

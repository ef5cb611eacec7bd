import Mathlib.Logic.Function.Basic
import ActiveObjects.Proofs.Body.Listing
import ActiveObjects.Proofs.Event.Announcements
import ActiveObjects.Proofs.Node.Clearance

/-!
# Where events say that bodies are

Events tell on which node a body is, and when it goes from there. Only of a body that migrated out
they do not tell whether it left the runtime: a migration within the runtime is announced in the
same way. An observer who knows this of each departure knows where the bodies are.
-/

namespace ActiveObjects

open Site
open Function (update)

/-- The node that a body is on. -/
def BodyTable.nodeOf? (table : BodyTable) (id : BodyId) : Option Url :=
  (table.hosted? id).map (·.nodeUrl)

/-- An observer who believes bodies to be on certain nodes, and knows of the departures to come
which ones leave the runtime. -/
structure Lookout where
  nodeOf : BodyId → Option Url
  leaving : List Bool

/-- What the observer makes of an event. -/
def Lookout.hear : Lookout → RuntimeEvent → Lookout
  | ⟨nodeOf, leaving⟩, .bodyCreated id node _ => ⟨update nodeOf id (some node), leaving⟩
  | ⟨nodeOf, leaving⟩, .bodyMigrated id node .inbound =>
    ⟨update nodeOf id (some node), leaving⟩
  | ⟨nodeOf, leaving⟩, .checkpointApplied id node _ =>
    ⟨update nodeOf id (some node), leaving⟩
  | ⟨nodeOf, leaves :: leaving⟩, .bodyMigrated id _ .outbound =>
    ⟨if leaves then update nodeOf id none else nodeOf, leaving⟩
  | ⟨nodeOf, leaving⟩, .nodeKilled _ node =>
    ⟨fun id => (nodeOf id).filter (· ≠ node), leaving⟩
  | lookout, _ => lookout

/-- The events of this topic are about bodies or about nodes that bodies may be on. -/
def EventTopic.placing : EventTopic → Bool
  | bodyCreated | bodyArrived | bodyLeft | checkpointApplied | nodeKilled => true
  | _ => false

theorem Lookout.hear_of_not_placing (lookout : Lookout) {event : RuntimeEvent}
    (h : event.topic.placing = false) : lookout.hear event = lookout := by
  cases event with
  | bodyMigrated id node direction =>
    cases direction <;> simp [RuntimeEvent.topic, EventTopic.placing] at h
  | bodyCreated | checkpointApplied | nodeKilled =>
    simp [RuntimeEvent.topic, EventTopic.placing] at h
  | _ => rfl

theorem Lookout.foldl_hear_of_not_placing (lookout : Lookout) {events : List RuntimeEvent}
    (h : ∀ event ∈ events, event.topic.placing = false) :
    events.foldl Lookout.hear lookout = lookout := by
  apply List.foldlRecOn (motive := (· = lookout)) events Lookout.hear rfl
  rintro _ rfl event he
  exact hear_of_not_placing _ (h event he)

/-! ## Tables -/

namespace BodyTable

variable {table table' : BodyTable}

theorem nodeOf?_host (table : BodyTable) (node : Url) (body : Body) (isLocal : Bool) :
    (table.host node body isLocal).nodeOf? = update table.nodeOf? body.id (some node) := by
  funext id
  rw [nodeOf?, hosted?_host, Function.update_apply]
  by_cases h : body.id = id
  · simp [h]
  · simp [h, Ne.symm h, nodeOf?]

theorem nodeOf?_setStatus (table : BodyTable) (id : BodyId) (status : BodyStatus) :
    (table.setStatus id status).nodeOf? = table.nodeOf? := by
  funext other
  rw [nodeOf?, nodeOf?, hosted?_setStatus]
  split
  · rw [Option.map_map]
    rfl
  · rfl

theorem nodeOf?_completeMigration (table : BodyTable) (id : BodyId) :
    (table.completeMigration id).nodeOf? = update table.nodeOf? id none := by
  funext other
  rw [nodeOf?, hosted?_completeMigration, Function.update_apply]
  by_cases h : id = other
  · simp [h]
  · simp [h, Ne.symm h, nodeOf?]

theorem Keyed.nodeOf?_evict (h : table.Keyed) (node : Url) :
    (table.evict node).nodeOf? = fun id => (table.nodeOf? id).filter (· ≠ node) := by
  funext id
  ext other
  simp only [nodeOf?, Option.map_eq_some_iff, Option.filter_eq_some_iff, h.hosted?_evict_iff,
    decide_eq_true_eq]
  constructor
  · rintro ⟨hosted, ⟨hf, hn⟩, rfl⟩
    exact ⟨⟨hosted, hf, rfl⟩, hn⟩
  · rintro ⟨⟨hosted, hf, rfl⟩, hn⟩
    exact ⟨hosted, ⟨hf, hn⟩, rfl⟩

theorem Keyed.nodeOf?_checkpoint (h : table.Keyed) {node : Url} {snapshot : Checkpoint}
    {sequence : UInt64} {handle : BodyHandle}
    (hc : table.checkpoint node snapshot sequence = .ok (handle, table')) :
    handle.id = snapshot.bodyId ∧ handle.nodeUrl = node ∧
      table'.nodeOf? = update table.nodeOf? snapshot.bodyId (some node) := by
  obtain ⟨isLocal, hr⟩ := h.restored_eq node snapshot
  obtain ⟨-, hhandle, -⟩ := checkpoint_eq_ok_iff.1 hc
  rw [hr] at hhandle
  subst hhandle
  refine ⟨rfl, rfl, ?_⟩
  funext id
  rw [nodeOf?, hosted?_checkpoint hc, Function.update_apply, hr]
  by_cases hid : snapshot.bodyId = id
  · simp [hid]
  · simp [hid, Ne.symm hid, nodeOf?]

end BodyTable

/-! ## Operations -/

/-- The same runtime later. An observer who knows where the bodies of the first are, and which of
the departures that are announced on the way leave it, knows where those of the second are. -/
structure Runtime.TracedBy (leaving : List Bool) (runtime runtime' : Runtime) : Prop where
  id : runtime'.id = runtime.id
  keyed : runtime'.bodies.Keyed
  later : ∃ later, runtime'.events.published = runtime.events.published ++ later ∧
    ∀ more, later.foldl Lookout.hear ⟨runtime.bodies.nodeOf?, leaving ++ more⟩ =
      ⟨runtime'.bodies.nodeOf?, more⟩

theorem Runtime.TracedBy.refl {runtime : Runtime} (h : runtime.bodies.Keyed) :
    runtime.TracedBy [] runtime :=
  ⟨rfl, h, [], (List.append_nil _).symm, fun _ => rfl⟩

theorem Runtime.TracedBy.trans {leaving leaving' : List Bool} {runtime runtime' runtime'' : Runtime}
    (h : runtime.TracedBy leaving runtime') (h' : runtime'.TracedBy leaving' runtime'') :
    runtime.TracedBy (leaving ++ leaving') runtime'' := by
  obtain ⟨later, hl, heard⟩ := h.later
  obtain ⟨later', hl', heard'⟩ := h'.later
  refine ⟨h'.id.trans h.id, h'.keyed, later ++ later', ?_, fun more => ?_⟩
  · rw [hl', hl, List.append_assoc]
  · rw [List.append_assoc, List.foldl_append, heard, heard']

/-- No departure is announced, and the bodies at the site can be located. -/
def Locates (s s' : Site) : Prop := s.runtime.bodies.Keyed → s.runtime.TracedBy [] s'.runtime

instance : IsPreorder Site Locates where
  refl _ := .refl
  trans _ _ _ h h' hk := (h hk).trans (h' (h hk).keyed)

section

variable {α : Type} {parts : List Part} {topics : List EventTopic} {s s' : Site}

/-- Work that neither moves bodies nor says so. -/
theorem Announces.locates (h : Announces topics s s')
    (hk : ∀ topic ∈ topics, topic.placing = false) (hi : s'.runtime.id = s.runtime.id)
    (hb : s'.runtime.bodies = s.runtime.bodies) : Locates s s' := by
  intro keyed
  obtain ⟨later, hl, he⟩ := h
  refine ⟨hi, hb ▸ keyed, later, hl, fun more => ?_⟩
  rw [hb]
  exact Lookout.foldl_hear_of_not_placing _ fun event hm => hk _ (he event hm)

theorem Moves.locate {work : Work α} (h : Moves (Touches parts) work)
    (ha : Moves (Announces topics) work) (hi : .identity ∉ parts) (hb : .bodies ∉ parts)
    (ht : ∀ topic ∈ topics, topic.placing = false) : Moves Locates work :=
  fun site => (ha site).locates ht (h site .identity hi).1 (h site .bodies hb)

theorem Touches.locates (h : Touches [.naming, .log] s s') : Locates s s' := by
  have silent : Announces [] s s' := h.announces (by decide)
  exact silent.locates (fun _ hm => nomatch hm) (h .identity (by decide)).1
    (h .bodies (by decide))

end

theorem Node.tearDown_locates (url : Url) : Moves Locates (tearDown url) := by
  intro site keyed
  rw [(run_tearDown url site).2]
  have evicted : (site.runtime.bodies.evict url).Keyed := keyed.sheds (BodyTable.evict_sheds ..)
  refine ⟨rfl, evicted, [.nodeKilled site.runtime.url url], rfl, fun more => ?_⟩
  rw [Runtime.lose, keyed.nodeOf?_evict url]
  rfl

/-- Bodies are put on nodes by actions that announce where. -/
theorem hosting_locates {α : Type} {action : Action α} {event : α → RuntimeEvent}
    {g : α → BodyHandle} {f : Runtime → Except RuntimeError (α × BodyTable)}
    (hp : Performs action f)
    (ht : Moves (Touches [.log, .bodies]) (attempt action))
    (hf : ∀ {runtime a table}, runtime.bodies.Keyed → f runtime = .ok (a, table) →
      table.Keyed ∧ ∀ more, Lookout.hear ⟨runtime.bodies.nodeOf?, more⟩ (event a) =
        ⟨table.nodeOf?, more⟩) :
    Moves Locates (attempt (do let a ← action; publish (event a); return g a)) := by
  intro site keyed
  rw [run_attempt_bind]
  rcases hr : (attempt action).run site with ⟨result, middle⟩
  obtain ⟨hspec, hsame⟩ := hp site result middle hr
  have touched := ht site
  rw [hr] at touched
  have id : middle.runtime.id = site.runtime.id := (touched .identity (by decide)).1
  have events : middle.runtime.events = site.runtime.events := touched .events (by decide)
  cases result with
  | error e =>
    have bodies : middle.runtime.bodies = site.runtime.bodies := hsame e rfl
    refine ⟨id, bodies ▸ keyed, [], ?_, fun more => ?_⟩
    · rw [events, List.append_nil]
    · rw [bodies]
      rfl
  | ok a =>
    obtain ⟨hkeyed, hears⟩ := hf keyed hspec.symm
    have told : ((publish (event a)).run middle).2.runtime =
        { middle.runtime with events := middle.runtime.events.publish (event a) } :=
      (run_publish (event a) middle).2
    have located : site.runtime.TracedBy [] ((publish (event a)).run middle).2.runtime := by
      rw [told]
      refine ⟨id, hkeyed, [event a], ?_, hears⟩
      rw [events]
      rfl
    exact located

namespace Runtime

theorem createBody_locates (constructors : ConstructorRegistry) (fresh : BodyId) (node : String)
    (call : ConstructorCall) (isLocal : Bool) :
    Moves Locates (attempt (createBody constructors fresh node call isLocal)) := by
  refine .attempt_bind (.attempt_ask _) fun _ => .attempt_bind (.attempt_ask _) fun host => ?_
  refine hosting_locates (performs_createOn constructors fresh host.url call isLocal)
    (BodyTable.create_touches _ _ _ _ _) ?_
  intro runtime made table keyed h
  obtain ⟨state, -, h⟩ := bind_eq_ok_iff.1 h
  cases h
  exact ⟨keyed.host _ _ _, fun more => by rw [BodyTable.nodeOf?_host]; rfl⟩

theorem receiveBody_locates (node : String) (body : Body) :
    Moves Locates (attempt (receiveBody node body)) := by
  refine .attempt_bind (.attempt_ask _) fun _ => .attempt_bind (.attempt_ask _) fun host => ?_
  refine hosting_locates (performs_receiveOn host.url body)
    (.attempt_lift (BodyTable.receive_touches _ _)) ?_
  intro runtime handle table keyed h
  cases h
  exact ⟨keyed.host _ _ _, fun more => by rw [BodyTable.nodeOf?_host]; rfl⟩

theorem receiveCheckpoint_locates (node : String) (snapshot : Checkpoint) (sequence : UInt64) :
    Moves Locates (attempt (receiveCheckpoint node snapshot sequence)) := by
  refine .attempt_bind (.attempt_ask _) fun _ => .attempt_bind (.attempt_ask _) fun host => ?_
  refine hosting_locates (performs_checkpointOn host.url snapshot sequence)
    (BodyTable.receiveCheckpoint_touches _ _ _) ?_
  intro runtime handle table keyed h
  obtain ⟨hid, hnode, places⟩ := keyed.nodeOf?_checkpoint h
  exact ⟨keyed.checkpoint h, fun more => by rw [places, hid, hnode]; rfl⟩

theorem kill_locates : Moves Locates kill := by
  have unbound (url : Url) : Moves Locates (attempt (Registry.unregister url)) := fun site =>
    (Registry.unregister_touches (by decide) (by decide) url site).locates
  refine kill_of_stages ?_ (Node.killAll_moves (fun _ _ h => h.locates) Node.tearDown_locates)
    (VirtualNode.unregisterAll_touches.locate VirtualNode.unregisterAll_announces (by decide)
      (by decide) (by decide)) unbound ?_
  · intro s s' _ hs keyed
    rw [hs, beginShutdown_eq]
    exact ⟨rfl, keyed, [], (List.append_nil _).symm, fun _ => rfl⟩
  · intro s s' _ hs keyed
    rw [hs, halt]
    split
    · exact ⟨rfl, keyed, [], (List.append_nil _).symm, fun _ => rfl⟩
    · exact ⟨rfl, keyed, [.runtimeStopped s.runtime.url], rfl, fun _ => rfl⟩

theorem boot_locates (config : RuntimeConfig) : Moves Locates (attempt (boot config)) :=
  (boot_touches config).locate (boot_announces config) (by decide) (by decide) (by decide)

theorem beginMigration_locates (id : BodyId) : Moves Locates (attempt (beginMigration id)) := by
  intro site keyed
  rcases hr : (attempt (beginMigration id)).run site with ⟨result, site'⟩
  have touched := beginMigration_touches id site
  rw [hr] at touched
  have events : site'.runtime.events = site.runtime.events := touched .events (by decide)
  obtain ⟨hspec, hsame⟩ := performs_beginMigration id site result site' hr
  obtain ⟨hkeyed, places⟩ : site'.runtime.bodies.Keyed ∧
      site'.runtime.bodies.nodeOf? = site.runtime.bodies.nodeOf? := by
    cases result with
    | error e =>
      rw [hsame e rfl]
      exact ⟨keyed, rfl⟩
    | ok copy =>
      dsimp only at hspec
      split at hspec
      · obtain ⟨_, -, ht⟩ := BodyTable.beginMigration_eq_ok_iff.1 hspec.symm
        rw [ht]
        exact ⟨keyed.setStatus _ _, BodyTable.nodeOf?_setStatus ..⟩
      · cases hspec
  refine ⟨(touched .identity (by decide)).1, hkeyed, [], ?_, fun more => ?_⟩
  · rw [events, List.append_nil]
  · rw [places]
    rfl

/-- The settling of a migration that was refused is not announced. -/
theorem endMigration_locates (id : BodyId) (left target : Url) (e : RuntimeError) :
    Moves Locates (attempt (endMigration id left target (.error e))) := by
  intro site keyed
  rcases hr : (attempt (endMigration id left target (.error e))).run site with ⟨result, site'⟩
  obtain ⟨-, -, hs⟩ := run_endMigration_error hr
  rw [hs]
  refine ⟨rfl, keyed.setStatus id .active, [], (List.append_nil _).symm, fun more => ?_⟩
  rw [BodyTable.abortMigration, BodyTable.nodeOf?_setStatus]
  rfl

/-- Of one that was taken it is announced that the body goes, whether or not it leaves the
runtime. -/
theorem endMigration_locates_leaving {id : BodyId} {left target : Url} {handle : BodyHandle}
    {result : Except RuntimeError BodyHandle} {site site' : Site}
    (hr : (attempt (endMigration id left target (.ok handle))).run site = (result, site'))
    (keyed : site.runtime.bodies.Keyed) :
    site.runtime.TracedBy [decide (target ≠ site.runtime.url)] site'.runtime := by
  obtain ⟨-, -, hs⟩ := run_endMigration_ok hr
  rw [hs]
  by_cases hu : target = site.runtime.url
  · refine ⟨rfl, by rwa [if_pos hu], [.bodyMigrated id left .outbound], rfl, fun more => ?_⟩
    simp [Lookout.hear, hu]
  · have hkeyed : (site.runtime.bodies.completeMigration id).Keyed := keyed.completeMigration id
    refine ⟨rfl, by rwa [if_neg hu], [.bodyMigrated id left .outbound], rfl, fun more => ?_⟩
    simp [Lookout.hear, hu, BodyTable.nodeOf?_completeMigration]

end Runtime

theorem Call.action_locates (constructors : ConstructorRegistry) (call : Call) :
    Moves Locates (attempt (call.action constructors)) := by
  cases call with
  | killNode name =>
    exact .attempt_discard (Node.kill_moves (fun _ _ h => h.locates) Node.tearDown_locates name)
  | killAllNodes =>
    exact .attempt_discard
      (.attempt_lift (Node.killAll_moves (fun _ _ h => h.locates) Node.tearDown_locates))
  | createBody fresh node call isLocal =>
    exact .attempt_discard (Runtime.createBody_locates constructors fresh node call isLocal)
  | receiveBody node body => exact .attempt_discard (Runtime.receiveBody_locates node body)
  | receiveCheckpoint node snapshot sequence =>
    exact .attempt_discard (Runtime.receiveCheckpoint_locates node snapshot sequence)
  | kill => exact .attempt_discard (.attempt_lift Runtime.kill_locates)
  | _ =>
    apply (action_touches constructors _).locate (action_announces constructors _)
    · exact identity_notMem_footprint _
    · simp [footprint]
    · simp [topics, EventTopic.placing]

end ActiveObjects

import ActiveObjects.Proofs.Runtime.Footprint

/-!
# What work on names and nodes touches

The lines of the log and the events are touched by nearly all of it, the table of bodies only by
what kills nodes.
-/

namespace ActiveObjects

namespace Site

variable {α : Type} {parts : List Part}

theorem logLine_touches (hl : .log ∈ parts) (level : LogLevel) (message : String) :
    Moves (Touches parts) (logLine level message) :=
  .modify fun _ part hp => by cases part <;> simp_all [Part.Same]

/-- A line that is only written on a condition, with what comes after it. -/
theorem logIf_touches (hl : .log ∈ parts) {c : Prop} [Decidable c] {level : LogLevel}
    {message : String} {rest : Unit → Work α} (hr : Moves (Touches parts) (rest ())) :
    Moves (Touches parts) (if c then logLine level message >>= rest else rest ()) :=
  .ite (.bind (logLine_touches hl _ _) fun _ => hr) hr

theorem attempt_logIf_touches (hl : .log ∈ parts) {c : Prop} [Decidable c] {level : LogLevel}
    {message : String} {rest : Unit → Action α} (hr : Moves (Touches parts) (attempt (rest ()))) :
    Moves (Touches parts)
      (attempt (if c then liftM (logLine level message) >>= rest else rest ())) :=
  .attempt_ite (.attempt_bind (.attempt_lift (logLine_touches hl _ _)) fun _ => hr) hr

theorem modifyNodes_touches (hn : .nodes ∈ parts) (f : NodeTable → NodeTable) :
    Moves (Touches parts) (modifyNodes f) :=
  .modify fun _ part hp => by cases part <;> simp_all [Part.Same]

theorem modifyGroups_touches (hg : .groups ∈ parts) (f : GroupTable → GroupTable) :
    Moves (Touches parts) (modifyGroups f) :=
  .modify fun _ part hp => by cases part <;> simp_all [Part.Same]

theorem modifyBodies_touches (hb : .bodies ∈ parts) (f : BodyTable → BodyTable) :
    Moves (Touches parts) (modifyBodies f) :=
  .modify fun _ part hp => by cases part <;> simp_all [Part.Same]

theorem publish_touches (hl : .log ∈ parts) (he : .events ∈ parts) (event : RuntimeEvent) :
    Moves (Touches parts) (publish event) := by
  refine .bind .get fun site => logIf_touches hl ?_
  exact .modify fun _ part hp => by cases part <;> simp_all [Part.Same]

theorem run_publish (event : RuntimeEvent) (site : Site) :
    ((publish event).run site).2.naming = site.naming ∧
      ((publish event).run site).2.runtime =
        { site.runtime with events := site.runtime.events.publish event } := by
  by_cases hn : site.runtime.events.subscriberCount = 0
  · simp [publish, hn]
    exact ⟨rfl, rfl⟩
  · simp [publish, hn]
    exact ⟨rfl, rfl⟩

end Site

open Site

/-! ## Names -/

namespace Registry

variable {parts : List Part}

theorem callNaming_touches (hn : .naming ∈ parts) (hl : .log ∈ parts) (call : NamingCall)
    (url : Url) (trace : String) (traced : Naming → Bool)
    (change : Naming → Except RuntimeError Naming) :
    Moves (Touches parts) (attempt (callNaming call url trace traced change)) := by
  refine .attempt_bind .attempt_get fun site => attempt_logIf_touches hl ?_
  have put (naming : Naming) :
      Moves (Touches parts) (modify fun site => { site with naming } : Work Unit) :=
    .modify fun _ part hp => by cases part <;> simp_all [Part.Same]
  dsimp only
  cases change site.naming with
  | error e => exact .attempt_bind (.attempt_lift (put _)) fun _ => .attempt_throw e
  | ok naming => exact put _

theorem register_touches (hn : .naming ∈ parts) (hl : .log ∈ parts) (url : Url)
    (handle : RuntimeHandle) (replaceIfBound : Bool) :
    Moves (Touches parts) (attempt (register url handle replaceIfBound)) := by
  refine .attempt_bind (.attempt_outcomeOf (.attempt_ite ?_ ?_)) fun called => ?_
  · exact callNaming_touches hn hl _ _ _ _ _
  · exact callNaming_touches hn hl _ _ _ _ _
  · cases called with
    | ok u =>
      refine .attempt_ite ?_ ?_ <;>
        exact .attempt_bind (.attempt_lift (logLine_touches hl _ _)) fun _ => .attempt_pure _
    | error e =>
      refine .attempt_ite (.attempt_bind .attempt_get fun site => ?_) (.attempt_throw _)
      refine .attempt_ite (.attempt_bind (.attempt_throw e) fun _ => ?_) ?_ <;>
        exact .attempt_bind (.attempt_lift (logLine_touches hl _ _)) fun _ => .attempt_pure _

theorem unregister_touches (hn : .naming ∈ parts) (hl : .log ∈ parts) (url : Url) :
    Moves (Touches parts) (attempt (unregister url)) := by
  refine .attempt_bind (.attempt_outcomeOf (callNaming_touches hn hl _ _ _ _ _)) fun called => ?_
  cases called with
  | ok u =>
    refine .attempt_ite ?_ ?_ <;>
      exact .attempt_bind (.attempt_lift (logLine_touches hl _ _)) fun _ => .attempt_pure _
  | error e =>
    refine .attempt_ite ?_ (.attempt_throw _)
    exact .attempt_bind (.attempt_lift (logLine_touches hl _ _)) fun _ => .attempt_pure _

end Registry

/-! ## Virtual nodes -/

namespace VirtualNode

section

variable {R : Site → Site → Prop} [IsPreorder Site R]

theorem register_movesFrom (hq : ∀ s s', Touches [.naming, .log, .events] s s' → R s s')
    (name : String) (replaceIfBound : Bool) (owner : RuntimeHandle) (members : List Url)
    {site : Site} (hg : ∀ url, site.runtime.nodeUrl name = .ok url →
      Moves R (modifyGroups (·.enroll (key name) url members))) :
    MovesFrom R site (attempt (register name replaceIfBound owner members)) := by
  refine .attempt_ask_bind fun url hu => .attempt_ask_bind fun _ _ => ?_
  have bound (handle : RuntimeHandle) : Moves R (attempt (Registry.register url handle _)) :=
    .mono (Registry.register_touches (by decide) (by decide) url handle replaceIfBound) hq
  refine .attempt_bind (bound owner site) fun _ => ?_
  refine .attempt_bind (.attempt_lift (hg url hu)) fun _ => ?_
  refine .attempt_bind (.attempt_lift (.mono (logLine_touches (by decide) _ _) hq)) fun _ => ?_
  refine .attempt_bind .attempt_get fun site => ?_
  refine .attempt_bind (.attempt_lift (.mono (publish_touches (by decide) (by decide) _) hq))
    fun _ => ?_
  exact .attempt_pure _

theorem unregister_moves (hq : ∀ s s', Touches [.naming, .log, .events] s s' → R s s')
    (hg : ∀ key, Moves R (modifyGroups (·.erase key))) (name : String) :
    Moves R (attempt (unregister name)) := by
  have hl (level : LogLevel) (message : String) : Moves R (attempt (logLine level message)) :=
    .attempt_lift (.mono (logLine_touches (by decide) _ _) hq)
  have hr (url : Url) : Moves R (attempt (Registry.unregister url)) :=
    .mono (Registry.unregister_touches (by decide) (by decide) url) hq
  refine .attempt_bind .attempt_get fun site => ?_
  dsimp only
  cases site.runtime.groups.find? name with
  | some group =>
    refine .attempt_bind (.attempt_pure _) fun url => .attempt_bind (hr _) fun outcome => ?_
    refine .attempt_bind (.attempt_lift (hg _)) fun _ => .attempt_bind (hl _ _) fun _ => ?_
    refine .attempt_bind (.attempt_lift (.mono (publish_touches (by decide) (by decide) _) hq))
      fun _ => ?_
    exact .attempt_pure _
  | none =>
    refine .attempt_bind (.attempt_ask _) fun url => .attempt_bind (hr _) fun outcome => ?_
    exact .attempt_bind (hl _ _) fun _ => .attempt_pure _

theorem unregisterAll_moves (hq : ∀ s s', Touches [.naming, .log, .events] s s' → R s s')
    (hg : ∀ key, Moves R (modifyGroups (·.erase key))) : Moves R unregisterAll := by
  have hl (level : LogLevel) (message : String) : Moves R (logLine level message) :=
    .mono (logLine_touches (by decide) _ _) hq
  refine .bind .get fun site => .foldlM (fun report group => ?_) _ _
  refine .bind (unregister_moves hq hg _) fun result => ?_
  rcases result with e | (_ | _)
  · exact .bind (hl _ _) fun _ => .pure _
  · exact .pure _
  · exact .bind (hl _ _) fun _ => .pure _

end

theorem register_touches (name : String) (replaceIfBound : Bool) (owner : RuntimeHandle)
    (members : List Url) :
    Moves (Touches [.naming, .log, .groups, .events])
      (attempt (register name replaceIfBound owner members)) :=
  fun _ => register_movesFrom (fun _ _ h => h.mono (by decide)) name replaceIfBound owner members
    fun _ _ => modifyGroups_touches (by decide) _

theorem unregister_touches (name : String) :
    Moves (Touches [.naming, .log, .groups, .events]) (attempt (unregister name)) :=
  unregister_moves (fun _ _ h => h.mono (by decide))
    (fun _ => modifyGroups_touches (by decide) _) name

theorem unregisterAll_touches :
    Moves (Touches [.naming, .log, .groups, .events]) unregisterAll :=
  unregisterAll_moves (fun _ _ h => h.mono (by decide)) fun _ => modifyGroups_touches (by decide) _

theorem attach_touches (name : String) (node : Url) :
    Moves (Touches [.log, .groups]) (attach name node) := by
  refine .bind .get fun site => .ite ?_ (.pure _)
  refine .bind (logLine_touches (by decide) _ _) fun _ => ?_
  exact .bind (modifyGroups_touches (by decide) _) fun _ => .pure _

end VirtualNode

/-! ## Nodes -/

namespace Node

/-! ### What the operations keep

An operation on nodes keeps a relation if its change of the node table does, and if the relation
allows for what goes on around that change. -/

section

variable {R : Site → Site → Prop} [IsPreorder Site R]

theorem install_moves (hq : ∀ s s', Touches [.log, .groups] s s' → R s s') (node : Node)
    (hn : Moves R (modifyNodes (·.insert node.url node))) : Moves R (install node) := by
  have hd : Moves R (VirtualNode.detach node.url) :=
    .mono (modifyGroups_touches (by decide) _) hq
  have hl : Moves R (logLine .debug "Replaced local node state") :=
    .mono (logLine_touches (by decide) _ _) hq
  unfold install
  cases node.virtualNode with
  | none =>
    refine .bind .get fun site => .bind hn fun _ => ?_
    refine .ite (.bind hl fun _ => ?_) ?_ <;> exact .ite (.bind hd fun _ => .pure _) (.pure _)
  | some tag =>
    have ha : Moves R (do let _ ← VirtualNode.attach tag node.url : Work Unit) :=
      .bind (.mono (VirtualNode.attach_touches tag node.url) hq) fun _ => .pure _
    refine .bind .get fun site => .bind hn fun _ => ?_
    refine .ite (.bind hl fun _ => ?_) ?_ <;> exact .ite (.bind hd fun _ => ha) ha

/-- A node that is created gets the URL that its name stands for. -/
theorem create_movesFrom (hq : ∀ s s', Touches [.naming, .log, .events] s s' → R s s')
    (spec : NodeSpec) (owner : RuntimeHandle) {site : Site}
    (hi : ∀ node, site.runtime.nodeUrl spec.name = .ok node.url → Moves R (install node)) :
    MovesFrom R site (attempt (create spec owner)) := by
  have hl (level : LogLevel) (message : String) : Moves R (attempt (logLine level message)) :=
    .attempt_lift (.mono (logLine_touches (by decide) _ _) hq)
  refine .attempt_ask_bind fun url hu => ?_
  have tracked : Moves R (attempt (do
      let runtime := (← get).runtime
      let node : Node :=
        { name := url.name, url, owner := runtime.url, jobId := spec.jobId
          policyServer := spec.policyServer
          virtualNode := spec.virtualNode.or runtime.defaultTag }
      install node
      logLine .info "Node created"
      publish (.nodeCreated runtime.url url node.jobId node.virtualNode)
      return node : Action Node)) := by
    refine .attempt_bind .attempt_get fun site => ?_
    refine .attempt_bind (.attempt_lift (hi _ hu)) fun _ => .attempt_bind (hl _ _) fun _ => ?_
    refine .attempt_bind (.attempt_lift ?_) fun _ => .attempt_pure _
    exact .mono (publish_touches (by decide) (by decide) _) hq
  refine .attempt_ask_bind fun _ _ => .attempt_get_bind ?_
  dsimp only
  split
  · exact (Moves.attempt_bind (hl _ _) fun _ => .attempt_pure _) site
  · refine (Moves.attempt_bind ?_ fun _ => ?_) site
    · exact .mono (Registry.register_touches (by decide) (by decide) _ _ _) hq
    · exact .attempt_ite (.attempt_bind (hl _ _) fun _ => tracked) tracked

theorem create_moves (hq : ∀ s s', Touches [.naming, .log, .groups, .events] s s' → R s s')
    (hn : ∀ node, Moves R (modifyNodes (·.insert node.url node))) (spec : NodeSpec)
    (owner : RuntimeHandle) : Moves R (attempt (create spec owner)) := by
  intro site
  refine create_movesFrom (fun s s' h => hq s s' (h.mono (by decide))) spec owner ?_
  intro node _
  exact install_moves (fun s s' h => hq s s' (h.mono (by decide))) node (hn node)

theorem tearDown_moves (hq : ∀ s s', Touches [.log, .groups, .events] s s' → R s s') (url : Url)
    (hn : Moves R (modifyNodes (·.erase url))) (hb : Moves R (modifyBodies (·.evict url))) :
    Moves R (tearDown url) := by
  have hl (level : LogLevel) (message : String) : Moves R (logLine level message) :=
    .mono (logLine_touches (by decide) _ _) hq
  refine .bind hn fun _ => .bind (.mono (modifyGroups_touches (by decide) _) hq) fun _ => ?_
  refine .bind (.bind .get fun site => .bind hb fun _ => ?_) fun _ => ?_
  · exact .ite (.bind (hl _ _) fun _ => .pure _) (.pure _)
  · refine .bind (hl _ _) fun _ => .bind .get fun site => ?_
    exact .mono (publish_touches (by decide) (by decide) _) hq

theorem setDefaultTag_moves (hq : ∀ s s', Touches [.log, .defaultTag, .groups] s s' → R s s')
    (tag : String) (hn : Moves R (modifyNodes (·.tagUntagged tag))) :
    Moves R (setDefaultTag tag) := by
  refine .bind .get fun site => .bind (.modify fun site => hq _ _ ?_) fun _ => .bind hn fun _ => ?_
  · exact fun part hp => by cases part <;> simp_all [Part.Same]
  refine .bind (.forM (fun node => ?_) _) fun _ => ?_
  · exact .bind (.mono ((VirtualNode.attach_touches _ _).widen (by decide)) hq) fun _ => .pure _
  · exact .mono (logLine_touches (by decide) _ _) hq

theorem kill_moves (hq : ∀ s s', Touches [.naming, .log] s s' → R s s')
    (ht : ∀ url, Moves R (tearDown url)) (name : String) : Moves R (attempt (kill name)) := by
  refine .attempt_bind (.attempt_ask _) fun url => .attempt_bind .attempt_get fun site => ?_
  cases site.runtime.nodes[url]? with
  | none =>
    refine .attempt_bind (.attempt_lift (.mono (logLine_touches (by decide) _ _) hq)) fun _ => ?_
    exact .attempt_pure _
  | some node =>
    refine .attempt_bind (.mono (Registry.unregister_touches (by decide) (by decide) _) hq)
      fun _ => ?_
    exact .attempt_bind (.attempt_lift (ht url)) fun _ => .attempt_pure _

theorem sweepOne_moves (hq : ∀ s s', Touches [.naming, .log] s s' → R s s')
    (ht : ∀ url, Moves R (tearDown url)) (report : SweepReport) (url : Url) :
    Moves R (sweepOne report url) := by
  have hl (level : LogLevel) (message : String) : Moves R (logLine level message) :=
    .mono (logLine_touches (by decide) _ _) hq
  refine .bind .get fun site => ?_
  cases site.runtime.nodes[url]? with
  | none => exact .pure _
  | some node =>
    refine .bind (.mono (Registry.unregister_touches (by decide) (by decide) _) hq) fun result => ?_
    rcases result with e | (_ | _)
    · exact .bind (hl _ _) fun _ => .pure _
    · exact .bind (ht url) fun _ => .pure _
    · exact .bind (hl _ _) fun _ => .bind (ht url) fun _ => .pure _

theorem killAll_moves (hq : ∀ s s', Touches [.naming, .log] s s' → R s s')
    (ht : ∀ url, Moves R (tearDown url)) : Moves R killAll := by
  refine .bind .get fun site => .bind (.foldlM (sweepOne_moves hq ht) _ _) fun report => ?_
  refine .ite (.bind (.mono (logLine_touches (by decide) _ _) hq) fun _ => ?_) ?_ <;> exact .pure _

end

/-! ### What the operations touch -/

theorem install_touches (node : Node) : Moves (Touches [.log, .nodes, .groups]) (install node) :=
  install_moves (fun _ _ h => h.mono (by decide)) node (modifyNodes_touches (by decide) _)

theorem create_touches (spec : NodeSpec) (owner : RuntimeHandle) :
    Moves (Touches [.naming, .log, .nodes, .groups, .events]) (attempt (create spec owner)) :=
  create_moves (fun _ _ h => h.mono (by decide))
    (fun _ => modifyNodes_touches (by decide) _) spec owner

theorem tearDown_touches (url : Url) :
    Moves (Touches [.log, .nodes, .groups, .bodies, .events]) (tearDown url) :=
  tearDown_moves (fun _ _ h => h.mono (by decide)) url (modifyNodes_touches (by decide) _)
    (modifyBodies_touches (by decide) _)

theorem kill_touches (name : String) :
    Moves (Touches [.naming, .log, .nodes, .groups, .bodies, .events]) (attempt (kill name)) :=
  kill_moves (fun _ _ h => h.mono (by decide)) (fun url => (tearDown_touches url).widen (by decide))
    name

theorem killAll_touches :
    Moves (Touches [.naming, .log, .nodes, .groups, .bodies, .events]) killAll :=
  killAll_moves (fun _ _ h => h.mono (by decide)) fun url =>
    (tearDown_touches url).widen (by decide)

theorem setDefaultTag_touches (tag : String) :
    Moves (Touches [.log, .nodes, .defaultTag, .groups]) (setDefaultTag tag) :=
  setDefaultTag_moves (fun _ _ h => h.mono (by decide)) tag (modifyNodes_touches (by decide) _)

end Node

end ActiveObjects

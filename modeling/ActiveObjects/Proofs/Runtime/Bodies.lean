import ActiveObjects.Proofs.Body.Table
import ActiveObjects.Proofs.Runtime.Operations

/-!
# What the operations of a runtime do to its bodies

Each operation on bodies is specified by a function of the runtime, which gives the result and the
table that is left behind or says why the operation is refused. Logs, events and the order in which
an operation works do not show in it.
-/

namespace ActiveObjects

open Site

theorem Touches.bodies_eq {parts : List Part} {s s' : Site} (h : Touches parts s s')
    (hb : .bodies ∉ parts) : s'.runtime.bodies = s.runtime.bodies := h .bodies hb

/-- Work that touches the names and the log only leaves the runtime as it was. -/
theorem Touches.runtime_eq {s s' : Site} (h : Touches [.naming, .log] s s') :
    s'.runtime = s.runtime := by
  obtain ⟨h₁, h₂, h₃, h₄, h₅, h₆⟩ := h .identity (by decide)
  have state := h .state (by decide)
  have parent := h .parent (by decide)
  have nodes := h .nodes (by decide)
  have defaultTag := h .defaultTag (by decide)
  have groups := h .groups (by decide)
  have bodies := h .bodies (by decide)
  have directory := h .directory (by decide)
  have security := h .security (by decide)
  have events := h .events (by decide)
  rcases s with ⟨_, ⟨⟩, _⟩
  rcases s' with ⟨_, ⟨⟩, _⟩
  simp_all only [Part.Same]

/-! ## Specifications -/

section

variable {α β : Type}

/-- An action gives the result, and leaves the bodies, that a function of the runtime says. When it
is refused the bodies stay as they are. -/
def Performs (action : Action α) (f : Runtime → Except RuntimeError (α × BodyTable)) : Prop :=
  ∀ site result site', (attempt action).run site = (result, site') →
    result.map (fun a => (a, site'.runtime.bodies)) = f site.runtime ∧
      ∀ e, result = .error e → site'.runtime.bodies = site.runtime.bodies

/-- A question in front of an action may refuse it. -/
theorem Performs.ask_bind {rest : α → Action β}
    {f : α → Runtime → Except RuntimeError (β × BodyTable)}
    (question : Runtime → Except RuntimeError α) (h : ∀ a, Performs (rest a) (f a)) :
    Performs (ask question >>= rest) fun runtime => question runtime >>= fun a => f a runtime := by
  intro site result site' hr
  rw [run_attempt_bind, run_attempt_ask] at hr
  cases hq : question site.runtime with
  | error e =>
    rw [hq] at hr
    cases hr
    exact ⟨by simp only [hq]; rfl, fun _ _ => rfl⟩
  | ok a =>
    rw [hq] at hr
    simp only [hq]
    exact h a site result site' hr

/-- Work that leaves the bodies alone does not show when it comes after. -/
theorem Performs.bind_quiet {x : Action α} {work : α → Work Unit} {g : α → β}
    {f : Runtime → Except RuntimeError (α × BodyTable)} (parts : List Part) (hx : Performs x f)
    (hw : ∀ a, Moves (Touches parts) (work a)) (hb : .bodies ∉ parts) :
    Performs (do let a ← x; work a; return g a) fun runtime =>
      (f runtime).map fun (a, table) => (g a, table) := by
  intro site result site' hr
  rw [run_attempt_bind] at hr
  rcases hm : (attempt x).run site with ⟨first, middle⟩
  obtain ⟨hf, hk⟩ := hx site first middle hm
  rw [hm] at hr
  cases first with
  | error e =>
    cases hr
    exact ⟨by simp only [← hf]; rfl, fun e _ => hk _ rfl⟩
  | ok a =>
    cases hr
    have hs := (hw a middle).bodies_eq hb
    refine ⟨?_, fun e he => nomatch he⟩
    simp only [← hf]
    exact congrArg (fun table => Except.ok (g a, table)) hs

theorem Performs.bind_quiet_self {x : Action α} {work : α → Work Unit}
    {f : Runtime → Except RuntimeError (α × BodyTable)} (parts : List Part) (hx : Performs x f)
    (hw : ∀ a, Moves (Touches parts) (work a)) (hb : .bodies ∉ parts) :
    Performs (do let a ← x; work a; return a) f := by
  have h := Performs.bind_quiet (g := id) parts hx hw hb
  have hf : (fun runtime => (f runtime).map fun (a, table) => (id a, table)) = f :=
    funext fun runtime => congrFun Except.map_id (f runtime)
  rwa [hf] at h

/-- Nor does work that leaves the whole runtime alone when it comes before. -/
theorem Performs.quiet_bind {work : Work Unit} {rest : Action α}
    {f : Runtime → Except RuntimeError (α × BodyTable)}
    (hw : Moves (Touches [.naming, .log]) work) (hr : Performs rest f) :
    Performs (do work; rest) f := by
  intro site result site' h
  rw [run_attempt_bind, run_attempt_lift] at h
  have hs := (hw site).runtime_eq
  have := hr _ result site' h
  rwa [hs] at this

/-- Nor does what an action only looks at. -/
theorem Performs.get_bind {rest : Site → Action α}
    {f : Runtime → Except RuntimeError (α × BodyTable)} (hr : ∀ site, Performs (rest site) f) :
    Performs (get >>= rest) f :=
  fun site => hr site site

/-- A change of the bodies is what it says. -/
theorem performs_changeBodies (f : BodyTable → Except RuntimeError (α × BodyTable)) :
    Performs (changeBodies f) fun runtime => f runtime.bodies := by
  intro site result site' hr
  rw [changeBodies, run_attempt_bind, run_attempt_ask] at hr
  dsimp only at hr
  cases hf : f site.runtime.bodies with
  | error e =>
    rw [hf] at hr
    cases hr
    exact ⟨hf.symm, fun _ _ => rfl⟩
  | ok pair =>
    rw [hf] at hr
    cases hr
    exact ⟨hf.symm, fun e he => nomatch he⟩

end

/-! ## The operations -/

/-- The node that a body may be put on: the runtime is running and tracks the node. -/
def Runtime.admission (runtime : Runtime) (node : String) : Except RuntimeError Node :=
  if runtime.state = .running then runtime.node node else .error (.shutDown runtime.url.display)

theorem Runtime.admission_eq_ok_iff {runtime : Runtime} {node : String} {host : Node} :
    runtime.admission node = .ok host ↔
      runtime.state = .running ∧
        ∃ url, runtime.nodeUrl node = .ok url ∧ runtime.nodes[url]? = some host := by
  unfold admission
  by_cases hs : runtime.state = .running
  · rw [if_pos hs]
    cases hu : runtime.nodeUrl node with
    | error e => simp [Runtime.node, hu, bind, Except.bind]
    | ok url => cases hn : runtime.nodes[url]? <;>
        simp [Runtime.node, hu, hn, hs, bind, Except.bind, pure, Except.pure, throw, throwThe,
          MonadExceptOf.throw]
  · simp [hs]

/-- The state that a constructor gives to a new body. -/
def ConstructorRegistry.construct (constructors : ConstructorRegistry) (call : ConstructorCall) :
    Except RuntimeError (List UInt8) :=
  match constructors[call.className]? with
  | none =>
    .error (.constructionFailed call.className "no constructor registered for class")
  | some build => (build call.args).mapError (.constructionFailed call.className)

theorem performs_onNode {α : Type} {node : String} {rest : Node → Action α}
    {f : Node → Runtime → Except RuntimeError (α × BodyTable)}
    (h : ∀ host, Performs (rest host) (f host)) :
    Performs (do Runtime.ensureRunning; let host ← ask (·.node node); rest host) fun runtime =>
      runtime.admission node >>= fun host => f host runtime := by
  have hf : (fun runtime : Runtime => runtime.admission node >>= fun host => f host runtime) =
      fun runtime => (if runtime.state = .running then .ok ()
          else .error (.shutDown runtime.url.display)) >>= fun _ =>
        runtime.node node >>= fun host => f host runtime := by
    funext runtime
    unfold Runtime.admission
    split <;> rfl
  rw [hf]
  exact .ask_bind _ fun _ => .ask_bind _ h

theorem performs_createOn (constructors : ConstructorRegistry) (fresh : BodyId) (node : Url)
    (call : ConstructorCall) (isLocal : Bool) :
    Performs (BodyTable.create constructors fresh node call isLocal) fun runtime =>
      constructors.construct call >>= fun state =>
        .ok ((⟨fresh, node, isLocal⟩, ⟨fresh, call.className, state⟩),
          runtime.bodies.host node ⟨fresh, call.className, state⟩ isLocal) := by
  intro site result site' hr
  unfold BodyTable.create at hr
  unfold ConstructorRegistry.construct
  cases hc : constructors[call.className]? with
  | none =>
    rw [hc] at hr
    cases hr
    exact ⟨rfl, fun _ _ => rfl⟩
  | some build =>
    rw [hc] at hr
    cases hb : build call.args with
    | error reason =>
      simp only [hb] at hr
      cases hr
      exact ⟨by simp only [hb]; rfl, fun _ _ => rfl⟩
    | ok state =>
      simp only [hb] at hr
      cases hr
      exact ⟨by simp only [hb]; rfl, fun e he => nomatch he⟩

theorem performs_receiveOn (node : Url) (body : Body) :
    Performs (liftM (BodyTable.receive node body)) fun runtime =>
      .ok (⟨body.id, node, true⟩, runtime.bodies.host node body true) := by
  intro site result site' hr
  have hb : ((BodyTable.receive node body).run site).1 = ⟨body.id, node, true⟩ ∧
      ((BodyTable.receive node body).run site).2.runtime.bodies =
        site.runtime.bodies.host node body true := by
    cases h : (site.runtime.bodies.hosted? body.id).isSome <;>
      simp [BodyTable.receive, h] <;> exact ⟨rfl, rfl⟩
  rw [run_attempt_lift] at hr
  cases hr
  exact ⟨congrArg Except.ok (Prod.ext hb.1 hb.2), fun e he => nomatch he⟩

theorem performs_checkpointOn (node : Url) (snapshot : Checkpoint) (sequence : UInt64) :
    Performs (BodyTable.receiveCheckpoint node snapshot sequence) fun runtime =>
      runtime.bodies.checkpoint node snapshot sequence := by
  unfold BodyTable.receiveCheckpoint
  refine .get_bind fun site => ?_
  dsimp only
  have hc := Performs.bind_quiet_self [.log]
    (performs_changeBodies (·.checkpoint node snapshot sequence))
    (fun _ => logLine_touches (by decide) .debug "Checkpoint applied") (by decide)
  have hl (message : String) : Moves (Touches [.naming, .log]) (logLine .warn message) :=
    logLine_touches (by decide) _ _
  split
  · exact .quiet_bind (hl _) hc
  · exact .quiet_bind (hl _) hc
  · exact hc

theorem performs_createBody (constructors : ConstructorRegistry) (fresh : BodyId) (node : String)
    (call : ConstructorCall) (isLocal : Bool) :
    Performs (Runtime.createBody constructors fresh node call isLocal) fun runtime =>
      runtime.admission node >>= fun host => (constructors.construct call).map fun state =>
        (⟨fresh, host.url, isLocal⟩,
          runtime.bodies.host host.url ⟨fresh, call.className, state⟩ isLocal) := by
  refine performs_onNode fun host => ?_
  have h := Performs.bind_quiet (g := Prod.fst) [.log, .events]
    (performs_createOn constructors fresh host.url call isLocal)
    (fun made => publish_touches (by decide) (by decide)
      (.bodyCreated made.1.id made.1.nodeUrl made.2.className)) (by decide)
  have hf (runtime : Runtime) : (constructors.construct call).map (fun state =>
        ((⟨fresh, host.url, isLocal⟩ : BodyHandle),
          runtime.bodies.host host.url ⟨fresh, call.className, state⟩ isLocal)) =
      (constructors.construct call >>= fun state =>
        .ok (((⟨fresh, host.url, isLocal⟩ : BodyHandle), (⟨fresh, call.className, state⟩ : Body)),
          runtime.bodies.host host.url ⟨fresh, call.className, state⟩ isLocal)).map
        fun (made, table) => (made.1, table) := by
    cases constructors.construct call <;> rfl
  simp only [hf]
  exact h

theorem performs_receiveBody (node : String) (body : Body) :
    Performs (Runtime.receiveBody node body) fun runtime =>
      runtime.admission node >>= fun host =>
        .ok (⟨body.id, host.url, true⟩, runtime.bodies.host host.url body true) :=
  performs_onNode fun host => .bind_quiet_self [.log, .events]
    (performs_receiveOn host.url body) (fun _ => publish_touches (by decide) (by decide) _)
    (by decide)

theorem performs_receiveCheckpoint (node : String) (snapshot : Checkpoint) (sequence : UInt64) :
    Performs (Runtime.receiveCheckpoint node snapshot sequence) fun runtime =>
      runtime.admission node >>= fun host =>
        runtime.bodies.checkpoint host.url snapshot sequence :=
  performs_onNode fun host => .bind_quiet_self [.log, .events]
    (performs_checkpointOn host.url snapshot sequence)
    (fun _ => publish_touches (by decide) (by decide) _) (by decide)

theorem performs_beginMigration (id : BodyId) :
    Performs (Runtime.beginMigration id) fun runtime =>
      if runtime.state = .running then runtime.bodies.beginMigration id
      else .error (.shutDown runtime.url.display) := by
  have h := Performs.ask_bind (fun runtime => if runtime.state = .running then .ok ()
    else .error (.shutDown runtime.url.display)) fun _ =>
      performs_changeBodies (·.beginMigration id)
  intro site result site' hr
  obtain ⟨hf, hk⟩ := h site result site' hr
  refine ⟨hf.trans ?_, hk⟩
  dsimp only
  split <;> rfl

/-- The end of a migration that succeeded: the body is dropped, except by a runtime that sent it to
itself. -/
theorem run_endMigration_ok {id : BodyId} {left target : Url} {handle : BodyHandle}
    {result : Except RuntimeError BodyHandle} {site site' : Site}
    (hr : (attempt (Runtime.endMigration id left target (.ok handle))).run site = (result, site')) :
    result = .ok handle ∧ site'.naming = site.naming ∧
      site'.runtime =
        { site.runtime with
          bodies := if target = site.runtime.url then site.runtime.bodies
            else site.runtime.bodies.completeMigration id
          events := site.runtime.events.publish (.bodyMigrated id left .outbound) } := by
  have told {start : Site} {last : Except RuntimeError BodyHandle} {stop : Site}
      (h : (attempt (do
        logLine .info "Body migrated"
        publish (.bodyMigrated id left .outbound)
        return handle : Action BodyHandle)).run start = (last, stop)) :
      last = .ok handle ∧ stop.naming = start.naming ∧ stop.runtime =
        { start.runtime with
          events := start.runtime.events.publish (.bodyMigrated id left .outbound) } := by
    cases h
    exact ⟨rfl, run_publish (.bodyMigrated id left .outbound)
      { start with log := ⟨.info, "Body migrated"⟩ :: start.log }⟩
  have hr : (attempt (ite (target ≠ site.runtime.url) _ _)).run site = (result, site') := hr
  by_cases hu : target = site.runtime.url
  · rw [if_neg fun h => h hu] at hr
    simpa only [if_pos hu] using told hr
  · rw [if_pos hu] at hr
    simpa only [if_neg hu] using told hr

/-- The end of a migration that failed: the body returns to service. -/
theorem run_endMigration_error {id : BodyId} {left target : Url} {e : RuntimeError}
    {result : Except RuntimeError BodyHandle} {site site' : Site}
    (hr : (attempt (Runtime.endMigration id left target (.error e))).run site = (result, site')) :
    result = .error e ∧ site'.naming = site.naming ∧
      site'.runtime =
        { site.runtime with bodies := site.runtime.bodies.abortMigration id } := by
  cases hr
  exact ⟨rfl, rfl, rfl⟩

/-- Either way the answer of the target is handed on. -/
theorem run_endMigration {id : BodyId} {left target : Url}
    {answer result : Except RuntimeError BodyHandle} {site site' : Site}
    (hr : (attempt (Runtime.endMigration id left target answer)).run site = (result, site')) :
    result = answer ∧ site'.runtime.bodies =
      match answer with
      | .error _ => site.runtime.bodies.abortMigration id
      | .ok _ =>
        if target = site.runtime.url then site.runtime.bodies
        else site.runtime.bodies.completeMigration id := by
  cases answer with
  | error e =>
    obtain ⟨hresult, -, hs⟩ := run_endMigration_error hr
    exact ⟨hresult, by rw [hs]⟩
  | ok handle =>
    obtain ⟨hresult, -, hs⟩ := run_endMigration_ok hr
    exact ⟨hresult, by rw [hs]⟩

end ActiveObjects

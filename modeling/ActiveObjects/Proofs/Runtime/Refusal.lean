import ActiveObjects.Proofs.Naming.Calls

/-!
# Refused operations

An operation of a runtime that ends with an error leaves nothing behind but lines of the log: what
may be refused comes before the first change, and a call of the naming facility that fails changes
no binding.
-/

namespace ActiveObjects

open Site

variable {α β : Type}

/-! ## Actions that cannot be refused -/

/-- The action has a result, whatever site it starts on. -/
def Sure (action : Action α) : Prop := ∀ site, ∃ a, ((attempt action).run site).1 = .ok a

namespace Sure

theorem pure (a : α) : Sure (Pure.pure a : Action α) := fun _ => ⟨a, rfl⟩

theorem lift (work : Work α) : Sure (liftM work) := fun site => ⟨(work.run site).1, rfl⟩

theorem bind {x : Action α} {f : α → Action β} (hx : Sure x) (hf : ∀ a, Sure (f a)) :
    Sure (x >>= f) := by
  intro site
  rw [run_attempt_bind]
  obtain ⟨a, ha⟩ := hx site
  rcases hr : (attempt x).run site with ⟨result, site'⟩
  rw [hr] at ha
  subst ha
  exact hf a site'

theorem ite {c : Prop} [Decidable c] {x y : Action α} (hx : Sure x) (hy : Sure y) :
    Sure (if c then x else y) := by
  split
  · exact hx
  · exact hy

/-- What an action looks at cannot be refused. -/
theorem get_bind {f : Site → Action α} (hf : ∀ site, Sure (f site)) :
    Sure (MonadState.get >>= f) :=
  fun site => hf site site

end Sure

/-! ## Actions that are refused as a whole -/

/-- The runtime and the bindings are as they were. Calls of the naming facility may have been made
in vain. -/
structure Idles (s s' : Site) : Prop where
  naming : s'.naming = { s.naming with ahead := s'.naming.ahead }
  later : s.naming.Later s'.naming
  runtime : s'.runtime = s.runtime

instance : IsPreorder Site Idles where
  refl s := ⟨rfl, Naming.later_refl s.naming, rfl⟩
  trans _ _ _ h h' :=
    ⟨by rw [h'.naming, h.naming], h.later.trans h'.later, h'.runtime.trans h.runtime⟩

theorem Touches.idles {s s' : Site} (h : Touches [.log] s s') : Idles s s' := by
  have naming : s'.naming = s.naming := h .naming (by decide)
  refine ⟨by rw [naming], ?_, (h.mono (by decide)).runtime_eq⟩
  rw [naming]
  exact Naming.later_refl s.naming

/-- When the action ends with an error, the site is as it was, but for lines of the log. -/
def Atomic (action : Action α) : Prop :=
  ∀ site e site', (attempt action).run site = (.error e, site') → Idles site site'

namespace Atomic

theorem of_sure {x : Action α} (h : Sure x) : Atomic x := by
  intro site e site' hr
  obtain ⟨a, ha⟩ := h site
  rw [hr] at ha
  cases ha

theorem of_touches {x : Action α} (h : Moves (Touches [.log]) (attempt x)) : Atomic x := by
  intro site e site' hr
  have ht := h site
  rw [hr] at ht
  exact ht.idles

/-- What comes before an action may log, and be refused itself. -/
theorem touches_bind {x : Action α} {f : α → Action β} (hx : Moves (Touches [.log]) (attempt x))
    (hf : ∀ a, Atomic (f a)) : Atomic (x >>= f) := by
  intro site e site' hr
  have ht := hx site
  rw [run_attempt_bind] at hr
  rcases hm : (attempt x).run site with ⟨_ | a, middle⟩ <;> rw [hm] at hr ht
  · cases hr
    exact ht.idles
  · exact trans_of Idles ht.idles (hf a middle e site' hr)

theorem ask_bind {question : Runtime → Except RuntimeError α} {f : α → Action β}
    (hf : ∀ a, Atomic (f a)) : Atomic (Site.ask question >>= f) :=
  touches_bind (.attempt_ask question) hf

theorem get_bind {f : Site → Action α} (hf : ∀ site, Atomic (f site)) :
    Atomic (MonadState.get >>= f) :=
  fun site => hf site site

/-- What comes after an action must not be refused. -/
theorem bind_sure {x : Action α} {f : α → Action β} (hx : Atomic x) (hf : ∀ a, Sure (f a)) :
    Atomic (x >>= f) := by
  intro site e site' hr
  rw [run_attempt_bind] at hr
  rcases hm : (attempt x).run site with ⟨_ | a, middle⟩ <;> rw [hm] at hr
  · cases hr
    exact hx site _ _ hm
  · obtain ⟨b, hb⟩ := hf a middle
    rw [show (attempt (f a)).run middle = _ from hr] at hb
    cases hb

end Atomic

/-! ## Names -/

/-- A call in vain leaves the names. -/
theorem Idles.of_spend {s s' : Site} {call : NamingCall} {url : Url}
    (hn : s'.naming = s.naming.spend call url) (hs : s'.runtime = s.runtime) : Idles s s' where
  naming := by
    rw [hn, Naming.spend]
    split <;> rfl
  later := hn ▸ Naming.later_spend s.naming call url
  runtime := hs

namespace Registry

theorem register_atomic (url : Url) (handle : RuntimeHandle) (replaceIfBound : Bool) :
    Atomic (register url handle replaceIfBound) := by
  intro site e site' hr
  obtain ⟨he, hn, hs⟩ := run_register hr
  rw [Naming.enter_of_error he.symm] at hn
  exact .of_spend hn hs

theorem unregister_atomic (url : Url) : Atomic (unregister url) := by
  intro site e site' hr
  obtain ⟨he, hn, hs⟩ := run_unregister hr
  have held : ¬ site.naming.LetsGo url := by
    rw [Naming.letsGo_iff, ← he]
    rintro ⟨outcome, ho⟩
    cases ho
  rw [Naming.release_of_not_letsGo held] at hn
  exact .of_spend hn hs

end Registry

/-! ## Nodes and virtual nodes -/

theorem Node.create_atomic (spec : NodeSpec) (owner : RuntimeHandle) :
    Atomic (create spec owner) := by
  refine .ask_bind fun url => .ask_bind fun _ => .get_bind fun site => ?_
  dsimp only
  split
  · exact .of_sure (.bind (.lift _) fun _ => .pure _)
  · refine .bind_sure (Registry.register_atomic _ _ _) fun outcome => ?_
    have tracked : Sure (do
        let runtime := (← get).runtime
        let node : Node :=
          { name := url.name, url, owner := runtime.url, jobId := spec.jobId
            policyServer := spec.policyServer
            virtualNode := spec.virtualNode.or runtime.defaultTag }
        install node
        logLine .info "Node created"
        publish (.nodeCreated runtime.url url node.jobId node.virtualNode)
        return node : Action Node) :=
      .get_bind fun _ => .bind (.lift _) fun _ => .bind (.lift _) fun _ => .bind (.lift _) fun _ =>
        .pure _
    exact .ite (.bind (.lift _) fun _ => tracked) tracked

theorem Node.kill_atomic (name : String) : Atomic (kill name) := by
  refine .ask_bind fun url => .get_bind fun site => ?_
  split
  · exact .of_sure (.bind (.lift _) fun _ => .pure _)
  · refine .bind_sure (Registry.unregister_atomic url) fun _ => ?_
    exact .bind (.lift _) fun _ => .pure _

namespace VirtualNode

theorem register_atomic (name : String) (replaceIfBound : Bool) (owner : RuntimeHandle)
    (members : List Url) : Atomic (register name replaceIfBound owner members) := by
  refine .ask_bind fun url => .ask_bind fun _ => ?_
  refine .bind_sure (Registry.register_atomic _ _ _) fun _ => ?_
  exact .bind (.lift _) fun _ => .bind (.lift _) fun _ => .get_bind fun _ =>
    .bind (.lift _) fun _ => .pure _

theorem unregister_atomic (name : String) : Atomic (unregister name) := by
  refine .get_bind fun site => ?_
  dsimp only
  cases site.runtime.groups.find? name with
  | some group =>
    refine .touches_bind (.attempt_pure _) fun url => ?_
    refine .bind_sure (Registry.unregister_atomic url) fun outcome => ?_
    exact .bind (.lift _) fun _ => .bind (.lift _) fun _ => .bind (.lift _) fun _ => .pure _
  | none =>
    refine .ask_bind fun url => .bind_sure (Registry.unregister_atomic url) fun outcome => ?_
    exact .bind (.lift _) fun _ => .pure _

end VirtualNode

/-! ## Bodies -/

theorem Site.changeBodies_atomic (f : BodyTable → Except RuntimeError (α × BodyTable)) :
    Atomic (changeBodies f) :=
  .ask_bind fun _ => .of_sure (.bind (.lift _) fun _ => .pure _)

namespace BodyTable

theorem create_atomic (constructors : ConstructorRegistry) (fresh : BodyId) (node : Url)
    (call : ConstructorCall) (isLocal : Bool) :
    Atomic (create constructors fresh node call isLocal) := by
  unfold create
  cases constructors[call.className]? with
  | none => exact .of_touches (.attempt_throw _)
  | some build =>
    dsimp only
    cases build call.args with
    | error reason =>
      refine .of_touches (.attempt_bind (.attempt_lift ?_) fun _ => .attempt_throw _)
      exact logLine_touches (by decide) _ _
    | ok state =>
      exact .of_sure (.bind (.lift _) fun _ => .bind (.lift _) fun _ => .pure _)

theorem receiveCheckpoint_atomic (node : Url) (snapshot : Checkpoint) (sequence : UInt64) :
    Atomic (receiveCheckpoint node snapshot sequence) := by
  have applied : Atomic (do
      let handle ← changeBodies (·.checkpoint node snapshot sequence)
      logLine .debug "Checkpoint applied"
      return handle : Action BodyHandle) :=
    .bind_sure (changeBodies_atomic _) fun _ => .bind (.lift _) fun _ => .pure _
  have warned (message : String) : Moves (Touches [.log]) (attempt (logLine .warn message)) :=
    .attempt_lift (logLine_touches (by decide) _ _)
  refine .get_bind fun site => ?_
  dsimp only
  split
  · exact .touches_bind (warned _) fun _ => applied
  · exact .touches_bind (warned _) fun _ => applied
  · exact applied

end BodyTable

/-! ## Migrations -/

namespace Runtime

theorem beginMigration_atomic (id : BodyId) : Atomic (beginMigration id) :=
  .ask_bind fun _ => changeBodies_atomic _

theorem receiveBody_atomic (node : String) (body : Body) : Atomic (receiveBody node body) :=
  .ask_bind fun _ => .ask_bind fun _ => .of_sure <|
    .bind (.lift _) fun _ => .bind (.lift _) fun _ => .pure _

end Runtime

end ActiveObjects

import Mathlib.Order.Defs.Unbundled
import ActiveObjects.Proofs.Except
import ActiveObjects.Runtime.Operations

/-!
# Footprints

Work at a site is described by a relation between the site it starts on and the one it leaves
behind. Such relations are closed under composition, so the description of an operation is put
together from those of its parts. A footprint names the parts of a site that an operation may
touch; all else stays as it was.
-/

namespace ActiveObjects

/-- Whatever site the work starts on, it leaves a related one. -/
def Moves {α : Type} (R : Site → Site → Prop) (work : Work α) : Prop :=
  ∀ site, R site (work.run site).2

/-- An action goes on only after success. -/
theorem attempt_bind_eq {α β : Type} (x : Action α) (f : α → Action β) :
    attempt (x >>= f) = attempt x >>= fun result =>
      match result with
      | .ok a => attempt (f a)
      | .error e => pure (.error e) := by
  unfold attempt
  rw [ExceptT.run_bind]
  congr 1
  funext result
  cases result <;> rfl

/-! ## Running an action -/

section

variable {α β : Type}

theorem run_work_bind (x : Work α) (f : α → Work β) (site : Site) :
    (x >>= f).run site = (f (x.run site).1).run (x.run site).2 := rfl

theorem run_bind_inv {x : Work α} {f : α → Work β} {site site' : Site} {b : β}
    (h : (x >>= f).run site = (b, site')) :
    ∃ a middle, x.run site = (a, middle) ∧ (f a).run middle = (b, site') :=
  ⟨_, _, rfl, h⟩

theorem run_attempt_bind (x : Action α) (f : α → Action β) (site : Site) :
    (attempt (x >>= f)).run site =
      match (attempt x).run site with
      | (.ok a, site) => (attempt (f a)).run site
      | (.error e, site) => (.error e, site) := by
  rw [attempt_bind_eq, StateT.run_bind]
  rcases (attempt x).run site with ⟨_ | _, _⟩ <;> rfl

theorem run_attempt_lift (work : Work α) (site : Site) :
    (attempt (liftM work)).run site = (.ok (work.run site).1, (work.run site).2) := rfl

theorem run_attempt_ask (question : Runtime → Except RuntimeError α) (site : Site) :
    (attempt (Site.ask question)).run site = (question site.runtime, site) := rfl

theorem run_attempt_get_bind (f : Site → Action α) (site : Site) :
    (attempt (get >>= f)).run site = (attempt (f site)).run site := rfl

theorem run_attempt_discard (x : Action α) (site : Site) :
    ((attempt (do let _ ← x)).run site).2 = ((attempt x).run site).2 := by
  rw [run_attempt_bind]
  rcases (attempt x).run site with ⟨_ | _, _⟩ <;> rfl

theorem run_attempt_forM_cons (f : α → Action PUnit) (x : α) (xs : List α) (site : Site) :
    (attempt ((x :: xs).forM f)).run site =
      match (attempt (f x)).run site with
      | (.ok _, site) => (attempt (xs.forM f)).run site
      | (.error e, site) => (.error e, site) := by
  show (attempt (f x >>= fun _ => xs.forM f)).run site = _
  rw [run_attempt_bind]
  rcases (attempt (f x)).run site with ⟨_ | _, _⟩ <;> rfl

/-- What holds at first, and is kept by each turn of a loop, holds in the end. The elements that the
loop is past stand in front of the others. -/
theorem run_foldlM_induction {f : β → α → Work β} {xs : List α} {b : β} {site : Site}
    {P : List α → β → Site → Prop} (h : P [] b site)
    (hf : ∀ done x rest b site, xs = done ++ x :: rest → P done b site →
      P (done ++ [x]) ((f b x).run site).1 ((f b x).run site).2) :
    P xs ((xs.foldlM f b).run site).1 ((xs.foldlM f b).run site).2 := by
  have loop (done rest : List α) (hx : xs = done ++ rest) (b : β) (site : Site)
      (h : P done b site) :
      P xs ((rest.foldlM f b).run site).1 ((rest.foldlM f b).run site).2 := by
    induction rest generalizing done b site with
    | nil =>
      rw [List.append_nil] at hx
      exact hx ▸ h
    | cons x rest ih => exact ih (done ++ [x]) (by simp [hx]) _ _ (hf done x rest b site hx h)
  exact loop [] xs rfl b site h

end

/-! ## Rules of composition -/

namespace Moves

variable {α β : Type} {R R' : Site → Site → Prop}

theorem mono {work : Work α} (h : Moves R work) (hR : ∀ s s', R s s' → R' s s') : Moves R' work :=
  fun site => hR _ _ (h site)

theorem ite {c : Prop} [Decidable c] {x y : Work α} (hx : Moves R x) (hy : Moves R y) :
    Moves R (if c then x else y) := by
  split
  · exact hx
  · exact hy

theorem modify {f : Site → Site} (h : ∀ site, R site (f site)) : Moves R (modify f) := h

theorem attempt_ite {c : Prop} [Decidable c] {x y : Action α} (hx : Moves R (attempt x))
    (hy : Moves R (attempt y)) : Moves R (attempt (if c then x else y)) := by
  split
  · exact hx
  · exact hy

theorem attempt_lift {x : Work α} (hx : Moves R x) : Moves R (attempt (liftM x)) := hx

theorem attempt_outcomeOf {x : Action α} (hx : Moves R (attempt x)) :
    Moves R (attempt (outcomeOf x)) := hx

section

variable [IsPreorder Site R]

theorem pure (a : α) : Moves R (pure a) := fun site => refl_of R site

theorem get : Moves R (get : Work Site) := fun site => refl_of R site

theorem bind {x : Work α} {f : α → Work β} (hx : Moves R x) (hf : ∀ a, Moves R (f a)) :
    Moves R (x >>= f) :=
  fun site => trans_of R (hx site) (hf _ _)

theorem foldlM {f : β → α → Work β} (hf : ∀ b a, Moves R (f b a)) (xs : List α) (b : β) :
    Moves R (xs.foldlM f b) := by
  induction xs generalizing b with
  | nil => exact pure b
  | cons x xs ih => exact bind (hf b x) fun b => ih b

theorem forM {f : α → Work PUnit} (hf : ∀ a, Moves R (f a)) (xs : List α) :
    Moves R (xs.forM f) := by
  induction xs with
  | nil => exact pure _
  | cons x xs ih => exact bind (hf x) fun _ => ih

/-! ## Actions -/

theorem attempt_pure (a : α) : Moves R (attempt (Pure.pure a)) := pure _

theorem attempt_throw (e : RuntimeError) : Moves R (attempt (throw e : Action α)) := pure _

theorem attempt_get : Moves R (attempt (MonadState.get : Action Site)) := get

theorem attempt_ask (question : Runtime → Except RuntimeError α) :
    Moves R (attempt (Site.ask question)) :=
  bind get fun _ => pure _

theorem attempt_bind {x : Action α} {f : α → Action β} (hx : Moves R (attempt x))
    (hf : ∀ a, Moves R (attempt (f a))) : Moves R (attempt (x >>= f)) := by
  rw [attempt_bind_eq]
  refine bind hx fun result => ?_
  cases result with
  | ok a => exact hf a
  | error e => exact pure _

theorem attempt_discard {x : Action α} (hx : Moves R (attempt x)) :
    Moves R (attempt (do let _ ← x)) :=
  attempt_bind hx fun _ => attempt_pure _

theorem attempt_forM {f : α → Action PUnit} (hf : ∀ a, Moves R (attempt (f a))) (xs : List α) :
    Moves R (attempt (xs.forM f)) := by
  induction xs with
  | nil => exact attempt_pure _
  | cons x xs ih => exact attempt_bind (hf x) fun _ => ih

end

end Moves

/-! ### From a given site -/

/-- From this site the work leaves a related one. -/
def MovesFrom {α : Type} (R : Site → Site → Prop) (site : Site) (work : Work α) : Prop :=
  R site (work.run site).2

namespace MovesFrom

variable {α β : Type} {R : Site → Site → Prop} [IsPreorder Site R] {site : Site}

/-- What follows an action may rely on what the action keeps. -/
theorem attempt_bind_of {P : Site → Prop} {x : Action α} {f : α → Action β}
    (hx : MovesFrom R site (attempt x)) (hp : P ((attempt x).run site).2)
    (hf : ∀ a middle, P middle → MovesFrom R middle (attempt (f a))) :
    MovesFrom R site (attempt (x >>= f)) := by
  rw [MovesFrom, run_attempt_bind]
  rw [MovesFrom] at hx
  rcases hr : (attempt x).run site with ⟨e | a, middle⟩
  · rw [hr] at hx
    exact hx
  · rw [hr] at hx hp
    exact trans_of R hx (hf a middle hp)

theorem attempt_bind {x : Action α} {f : α → Action β} (hx : MovesFrom R site (attempt x))
    (hf : ∀ a, Moves R (attempt (f a))) : MovesFrom R site (attempt (x >>= f)) :=
  attempt_bind_of (P := fun _ => True) hx trivial fun a middle _ => hf a middle

theorem attempt_discard {x : Action α} (hx : MovesFrom R site (attempt x)) :
    MovesFrom R site (attempt (do let _ ← x)) :=
  attempt_bind hx fun _ => .attempt_pure _

/-- A loop may rely on what holds at first and is kept by each turn. The elements that it is past
stand in front of the others. -/
theorem attempt_forM {P : List α → Site → Prop} {f : α → Action PUnit} {xs : List α}
    (hp : P [] site) (hf : ∀ done x rest middle, xs = done ++ x :: rest → P done middle →
      MovesFrom R middle (attempt (f x)) ∧ P (done ++ [x]) ((attempt (f x)).run middle).2) :
    MovesFrom R site (attempt (xs.forM f)) := by
  have loop (done rest : List α) (hx : xs = done ++ rest) (site : Site) (hp : P done site) :
      MovesFrom R site (attempt (rest.forM f)) := by
    induction rest generalizing done site with
    | nil => exact refl_of R site
    | cons x rest ih =>
      obtain ⟨turn, kept⟩ := hf done x rest site hx hp
      exact attempt_bind_of turn kept fun _ middle hp => ih (done ++ [x]) (by simp [hx]) middle hp
  exact loop [] xs rfl site hp

/-- A question leaves the site as it is, and its answer is known. -/
theorem attempt_ask_bind {question : Runtime → Except RuntimeError α} {f : α → Action β}
    (hf : ∀ a, question site.runtime = .ok a → MovesFrom R site (attempt (f a))) :
    MovesFrom R site (attempt (Site.ask question >>= f)) := by
  rw [MovesFrom, run_attempt_bind, run_attempt_ask]
  cases hq : question site.runtime with
  | error e => exact refl_of R site
  | ok a => exact hf a hq

omit [IsPreorder Site R] in
theorem attempt_get_bind {f : Site → Action β} (hf : MovesFrom R site (attempt (f site))) :
    MovesFrom R site (attempt (MonadState.get >>= f)) := hf

end MovesFrom

/-! ## Parts of a site -/

/-- The parts of a site that operations change. What a runtime is started with and keeps for good
is the part `identity`. -/
inductive Part where
  | naming
  | log
  | identity
  | state
  | parent
  | nodes
  | defaultTag
  | groups
  | bodies
  | directory
  | security
  | events
deriving DecidableEq

/-- A part is the same on two sites. -/
def Part.Same (s s' : Site) : Part → Prop
  | naming => s'.naming = s.naming
  | log => s'.log = s.log
  | identity =>
    s'.runtime.id = s.runtime.id ∧ s'.runtime.identity = s.runtime.identity ∧
      s'.runtime.url = s.runtime.url ∧ s'.runtime.strict = s.runtime.strict ∧
      s'.runtime.resolver = s.runtime.resolver ∧
      s'.runtime.constructors = s.runtime.constructors
  | state => s'.runtime.state = s.runtime.state
  | parent => s'.runtime.parent = s.runtime.parent
  | nodes => s'.runtime.nodes = s.runtime.nodes
  | defaultTag => s'.runtime.defaultTag = s.runtime.defaultTag
  | groups => s'.runtime.groups = s.runtime.groups
  | bodies => s'.runtime.bodies = s.runtime.bodies
  | directory => s'.runtime.directory = s.runtime.directory
  | security => s'.runtime.security = s.runtime.security
  | events => s'.runtime.events = s.runtime.events

theorem Part.Same.refl (s : Site) (part : Part) : part.Same s s := by
  cases part <;> simp [Part.Same]

theorem Part.Same.trans {s₁ s₂ s₃ : Site} {part : Part} (h : part.Same s₁ s₂)
    (h' : part.Same s₂ s₃) : part.Same s₁ s₃ := by
  cases part <;> simp_all [Part.Same]

theorem Part.Same.handle_eq {s s' : Site} (h : Part.identity.Same s s') :
    s'.runtime.handle = s.runtime.handle := by
  rw [Runtime.handle, Runtime.handle, h.1, h.2.2.1]

/-- Only the given parts differ. -/
def Touches (parts : List Part) (s s' : Site) : Prop := ∀ part ∉ parts, part.Same s s'

instance (parts : List Part) : IsPreorder Site (Touches parts) where
  refl s part _ := .refl s part
  trans _ _ _ h h' part hp := (h part hp).trans (h' part hp)

theorem Touches.mono {parts parts' : List Part} {s s' : Site} (h : Touches parts s s')
    (hp : parts ⊆ parts') : Touches parts' s s' :=
  fun part hn => h part fun hm => hn (hp hm)

theorem Moves.widen {α : Type} {parts parts' : List Part} {work : Work α}
    (h : Moves (Touches parts) work) (hp : parts ⊆ parts') : Moves (Touches parts') work :=
  h.mono fun _ _ hs => hs.mono hp

/-- A property of runtimes is kept. -/
def Preserves (P : Runtime → Prop) (s s' : Site) : Prop := P s.runtime → P s'.runtime

instance (P : Runtime → Prop) : IsPreorder Site (Preserves P) where
  refl _ := id
  trans _ _ _ h h' := h' ∘ h

end ActiveObjects

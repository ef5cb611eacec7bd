import Mathlib.Logic.Function.Basic
import ActiveObjects.Proofs.Runtime.Bodies
import ActiveObjects.World

/-!
# Acting on one of many runtimes

An action at a runtime changes that runtime, the names and the log; the other runtimes do not
notice. A runtime that is not there answers that it is unreachable.
-/

namespace ActiveObjects.World

open Function (update)

variable {world world' : World} {id : RuntimeId} {α : Type}

/-- Each runtime is found under its own identifier. -/
def Keyed (world : World) : Prop :=
  ∀ id runtime, world.runtime? id = some runtime → runtime.id = id

/-- The bodies of a runtime; a runtime that is not there has none. -/
def bodies (world : World) (id : RuntimeId) : BodyTable :=
  ((world.runtime? id).map (·.bodies)).getD {}

theorem bodies_eq {runtime : Runtime} (h : world.runtime? id = some runtime) :
    world.bodies id = runtime.bodies := by
  rw [bodies, h]
  rfl

theorem bodies_eq_empty (h : world.runtime? id = none) : world.bodies id = {} := by
  rw [bodies, h]
  rfl

/-- Sequence numbers stay when a table is replaced by one with the same numbers. -/
theorem lastCheckpoint?_update {tables : RuntimeId → BodyTable} {place : RuntimeId}
    {table : BodyTable} {body : BodyId}
    (h : table.lastCheckpoint? body = (tables place).lastCheckpoint? body) (runtime : RuntimeId) :
    (update tables place table runtime).lastCheckpoint? body =
      (tables runtime).lastCheckpoint? body := by
  rw [Function.update_apply]
  split
  · rename_i hp
    rw [h, hp]
  · rfl

/-! ## What a site becomes -/

theorem runtime?_absorb (world : World) (site : Site) (id : RuntimeId) :
    (world.absorb site).runtime? id =
      if site.runtime.id = id then some site.runtime else world.runtime? id := by
  simp [runtime?, absorb, Std.ExtTreeMap.getElem?_insert]

theorem bodies_absorb {site : Site} (h : site.runtime.id = id) :
    (world.absorb site).bodies = update world.bodies id site.runtime.bodies := by
  funext other
  rw [bodies, runtime?_absorb, h, Function.update_apply]
  by_cases ho : id = other
  · rw [if_pos ho, if_pos ho.symm]
    rfl
  · rw [if_neg ho, if_neg (Ne.symm ho)]
    rfl

theorem Keyed.absorb (h : world.Keyed) (site : Site) : (world.absorb site).Keyed := by
  intro id runtime hr
  rw [runtime?_absorb] at hr
  split at hr
  · cases hr
    assumption
  · exact h id runtime hr

/-- A runtime that stays as it is is not noticed. -/
theorem absorb_of_runtime (hk : world.Keyed) {runtime : Runtime} {site : Site}
    (hr : world.runtime? id = some runtime) (hs : site.runtime = runtime) :
    world.absorb site = { world with naming := site.naming, log := site.log } := by
  rw [absorb, hs, hk id runtime hr]
  congr 1
  refine Std.ExtTreeMap.ext_getElem? fun other => ?_
  rw [Std.ExtTreeMap.getElem?_insert]
  split
  · rename_i ho
    exact Std.compare_eq_iff_eq.1 ho ▸ hr.symm
  · rfl

/-! ## Actions -/

theorem act_run (world : World) (id : RuntimeId) (action : Action α) :
    (act id action).run world =
      (world.perform id (attempt action)).getD (.error unreachable, world) := by
  cases h : world.perform id (attempt action) <;> simp [act, StateT.run, h]

theorem act_none (h : world.runtime? id = none) (action : Action α) :
    (act id action).run world = (.error unreachable, world) := by
  rw [act_run, perform, h]
  rfl

theorem act_some {runtime : Runtime} {site : Site} {result : Except RuntimeError α}
    {action : Action α} (h : world.runtime? id = some runtime)
    (hr : (attempt action).run (world.site runtime) = (result, site)) :
    (act id action).run world = (result, world.absorb site) := by
  rw [act_run, perform, h, Option.map_some, hr]
  rfl

theorem naming_act (world : World) (id : RuntimeId) {parts : List Part} {action : Action α}
    (ha : Moves (Touches parts) (attempt action)) (hn : .naming ∉ parts) :
    ((act id action).run world).2.naming = world.naming := by
  cases hr : world.runtime? id with
  | none => rw [act_none hr]
  | some runtime =>
    rcases hs : (attempt action).run (world.site runtime) with ⟨result, site⟩
    have ht := ha (world.site runtime) .naming hn
    rw [hs] at ht
    rw [act_some hr hs]
    exact ht

/-- An action that keeps the identity of its runtime leaves it where it is. -/
theorem act_cases {parts : List Part} {action : Action α} {result : Except RuntimeError α}
    (hk : world.Keyed) (ha : Moves (Touches parts) (attempt action)) (hi : .identity ∉ parts)
    (hr : (act id action).run world = (result, world')) :
    (world.runtime? id = none ∧ result = .error unreachable ∧ world' = world) ∨
      ∃ runtime site, world.runtime? id = some runtime ∧
        (attempt action).run (world.site runtime) = (result, site) ∧
        world' = world.absorb site ∧ site.runtime.id = id := by
  cases h : world.runtime? id with
  | none =>
    rw [act_none h] at hr
    cases hr
    exact .inl ⟨rfl, rfl, rfl⟩
  | some runtime =>
    rcases hs : (attempt action).run (world.site runtime) with ⟨found, site⟩
    rw [act_some h hs] at hr
    cases hr
    have kept := ha (world.site runtime) .identity hi
    rw [hs] at kept
    exact .inr ⟨runtime, site, rfl, hs, rfl, kept.1.trans (hk id runtime h)⟩

/-- An operation on bodies succeeds at a runtime that is there, and changes its bodies as specified,
or it changes no bodies. -/
theorem act_performs {parts : List Part} {action : Action α}
    {f : Runtime → Except RuntimeError (α × BodyTable)} {result : Except RuntimeError α}
    (hk : world.Keyed) (hp : Performs action f) (ha : Moves (Touches parts) (attempt action))
    (hi : .identity ∉ parts) (hr : (act id action).run world = (result, world')) :
    world'.Keyed ∧
      ((∃ a runtime table, result = .ok a ∧ world.runtime? id = some runtime ∧
          f runtime = .ok (a, table) ∧ world'.bodies = update world.bodies id table) ∨
        ∃ e, result = .error e ∧ world'.bodies = world.bodies ∧
          ∀ runtime, world.runtime? id = some runtime → f runtime = .error e) := by
  rcases act_cases hk ha hi hr with ⟨hn, rfl, rfl⟩ | ⟨runtime, site, hf, hs, rfl, hid⟩
  · refine ⟨hk, .inr ⟨_, rfl, rfl, ?_⟩⟩
    intro runtime hf
    rw [hn] at hf
    cases hf
  · obtain ⟨hspec, hsame⟩ := hp _ result site hs
    refine ⟨hk.absorb site, ?_⟩
    rw [bodies_absorb hid]
    cases result with
    | ok a => exact .inl ⟨a, runtime, _, rfl, hf, hspec.symm, rfl⟩
    | error e =>
      refine .inr ⟨e, rfl, ?_, ?_⟩
      · rw [hsame e rfl]
        exact (congrArg (update _ id) (bodies_eq hf).symm).trans (Function.update_eq_self _ _)
      · intro other ho
        rw [hf] at ho
        cases ho
        exact hspec.symm

end ActiveObjects.World

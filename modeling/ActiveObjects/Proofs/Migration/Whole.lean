import ActiveObjects.Proofs.Fleet.Runs

/-!
# Migrations with nothing in between

The three steps of a migration, taken at once, do what the migration of a body from runtime to
runtime does. One that succeeds leaves the target ready for operations on the body.
-/

namespace ActiveObjects

open Function (update)

/-- Whether a runtime admits bodies to a node does not depend on the bodies that it has. -/
theorem Touches.admission_eq {s s' : Site} (h : Touches [.naming, .log, .bodies, .events] s s')
    (node : String) : s'.runtime.admission node = s.runtime.admission node := by
  obtain ⟨-, -, hu, -⟩ := h .identity (by decide)
  have hs : s'.runtime.state = s.runtime.state := h .state (by decide)
  have hn : s'.runtime.nodes = s.runtime.nodes := h .nodes (by decide)
  simp only [Runtime.admission, Runtime.node, Runtime.nodeUrl, hu, hs, hn]

namespace World

variable {world world' : World} {α : Type}

/-! ## Admission -/

/-- Bodies may be put on this node. -/
def Admits (world : World) (id : RuntimeId) (node : String) : Prop :=
  ∃ runtime host, world.runtime? id = some runtime ∧ runtime.admission node = .ok host

theorem Admits.act {id place : RuntimeId} {node : String} {parts : List Part} {action : Action α}
    {result : Except RuntimeError α} (h : world.Admits id node) (hk : world.Keyed)
    (ha : Moves (Touches parts) (attempt action)) (hp : parts ⊆ [.naming, .log, .bodies, .events])
    (hr : (World.act place action).run world = (result, world')) : world'.Admits id node := by
  obtain ⟨runtime, host, hf, hh⟩ := h
  have hi : .identity ∉ parts := fun hi => absurd (hp hi) (by decide)
  rcases act_cases hk ha hi hr with ⟨-, -, rfl⟩ | ⟨other, site, ho, hs, rfl, hid⟩
  · exact ⟨runtime, host, hf, hh⟩
  · rw [Admits]
    simp only [runtime?_absorb, hid]
    by_cases hpl : place = id
    · subst hpl
      rw [hf] at ho
      cases ho
      have ht := (ha (world.site runtime)).mono hp
      rw [hs] at ht
      exact ⟨site.runtime, host, if_pos rfl, (ht.admission_eq node).trans hh⟩
    · exact ⟨runtime, host, (if_neg hpl).trans hf, hh⟩

/-! ## The three steps -/

theorem migrateBody_run (source target : RuntimeHandle) (id : BodyId) (node : String)
    (world : World) :
    (migrateBody source target id node).run world =
      match (act source.id (Runtime.beginMigration id)).run world with
      | (.error e, world₁) => (.error e, world₁)
      | (.ok (body, left), world₁) =>
        let (answer, world₂) := (act target.id (Runtime.receiveBody node body)).run world₁
        (act source.id (Runtime.endMigration id left target.url answer)).run world₂ := by
  rw [migrateBody, StateT.run_bind]
  rcases (act source.id (Runtime.beginMigration id)).run world with ⟨_ | ⟨body, left⟩, world₁⟩ <;>
    rfl

/-- The end of a migration that succeeds drops the body at the source, or leaves all bodies as they
are if the source is its own target. -/
theorem act_endMigration {source : RuntimeId} {id : BodyId} {left target : Url}
    {answer : Except RuntimeError BodyHandle} {handle : BodyHandle} (hk : world.Keyed)
    (hr : (act source (Runtime.endMigration id left target answer)).run world =
      (.ok handle, world')) :
    answer = .ok handle ∧
      (world'.bodies = world.bodies ∨
        world'.bodies =
          update world.bodies source ((world.bodies source).completeMigration id)) := by
  rcases act_cases hk (Runtime.endMigration_touches id left target answer) (by decide) hr with
    ⟨-, he, -⟩ | ⟨runtime, site, hf, hs, rfl, hi⟩
  · cases he
  · obtain ⟨rfl, hb⟩ := run_endMigration hs
    have hb : site.runtime.bodies = if target = runtime.url then runtime.bodies
        else runtime.bodies.completeMigration id := hb
    refine ⟨rfl, ?_⟩
    rw [bodies_absorb hi, hb, ← bodies_eq hf]
    split
    · exact .inl (Function.update_eq_self _ _)
    · exact .inr rfl

/-- After a migration that succeeds the target admits bodies to the node still, and the body is not
on its way out there. -/
theorem migrateBody_arrives {source target : RuntimeHandle} {id : BodyId} {node : String}
    {handle : BodyHandle} (hk : world.Keyed) (hb : ∀ id, (world.bodies id).Keyed)
    (hr : (migrateBody source target id node).run world = (.ok handle, world')) :
    world'.Admits target.id node ∧ (world'.bodies target.id).status? id ≠ some .migratingOut := by
  rw [migrateBody_run] at hr
  rcases h₁ : (act source.id (Runtime.beginMigration id)).run world with
    ⟨_ | ⟨body, left⟩, world₁⟩ <;> simp only [h₁] at hr
  · cases hr
  rcases h₂ : (act target.id (Runtime.receiveBody node body)).run world₁ with ⟨answer, world₂⟩
  simp only [h₂] at hr
  obtain ⟨hk₁, hbegin⟩ := act_performs hk (performs_beginMigration id)
    (Runtime.beginMigration_touches id) (by decide) h₁
  obtain ⟨hk₂, hreceive⟩ := act_performs hk₁ (performs_receiveBody node body)
    (Runtime.receiveBody_touches node body) (by decide) h₂
  obtain ⟨rfl, hend⟩ := act_endMigration hk₂ hr
  have hid : body.id = id := by
    rcases hbegin with ⟨_, runtime, table, ⟨⟩, hf, hs, -⟩ | ⟨_, ⟨⟩, -⟩
    split at hs
    · obtain ⟨isLocal, hh, -⟩ := BodyTable.beginMigration_eq_ok_iff.1 hs
      rw [← bodies_eq hf] at hh
      exact hb _ _ _ hh
    · cases hs
  rcases hreceive with ⟨_, runtime, table, ⟨⟩, hf, hs, hb₂⟩ | ⟨_, ⟨⟩, -⟩
  obtain ⟨host, ha, ht⟩ := bind_eq_ok_iff.1 hs
  cases ht
  have admits₁ : world₁.Admits target.id node := ⟨runtime, host, hf, ha⟩
  have admits₂ : world₂.Admits target.id node :=
    admits₁.act hk₁ (Runtime.receiveBody_touches node body) (by decide) h₂
  refine ⟨admits₂.act hk₂ (Runtime.endMigration_touches id left target.url _) (by decide) hr, ?_⟩
  have hactive : (world₂.bodies target.id).status? id = some .active := by
    rw [hb₂, Function.update_self, BodyTable.status?_host, if_pos hid]
  rcases hend with hend | hend
  · simp [hend, hactive]
  · rw [hend, Function.update_apply]
    split
    · simp [BodyTable.status?_completeMigration]
    · simp [hactive]

end World

namespace Fleet

/-- The three steps of a migration. -/
def migration (fleet : Fleet) (source target : RuntimeId) (id : BodyId) (node : String) :
    List Step :=
  [.ship source target id node, .deliver fleet.shipments.length, .settle fleet.shipments.length]

theorem after_migration {fleet : Fleet} {target : RuntimeId} {peer : Runtime}
    (ht : fleet.world.runtime? target = some peer) (source : RuntimeHandle) (id : BodyId)
    (node : String) :
    (fleet.after (fleet.migration source.id target id node)).world =
      ((World.migrateBody source peer.handle id node).run fleet.world).2 := by
  rw [World.migrateBody_run]
  rcases h₁ : (World.act source.id (Runtime.beginMigration id)).run fleet.world with
    ⟨_ | ⟨body, left⟩, world₁⟩
  · simp [after, migration, next, outcome, ht, h₁]
  · rcases h₂ : (World.act peer.handle.id (Runtime.receiveBody node body)).run world₁ with
      ⟨answer, world₂⟩
    simp only [after, migration, next, outcome, ht, h₁, h₂, List.foldl_cons, List.foldl_nil,
      List.getElem?_concat_length, List.set_append_right, Nat.le_refl, Nat.sub_self,
      List.set_cons_zero]
    rfl

end Fleet

end ActiveObjects

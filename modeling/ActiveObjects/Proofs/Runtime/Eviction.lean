import ActiveObjects.Proofs.Runtime.Bodies

/-!
# Killed nodes take their bodies with them

A node that is killed, alone or with all others, takes the bodies on it along. The bodies elsewhere
and the sequence numbers of checkpoints stay.
-/

namespace ActiveObjects

open Site

/-- Some bodies are dropped, and all else stays. -/
structure BodyTable.Sheds (table table' : BodyTable) : Prop where
  hosted? (id : BodyId) : table'.hosted? id = none ∨ table'.hosted? id = table.hosted? id
  lastCheckpoint? (id : BodyId) : table'.lastCheckpoint? id = table.lastCheckpoint? id

namespace BodyTable

theorem Sheds.refl (table : BodyTable) : table.Sheds table := ⟨fun _ => .inr rfl, fun _ => rfl⟩

theorem Sheds.trans {table₁ table₂ table₃ : BodyTable} (h : table₁.Sheds table₂)
    (h' : table₂.Sheds table₃) : table₁.Sheds table₃ where
  hosted? id := by
    rcases h'.hosted? id with gone | kept
    · exact .inl gone
    · rw [kept]
      exact h.hosted? id
  lastCheckpoint? id := (h'.lastCheckpoint? id).trans (h.lastCheckpoint? id)

theorem evict_sheds (table : BodyTable) (node : Url) : table.Sheds (table.evict node) where
  hosted? id := by
    rw [hosted?_evict]
    split
    · exact .inl rfl
    · exact .inr rfl
  lastCheckpoint? _ := rfl

theorem Sheds.status? {table table' : BodyTable} (h : table.Sheds table') (id : BodyId) :
    table'.status? id = none ∨ table'.status? id = table.status? id := by
  rcases h.hosted? id with gone | kept
  · exact .inl (congrArg (Option.map _) gone)
  · exact .inr (congrArg (Option.map _) kept)

end BodyTable

theorem BodyTable.Keyed.sheds {table table' : BodyTable} (h : table.Keyed)
    (hs : table.Sheds table') : table'.Keyed := by
  intro id hosted hh
  rcases hs.hosted? id with gone | kept
  · rw [gone] at hh
    cases hh
  · exact h id hosted (kept ▸ hh)

/-- The runtime drops some of its bodies. -/
def Evicts (s s' : Site) : Prop := s.runtime.bodies.Sheds s'.runtime.bodies

instance : IsPreorder Site Evicts where
  refl _ := .refl _
  trans _ _ _ h h' := h.trans h'

theorem Touches.evicts {parts : List Part} {s s' : Site} (h : Touches parts s s')
    (hb : .bodies ∉ parts) : Evicts s s' := by
  rw [Evicts, h.bodies_eq hb]
  exact .refl _

namespace Node

theorem tearDown_evicts (url : Url) : Moves Evicts (tearDown url) := by
  refine tearDown_moves (fun _ _ h => h.evicts (by decide)) url ?_ ?_
  · exact .mono (modifyNodes_touches (List.mem_singleton.2 rfl) _) fun _ _ h => h.evicts (by decide)
  · exact .modify fun site => site.runtime.bodies.evict_sheds url

theorem kill_evicts (name : String) : Moves Evicts (attempt (kill name)) :=
  kill_moves (fun _ _ h => h.evicts (by decide)) tearDown_evicts name

theorem killAll_evicts : Moves Evicts killAll :=
  killAll_moves (fun _ _ h => h.evicts (by decide)) tearDown_evicts

end Node

theorem Runtime.kill_evicts : Moves Evicts Runtime.kill :=
  kill_moves (fun _ _ h => h.evicts (by decide)) Node.killAll_evicts
    (VirtualNode.unregisterAll_touches.mono fun _ _ h => h.evicts (by decide))

end ActiveObjects

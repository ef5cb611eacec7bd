import ActiveObjects.Proofs.Checkpoint.Order
import ActiveObjects.Proofs.Runtime.Residence

/-!
# Bodies marked as migrating out

A body that is shipped stays in the table of its source with a mark. The mark goes when the body is
put on the runtime anew, when its node is killed, or when a migration of it is settled. It does not
matter which migration of the body that is.
-/

namespace ActiveObjects.Fleet

open Function (update)

/-- The body is on its way out of the runtime. -/
def Marked (fleet : Fleet) (runtime : RuntimeId) (id : BodyId) : Prop :=
  fleet.status? runtime id = some .migratingOut

instance (fleet : Fleet) (runtime : RuntimeId) (id : BodyId) :
    Decidable (fleet.Marked runtime id) :=
  inferInstanceAs (Decidable (_ = _))

/-- The nodes of a runtime; a runtime that is not there has none. -/
def nodes (fleet : Fleet) (runtime : RuntimeId) : NodeTable :=
  ((fleet.world.runtime? runtime).map (·.nodes)).getD ∅

/-! ## Steps that concern the mark -/

/-- A migration of the body begins at the runtime. -/
def Departs (fleet : Fleet) (runtime : RuntimeId) (id : BodyId) : Step → Prop
  | .ship source target shipped node =>
    source = runtime ∧ shipped = id ∧
      (fleet.outcome (.ship source target shipped node)).1 = .ok ()
  | _ => False

/-- The body that the step is to put on a runtime anew: it is created there under this identifier,
or taken in. -/
def arrival? (fleet : Fleet) : Step → Option (RuntimeId × BodyId)
  | .call place (.createBody fresh ..) => some (place, fresh)
  | .call place (.receiveBody _ body) => some (place, body.id)
  | .deliver i => fleet.shipments[i]?.map fun shipment => (shipment.target.id, shipment.id)
  | _ => none

/-- The body is put on the runtime anew. -/
def Places (fleet : Fleet) (runtime : RuntimeId) (id : BodyId) (step : Step) : Prop :=
  (fleet.outcome step).1 = .ok () ∧ fleet.arrival? step = some (runtime, id)

/-- The node that the body is on is killed. -/
def Drops (fleet : Fleet) (runtime : RuntimeId) (id : BodyId) : Step → Prop
  | .call place call =>
    place = runtime ∧ call.kills = true ∧ ∃ hosted ∈ (fleet.bodies runtime).hosted? id,
      hosted.nodeUrl ∉ (fleet.next (.call place call)).nodes runtime
  | _ => False

/-- To settle the migration takes the mark off: the body was refused and returns to service, or the
target has another URL and the entry of the body is dropped. -/
def Lifts (fleet : Fleet) (shipment : Shipment) : Prop :=
  match shipment.passage with
  | .answered (.error _) => True
  | .answered (.ok _) => fleet.url? shipment.source ≠ some shipment.target.url
  | _ => False

/-- A migration of the body out of the runtime is settled, and the mark taken off. -/
def Settles (fleet : Fleet) (runtime : RuntimeId) (id : BodyId) : Step → Prop
  | .settle i =>
    ∃ shipment ∈ fleet.shipments[i]?,
      shipment.source = runtime ∧ shipment.id = id ∧ fleet.Lifts shipment
  | _ => False

/-- The step leaves the body marked: it marks the body, or none of its effects takes the mark
off. -/
def Marks (fleet : Fleet) (runtime : RuntimeId) (id : BodyId) (step : Step) : Prop :=
  fleet.Departs runtime id step ∨
    fleet.Marked runtime id ∧ ¬ fleet.Places runtime id step ∧ ¬ fleet.Drops runtime id step ∧
      ¬ fleet.Settles runtime id step

instance (fleet : Fleet) (runtime : RuntimeId) (id : BodyId) :
    DecidablePred (fleet.Departs runtime id) := fun step => by
  unfold Departs
  split <;> infer_instance

instance (fleet : Fleet) (runtime : RuntimeId) (id : BodyId) :
    DecidablePred (fleet.Places runtime id) :=
  fun _ => inferInstanceAs (Decidable (_ ∧ _))

instance (fleet : Fleet) (runtime : RuntimeId) (id : BodyId) :
    DecidablePred (fleet.Drops runtime id) := fun step => by
  unfold Drops
  split <;> infer_instance

instance (fleet : Fleet) : DecidablePred fleet.Lifts
  | ⟨_, _, _, _, _, _, .answered (.error _)⟩ => isTrue trivial
  | ⟨source, target, _, _, _, _, .answered (.ok _)⟩ =>
    inferInstanceAs (Decidable (fleet.url? source ≠ some target.url))
  | ⟨_, _, _, _, _, _, .underway⟩ | ⟨_, _, _, _, _, _, .settled⟩ => isFalse fun h => h

instance (fleet : Fleet) (runtime : RuntimeId) (id : BodyId) :
    DecidablePred (fleet.Settles runtime id) := fun step => by
  unfold Settles
  split <;> infer_instance

/-! ## What becomes of the mark -/

variable {fleet fleet' : Fleet} {step : Step} {result : Except RuntimeError Unit}
  {runtime : RuntimeId} {id : BodyId}

/-- After a kill the bodies are there whose nodes are. -/
theorem hosted?_next_of_kills (hs : fleet.Sound) (hh : fleet.world.Each Runtime.Housed)
    {call : Call} (hk : call.kills = true) {hosted : HostedBody} :
    ((fleet.next (.call runtime call)).bodies runtime).hosted? id = some hosted ↔
      (fleet.bodies runtime).hosted? id = some hosted ∧
        hosted.nodeUrl ∈ (fleet.next (.call runtime call)).nodes runtime := by
  rcases hr : (World.act runtime (call.action (fleet.world.constructors runtime))).run
    fleet.world with ⟨result, world⟩
  have hn : (fleet.next (.call runtime call)).world = world := by
    unfold next outcome
    simp only [hr]
  rw [bodies, bodies, nodes, hn]
  rcases World.act_cases hs.world (call.action_touches _) call.identity_notMem_footprint hr with
    ⟨hnone, -, rfl⟩ | ⟨site, site', hf, hrun, rfl, hid⟩
  · simp [World.bodies_eq_empty hnone]
  · have hc := Call.action_clears (fleet.world.constructors runtime) hk (fleet.world.site site)
      (hh runtime site hf)
    rw [hrun] at hc
    rw [World.bodies_absorb hid, Function.update_self, World.bodies_eq hf, World.runtime?_absorb,
      if_pos hid]
    exact hc.hosted?_iff

/-- A call that leaves the entry of a body as it is does not kill its node. -/
theorem not_drops_of_hosted? (hs : fleet.Sound) (hh : fleet.world.Each Runtime.Housed)
    (h : ((fleet.next step).bodies runtime).hosted? id = (fleet.bodies runtime).hosted? id) :
    ¬ fleet.Drops runtime id step := by
  intro hd
  cases step with
  | call place call =>
    obtain ⟨rfl, hk, hosted, hm, hn⟩ := hd
    exact hn ((hosted?_next_of_kills hs hh hk).1 (h.trans hm)).2
  | _ => exact hd

/-- A step that is about another matter does not put the body on a runtime anew. -/
theorem not_places_of_none (h : fleet.arrival? step = none) : ¬ fleet.Places runtime id step := by
  rintro ⟨-, h'⟩
  cases h.symm.trans h'

/-- A refused delivery leaves no answer that the target took the body. -/
theorem not_places_of_failed {i : Nat} {shipment : Shipment} {e : RuntimeError}
    (hs : fleet.shipments[i]? = some shipment)
    (hn : (fleet.next (.deliver i)).shipments =
      fleet.shipments.set i { shipment with passage := .answered (.error e) }) :
    ¬ fleet.Places runtime id (.deliver i) := by
  rintro ⟨hok, -⟩
  obtain ⟨other, handle, ho, -, hn'⟩ := shipments_of_deliver hok
  have hlt := (List.getElem?_eq_some_iff.1 hs).1
  have h := congrArg (·[i]?) (hn.symm.trans hn')
  simp [hlt] at h

/-! ### One case each -/

/-- The mark stays as it is. -/
theorem marked_iff_of_same {status : Option BodyStatus} (h : status = fleet.status? runtime id)
    (hd : ¬ fleet.Departs runtime id step)
    (hk : fleet.Marked runtime id → ¬ fleet.Places runtime id step ∧
      ¬ fleet.Drops runtime id step ∧ ¬ fleet.Settles runtime id step) :
    status = some .migratingOut ↔ fleet.Marks runtime id step := by
  subst h
  constructor
  · exact fun hm => .inr ⟨hm, hk hm⟩
  · rintro (h | ⟨hm, -⟩)
    · exact absurd h hd
    · exact hm

/-- The mark, if there was one, is taken off. -/
theorem marked_iff_of_cleared {status : Option BodyStatus} (h : status ≠ some .migratingOut)
    (hd : ¬ fleet.Departs runtime id step)
    (hk : fleet.Marked runtime id → fleet.Places runtime id step ∨
      fleet.Drops runtime id step ∨ fleet.Settles runtime id step) :
    status = some .migratingOut ↔ fleet.Marks runtime id step := by
  constructor
  · exact fun hm => absurd hm h
  · rintro (h | ⟨hm, hp, hn, hs⟩)
    · exact absurd h hd
    · rcases hk hm with h | h | h
      · exact absurd h hp
      · exact absurd h hn
      · exact absurd h hs

/-- Other bodies do not notice what becomes of one, nor do other runtimes. -/
theorem status?_update_of_ne {place : RuntimeId} {changed : BodyId} {table : BodyTable}
    (h : ¬ (place = runtime ∧ changed = id))
    (ht : changed ≠ id → table.status? id = (fleet.bodies place).status? id) :
    (update fleet.bodies place table runtime).status? id = fleet.status? runtime id := by
  rw [Function.update_apply, status?]
  split
  · rename_i hr
    subst hr
    exact ht fun hid => h ⟨rfl, hid⟩
  · rfl

/-- The body that a step puts on a runtime anew is not marked there. -/
theorem marked_arrival_iff {place : RuntimeId} {body : Body}
    (ha : fleet.arrival? step = some (place, body.id)) (hok : (fleet.outcome step).1 = .ok ())
    (hd : ¬ fleet.Departs runtime id step) (hk : ¬ fleet.Drops runtime id step)
    (hs : ¬ fleet.Settles runtime id step) (host : Url) (isLocal : Bool) :
    (update fleet.bodies place ((fleet.bodies place).host host body isLocal) runtime).status? id =
        some .migratingOut ↔ fleet.Marks runtime id step := by
  by_cases hp : place = runtime ∧ body.id = id
  · refine marked_iff_of_cleared ?_ hd fun _ => .inl ⟨hok, by rw [ha, hp.1, hp.2]⟩
    rw [hp.1, Function.update_self, BodyTable.status?_host, if_pos hp.2]
    simp
  · refine marked_iff_of_same (status?_update_of_ne hp fun hne => ?_) hd fun _ => ⟨?_, hk, hs⟩
    · rw [BodyTable.status?_host, if_neg hne]
    · rintro ⟨-, h⟩
      exact hp (Prod.mk.inj (Option.some.inj (ha.symm.trans h)))

/-- A kill takes the mark off where it takes the node. -/
theorem marked_kill_iff (hs : fleet.Sound) (hh : fleet.world.Each Runtime.Housed)
    {place : RuntimeId} {call : Call} {table : BodyTable} (hk : call.kills = true)
    (hb : (fleet.next (.call place call)).bodies = update fleet.bodies place table) :
    (fleet.next (.call place call)).Marked runtime id ↔
      fleet.Marks runtime id (.call place call) := by
  have hn : ¬ fleet.Places runtime id (.call place call) := by
    refine not_places_of_none ?_
    cases call <;> first | rfl | cases hk
  by_cases hp : place = runtime
  swap
  · have hsame : (fleet.next (.call place call)).status? runtime id = fleet.status? runtime id := by
      rw [status?, hb, Function.update_of_ne (Ne.symm hp)]
      rfl
    exact marked_iff_of_same hsame (fun h => h) fun _ => ⟨hn, fun h => hp h.1, fun h => h⟩
  subst hp
  have hkill {hosted : HostedBody} :
      ((fleet.next (.call place call)).bodies place).hosted? id = some hosted ↔
        (fleet.bodies place).hosted? id = some hosted ∧
          hosted.nodeUrl ∈ (fleet.next (.call place call)).nodes place :=
    hosted?_next_of_kills hs hh hk
  rw [Marked, status?, BodyTable.status?, Option.map_eq_some_iff]
  constructor
  · rintro ⟨hosted, hm, hmark⟩
    obtain ⟨hold, hnode⟩ := hkill.1 hm
    refine .inr ⟨?_, hn, ?_, fun h => h⟩
    · rw [Marked, status?, BodyTable.status?, hold]
      exact congrArg some hmark
    · rintro ⟨-, -, other, hother, hgone⟩
      cases hold.symm.trans hother
      exact hgone hnode
  · rintro (h | ⟨hm, -, hd, -⟩)
    · exact h.elim
    · obtain ⟨hosted, hold, hmark⟩ := Option.map_eq_some_iff.1 hm
      refine ⟨hosted, hkill.2 ⟨hold, ?_⟩, hmark⟩
      by_contra hgone
      exact hd ⟨rfl, hk, hosted, hold, hgone⟩

/-- A body on its way out is not restored, so a checkpoint that is applied takes no mark off. -/
theorem marked_restore_iff {place : RuntimeId} {node : String} {snapshot : Checkpoint}
    {sequence : UInt64} {host : Url} {handle : BodyHandle} {table : BodyTable}
    (hc : (fleet.bodies place).checkpoint host snapshot sequence = .ok (handle, table)) :
    (update fleet.bodies place table runtime).status? id = some .migratingOut ↔
      fleet.Marks runtime id (.call place (.receiveCheckpoint node snapshot sequence)) := by
  by_cases hp : place = runtime ∧ snapshot.bodyId = id
  · obtain ⟨rfl, rfl⟩ := hp
    refine marked_iff_of_cleared ?_ (fun h => h) fun hm => ?_
    · rw [Function.update_self, BodyTable.status?_checkpoint hc, if_pos rfl]
      simp
    · obtain ⟨hfault, -⟩ := BodyTable.checkpoint_eq_ok_iff.1 hc
      exact absurd hm (BodyTable.checkpointFault?_eq_none_iff.1 hfault).2
  · refine marked_iff_of_same (status?_update_of_ne hp fun hne => ?_) (fun h => h)
      fun _ => ⟨not_places_of_none rfl, fun h => Bool.false_ne_true h.2.1, fun h => h⟩
    rw [BodyTable.status?_checkpoint hc, if_neg hne]

theorem marked_call_iff (hs : fleet.Sound) (hh : fleet.world.Each Runtime.Housed)
    {place : RuntimeId} {call : Call} {site : Runtime} {table : BodyTable}
    (hr : fleet.world.runtime? place = some site)
    (he : call.Effect (fleet.world.constructors place) site result table)
    (ho : (fleet.outcome (.call place call)).1 = result)
    (hb : (fleet.next (.call place call)).bodies = update fleet.bodies place table) :
    (update fleet.bodies place table runtime).status? id = some .migratingOut ↔
      fleet.Marks runtime id (.call place call) := by
  have hown : fleet.bodies place = site.bodies := World.bodies_eq hr
  have hsame : update fleet.bodies place site.bodies = fleet.bodies := by
    rw [← hown, Function.update_eq_self]
  cases he with
  | kept call result hk =>
    rw [hsame] at hb ⊢
    refine marked_iff_of_same rfl (fun h => h) fun _ =>
      ⟨not_places_of_none ?_, not_drops_of_hosted? hs hh (by rw [hb]), fun h => h⟩
    cases call <;> first | rfl | simp [Call.footprint] at hk
  | refused call e =>
    rw [hsame] at hb ⊢
    refine marked_iff_of_same rfl (fun h => h) fun _ =>
      ⟨?_, not_drops_of_hosted? hs hh (by rw [hb]), fun h => h⟩
    rintro ⟨hok, -⟩
    cases ho.symm.trans hok
  | shed result hk hsheds =>
    rw [← hb]
    exact marked_kill_iff hs hh hk hb
  | created ha hc =>
    rw [← hown]
    exact marked_arrival_iff rfl ho (fun h => h) (fun h => Bool.false_ne_true h.2.1) (fun h => h)
      _ _
  | received ha =>
    rw [← hown]
    exact marked_arrival_iff rfl ho (fun h => h) (fun h => Bool.false_ne_true h.2.1) (fun h => h)
      _ _
  | restored ha hc =>
    rw [← hown] at hc
    exact marked_restore_iff hc

theorem marked_ship_iff {source target : RuntimeId} {shipped : BodyId} {node : String} {body : Body}
    {left : Url} {isLocal : Bool}
    (hb : (fleet.bodies source).hosted? shipped = some ⟨body, left, isLocal, .active⟩)
    (ho : (fleet.outcome (.ship source target shipped node)).1 = .ok ()) :
    (update fleet.bodies source ((fleet.bodies source).setStatus shipped .migratingOut)
        runtime).status? id = some .migratingOut ↔
      fleet.Marks runtime id (.ship source target shipped node) := by
  by_cases hp : source = runtime ∧ shipped = id
  · obtain ⟨rfl, rfl⟩ := hp
    have hactive : (fleet.bodies source).status? shipped = some .active := by
      rw [BodyTable.status?, hb]
      rfl
    rw [Function.update_self, BodyTable.status?_setStatus, if_pos rfl, hactive]
    exact iff_of_true rfl (.inl ⟨rfl, rfl, ho⟩)
  · refine marked_iff_of_same (status?_update_of_ne hp fun hne => ?_) (fun h => hp ⟨h.1, h.2.1⟩)
      fun _ => ⟨not_places_of_none rfl, fun h => h, fun h => h⟩
    rw [BodyTable.status?_setStatus, if_neg hne]

section

variable {i : Nat} {shipment : Shipment}

/-- A migration of another body, or out of another runtime, leaves the mark alone. -/
theorem not_settles (hi : fleet.shipments[i]? = some shipment)
    (h : ¬ (shipment.source = runtime ∧ shipment.id = id)) :
    ¬ fleet.Settles runtime id (.settle i) := by
  rintro ⟨other, ho, hsource, hid, -⟩
  cases hi.symm.trans ho
  exact h ⟨hsource, hid⟩

theorem marked_return_iff {e : RuntimeError} (hi : fleet.shipments[i]? = some shipment)
    (hp : shipment.passage = .answered (.error e)) :
    (update fleet.bodies shipment.source
        ((fleet.bodies shipment.source).abortMigration shipment.id) runtime).status? id =
        some .migratingOut ↔ fleet.Marks runtime id (.settle i) := by
  by_cases hs : shipment.source = runtime ∧ shipment.id = id
  · refine marked_iff_of_cleared ?_ (fun h => h) fun _ => .inr (.inr ?_)
    · rw [hs.1, Function.update_self, BodyTable.abortMigration, BodyTable.status?_setStatus,
        if_pos hs.2]
      cases (fleet.bodies runtime).status? id <;> simp
    · exact ⟨shipment, hi, hs.1, hs.2, by rw [Lifts, hp]; trivial⟩
  · refine marked_iff_of_same (status?_update_of_ne hs fun hne => ?_) (fun h => h)
      fun _ => ⟨not_places_of_none rfl, fun h => h, not_settles hi hs⟩
    rw [BodyTable.abortMigration, BodyTable.status?_setStatus, if_neg hne]

theorem marked_drop_iff {handle : BodyHandle} {site : Runtime}
    (hi : fleet.shipments[i]? = some shipment) (hp : shipment.passage = .answered (.ok handle))
    (hr : fleet.world.runtime? shipment.source = some site) (hu : shipment.target.url ≠ site.url) :
    (update fleet.bodies shipment.source
        ((fleet.bodies shipment.source).completeMigration shipment.id) runtime).status? id =
        some .migratingOut ↔ fleet.Marks runtime id (.settle i) := by
  by_cases hs : shipment.source = runtime ∧ shipment.id = id
  · refine marked_iff_of_cleared ?_ (fun h => h) fun _ => .inr (.inr ?_)
    · rw [hs.1, Function.update_self, BodyTable.status?_completeMigration, if_pos hs.2]
      simp
    · refine ⟨shipment, hi, hs.1, hs.2, ?_⟩
      rw [Lifts, hp]
      simpa [url?, hr] using Ne.symm hu
  · refine marked_iff_of_same (status?_update_of_ne hs fun hne => ?_) (fun h => h)
      fun _ => ⟨not_places_of_none rfl, fun h => h, not_settles hi hs⟩
    rw [BodyTable.status?_completeMigration, if_neg hne]

/-- A settled migration of a runtime to itself has no bearing on the mark. -/
theorem marked_stay_iff {handle : BodyHandle} (hi : fleet.shipments[i]? = some shipment)
    (hp : shipment.passage = .answered (.ok handle))
    (hu : ∀ site, fleet.world.runtime? shipment.source = some site →
      shipment.target.url = site.url) :
    (fleet.bodies runtime).status? id = some .migratingOut ↔
      fleet.Marks runtime id (.settle i) := by
  refine marked_iff_of_same rfl (fun h => h) fun hm => ⟨not_places_of_none rfl, fun h => h, ?_⟩
  rintro ⟨other, hother, rfl, -, hlifts⟩
  cases hi.symm.trans hother
  obtain ⟨site, hr⟩ := exists_runtime hm
  rw [Lifts, hp, url?, hr, hu site hr] at hlifts
  exact hlifts rfl

end

/-- A step that is refused, or is about something else, leaves the mark alone. -/
theorem marked_idle_iff (hs : fleet.Sound) (hh : fleet.world.Each Runtime.Housed)
    (hb : (fleet.next step).bodies = fleet.bodies)
    (hn : (fleet.next step).shipments = fleet.shipments)
    (hc : ∀ place call, step = .call place call → ∃ e, (fleet.outcome step).1 = .error e)
    (hset : ∀ i, step = .settle i → ∀ shipment answer, fleet.shipments[i]? = some shipment →
      shipment.passage ≠ .answered answer) :
    (fleet.bodies runtime).status? id = some .migratingOut ↔ fleet.Marks runtime id step := by
  refine marked_iff_of_same rfl ?_ fun _ => ⟨?_, not_drops_of_hosted? hs hh (by rw [hb]), ?_⟩
  · cases step with
    | ship source target shipped node =>
      rintro ⟨-, -, hok⟩
      obtain ⟨peer, body, left, -, hmore⟩ := shipments_of_ship hok
      have hlen := congrArg List.length (hn.symm.trans hmore)
      simp at hlen
    | _ => exact fun h => h
  · rintro ⟨hok, hp⟩
    cases step with
    | call place call =>
      obtain ⟨e, he⟩ := hc _ _ rfl
      cases he.symm.trans hok
    | deliver i =>
      obtain ⟨shipment, handle, hi, hpassage, hmore⟩ := shipments_of_deliver hok
      have hlt := (List.getElem?_eq_some_iff.1 hi).1
      have h := congrArg (·[i]?) (hn.symm.trans hmore)
      simp only [hi, List.getElem?_set_self hlt, Option.some.injEq] at h
      rw [h] at hpassage
      cases hpassage
    | _ => cases hp
  · cases step with
    | settle i =>
      rintro ⟨shipment, hi, -, -, hlifts⟩
      cases hpassage : shipment.passage with
      | answered answer => exact hset i rfl shipment answer hi hpassage
      | _ => simp [Lifts, hpassage] at hlifts
    | _ => exact fun h => h

/-- A body is marked when a migration of it begins, and it stays marked until it is placed anew, its
node is killed, or a migration of it is settled. -/
theorem marked_next_iff (hs : fleet.Sound) (hh : fleet.world.Each Runtime.Housed) :
    (fleet.next step).Marked runtime id ↔ fleet.Marks runtime id step := by
  obtain ⟨result, ha⟩ := next_advance hs.world step
  have ho := ha.outcome_eq
  have ht := ha.transition
  change ((fleet.next step).bodies runtime).status? id = _ ↔ _
  generalize hb : (fleet.next step).bodies = tables at ht ⊢
  generalize hn : (fleet.next step).shipments = shipments at ht
  cases ht with
  | idle step result hc hset =>
    refine marked_idle_iff hs hh hb hn (fun place call h => ?_) hset
    obtain ⟨e, rfl⟩ := hc place call h
    exact ⟨e, ho⟩
  | called hr he => exact marked_call_iff hs hh hr he ho hb
  | shipped hbody => exact marked_ship_iff hbody ho
  | @delivered i shipment hi hp host handle =>
    refine marked_arrival_iff ?_ ho (fun h => h) (fun h => h) (fun h => h) host true
    rw [arrival?, hi, hs.shipments _ (List.mem_of_getElem? hi)]
    rfl
  | failed hi hp step hd result e =>
    rcases hd with rfl | ⟨e', rfl⟩
    · exact marked_iff_of_same rfl (fun h => h)
        fun _ => ⟨not_places_of_failed hi hn, fun h => h, fun h => h⟩
    · exact marked_iff_of_same rfl (fun h => h)
        fun _ => ⟨not_places_of_none rfl, fun h => h, fun h => h⟩
  | returned hi hp result => exact marked_return_iff hi hp
  | dropped hi hp hr hu result => exact marked_drop_iff hi hp hr hu
  | stayed hi hp hu result => exact marked_stay_iff hi hp hu

/-- A body that is marked does not begin another migration. -/
theorem Marked.not_departs (h : fleet.Marked runtime id) (hk : fleet.world.Keyed) :
    ¬ fleet.Departs runtime id step := by
  cases step with
  | ship source target shipped node =>
    rintro ⟨rfl, rfl, hok⟩
    have hactive := ((ship_eq_ok_iff hk).1 hok).2.2
    cases h.symm.trans hactive
  | _ => exact fun h => h

end ActiveObjects.Fleet

import ActiveObjects.Proofs.Fleet.Runs

/-!
# Who holds a body

A body is held by each runtime that hosts it as active, and by each shipment of it that is still to
be put into service, at the target or, if it is refused, back at the source. Steps hand a body from
one holder to another; they add a holder only when a body is created, taken in from outside or
restored, and take one away when nodes are killed or when a migration is settled that lost its
body on the way.
-/

namespace ActiveObjects

open Function (update)

inductive Holder where
  | runtime (id : RuntimeId)
  /-- A shipment, by its place in the list of all. -/
  | shipment (place : Nat)
deriving DecidableEq

/-- The body is still to be put into service. -/
def Passage.isOpen : Passage → Bool
  | underway => true
  | answered (.error _) => true
  | answered (.ok _) => false
  | settled => false

namespace Fleet

/-- The holders of a body, by the bodies of all runtimes and the shipments. -/
def HeldBy (tables : RuntimeId → BodyTable) (shipments : List Shipment) (id : BodyId) :
    Holder → Prop
  | .runtime runtime => (tables runtime).status? id = some .active
  | .shipment place =>
    ∃ shipment, shipments[place]? = some shipment ∧ shipment.id = id ∧ shipment.passage.isOpen

def Holds (fleet : Fleet) (id : BodyId) : Holder → Prop := HeldBy fleet.bodies fleet.shipments id

/-- The runtime that answers for a holder; for a body on its way that is the source. -/
def home (shipments : List Shipment) : Holder → Option RuntimeId
  | .runtime id => some id
  | .shipment place => shipments[place]?.map (·.source)

/-- To settle the migration now loses the body: the target took it, but the source hosts a body of
that name again, which came back in the meantime; or the target refused it, but the source has no
entry left to return it to. -/
def Wastes (fleet : Fleet) (shipment : Shipment) : Prop :=
  match shipment.passage with
  | .answered (.ok _) =>
    fleet.url? shipment.source ≠ some shipment.target.url ∧
      fleet.status? shipment.source shipment.id = some .active
  | .answered (.error _) => fleet.status? shipment.source shipment.id = none
  | _ => False

instance (fleet : Fleet) (shipment : Shipment) : Decidable (fleet.Wastes shipment) := by
  unfold Wastes
  split <;> infer_instance

/-- A step settles a migration and loses the body. -/
def Loses (fleet : Fleet) (id : BodyId) : Step → Prop
  | .settle i =>
    ∃ shipment, fleet.shipments[i]? = some shipment ∧ shipment.id = id ∧ fleet.Wastes shipment
  | _ => False

instance (fleet : Fleet) (id : BodyId) : DecidablePred (fleet.Loses id)
  | .settle i =>
    match h : fleet.shipments[i]? with
    | none => isFalse fun ⟨_, hs, _⟩ => nomatch h.symm.trans hs
    | some shipment =>
      decidable_of_iff (shipment.id = id ∧ fleet.Wastes shipment)
        ⟨fun hl => ⟨shipment, h, hl⟩,
          fun ⟨_, hs, hl⟩ => (Option.some.inj (h.symm.trans hs)) ▸ hl⟩
  | .start _ | .naming _ | .registries _ | .call .. | .ship .. | .deliver _ | .lose .. =>
    isFalse fun h => h

/-- A body enters a runtime in another way than through a shipment. -/
inductive Enters (fleet : Fleet) (id : BodyId) : Step → Except RuntimeError Unit → Prop where
  | created (runtime : RuntimeId) (node : String) (call : ConstructorCall) (isLocal : Bool) :
    Enters fleet id (.call runtime (.createBody id node call isLocal)) (.ok ())
  | received (runtime : RuntimeId) (node : String) {body : Body} (hid : body.id = id) :
    Enters fleet id (.call runtime (.receiveBody node body)) (.ok ())
  | restored {runtime : RuntimeId} (node : String) {snapshot : Checkpoint} (sequence : UInt64)
    (hid : snapshot.bodyId = id) (hn : fleet.status? runtime id = none) :
    Enters fleet id (.call runtime (.receiveCheckpoint node snapshot sequence)) (.ok ())

/-- The ways that a body takes from one holder to the next. -/
inductive Route (fleet : Fleet) : Step → Holder → Holder → Prop where
  | out (source target : RuntimeId) (id : BodyId) (node : String) :
    Route fleet (.ship source target id node) (.runtime source) (.shipment fleet.shipments.length)
  | across {i : Nat} {shipment : Shipment} (hs : fleet.shipments[i]? = some shipment) :
    Route fleet (.deliver i) (.shipment i) (.runtime shipment.target.id)
  | back {i : Nat} {shipment : Shipment} (hs : fleet.shipments[i]? = some shipment) :
    Route fleet (.settle i) (.shipment i) (.runtime shipment.source)

/-- How a step changes the holders of a body. -/
inductive Handover (fleet : Fleet) (id : BodyId) :
    Step → Except RuntimeError Unit → (Holder → Prop) → Prop where
  | unchanged {holds : Holder → Prop} {step : Step} (hl : ¬ fleet.Loses id step)
    (result : Except RuntimeError Unit) (h : ∀ x, holds x ↔ fleet.Holds id x) :
    Handover fleet id step result holds
  | moved {holds : Holder → Prop} {step : Step} (hl : ¬ fleet.Loses id step)
    (result : Except RuntimeError Unit) {giver taker : Holder} (hr : fleet.Route step giver taker)
    (hg : fleet.Holds id giver) (h : ∀ x, holds x ↔ x = taker ∨ fleet.Holds id x ∧ x ≠ giver) :
    Handover fleet id step result holds
  | entered {holds : Holder → Prop} {step : Step} {result : Except RuntimeError Unit}
    (he : fleet.Enters id step result) (taker : Holder)
    (h : ∀ x, holds x ↔ x = taker ∨ fleet.Holds id x) : Handover fleet id step result holds
  | killed {holds : Holder → Prop} {runtime : RuntimeId} {call : Call} (hk : call.kills = true)
    (result : Except RuntimeError Unit) (h : ∀ x, holds x → fleet.Holds id x) :
    Handover fleet id (.call runtime call) result holds
  | lost {holds : Holder → Prop} {step : Step} (hl : fleet.Loses id step)
    (result : Except RuntimeError Unit) (giver : Holder) (hg : fleet.Holds id giver)
    (h : ∀ x, holds x ↔ fleet.Holds id x ∧ x ≠ giver) :
    Handover fleet id step result holds

/-! ## Changed tables and shipments -/

section

variable {fleet : Fleet} {tables : RuntimeId → BodyTable} {shipments : List Shipment} {id : BodyId}

theorem heldBy_update (runtime : RuntimeId) (table : BodyTable) (other : RuntimeId) :
    HeldBy (update tables runtime table) shipments id (.runtime other) ↔
      if other = runtime then table.status? id = some .active
      else HeldBy tables shipments id (.runtime other) := by
  simp only [HeldBy, Function.update_apply]
  split <;> rfl

/-- A shipment that gets on is a holder as long as it is open. -/
theorem heldBy_set {i : Nat} {shipment : Shipment} (hs : shipments[i]? = some shipment)
    (passage : Passage) (place : Nat) :
    HeldBy tables (shipments.set i { shipment with passage }) id (.shipment place) ↔
      if place = i then shipment.id = id ∧ passage.isOpen
      else HeldBy tables shipments id (.shipment place) := by
  simp only [HeldBy]
  by_cases hp : place = i
  · subst hp
    have hlt := (List.getElem?_eq_some_iff.1 hs).1
    simp [hlt]
  · simp [List.getElem?_set_ne (Ne.symm hp), hp]

theorem heldBy_append (shipment : Shipment) (place : Nat) :
    HeldBy tables (shipments ++ [shipment]) id (.shipment place) ↔
      place = shipments.length ∧ shipment.id = id ∧ shipment.passage.isOpen ∨
        HeldBy tables shipments id (.shipment place) := by
  simp only [HeldBy]
  rcases Nat.lt_trichotomy place shipments.length with hp | rfl | hp
  · rw [List.getElem?_append_left hp]
    simp [Nat.ne_of_lt hp]
  · simp
  · rw [List.getElem?_append_right (Nat.le_of_lt hp), List.getElem?_eq_none (Nat.le_of_lt hp)]
    have hne : place - shipments.length ≠ 0 := by omega
    have hne' : place ≠ shipments.length := by omega
    simp [hne', hne]

/-- A body that is put on a runtime makes the runtime a holder. -/
theorem holds_of_hosted {runtime : RuntimeId} {table : BodyTable} {arrived : BodyId}
    (ht : ∀ id, table.status? id =
      if arrived = id then some .active else (fleet.bodies runtime).status? id)
    (id : BodyId) (x : Holder) :
    HeldBy (update fleet.bodies runtime table) fleet.shipments id x ↔
      (arrived = id ∧ x = .runtime runtime) ∨ fleet.Holds id x := by
  cases x with
  | runtime other =>
    rw [heldBy_update, ht]
    by_cases ho : other = runtime
    · subst ho
      by_cases ha : arrived = id <;> simp [ha, Holds, HeldBy]
    · simp [ho, Holds]
  | shipment place => simp [Holds, HeldBy]

end

/-! ## Every step hands bodies over -/

section

variable {fleet : Fleet} {result : Except RuntimeError Unit}

theorem Handover.of_hosted {step : Step} {runtime : RuntimeId} {table : BodyTable}
    {arrived id : BodyId}
    (ht : ∀ id, table.status? id =
      if arrived = id then some .active else (fleet.bodies runtime).status? id)
    (hl : ¬ fleet.Loses id step)
    (he : arrived = id → fleet.status? runtime id ≠ some .active → fleet.Enters id step result) :
    Handover fleet id step result
      (HeldBy (update fleet.bodies runtime table) fleet.shipments id) := by
  by_cases ha : arrived = id ∧ fleet.status? runtime id ≠ some .active
  · refine .entered (he ha.1 ha.2) (.runtime runtime) ?_
    intro x
    rw [holds_of_hosted ht]
    simp [ha.1]
  · refine .unchanged hl _ ?_
    intro x
    rw [holds_of_hosted ht]
    constructor
    · rintro (⟨hi, rfl⟩ | h)
      · by_cases hs : fleet.status? runtime id = some .active
        · exact hs
        · exact absurd ⟨hi, hs⟩ ha
      · exact h
    · exact .inr

theorem handover_of_call {runtime : RuntimeId} {call : Call} {site : Runtime} {table : BodyTable}
    (hr : fleet.world.runtime? runtime = some site)
    (he : call.Effect (fleet.world.constructors runtime) site result table) (id : BodyId) :
    Handover fleet id (.call runtime call) result
      (HeldBy (update fleet.bodies runtime table) fleet.shipments id) := by
  have hb : site.bodies = fleet.bodies runtime := (World.bodies_eq hr).symm
  cases he with
  | kept call result h =>
    rw [hb, Function.update_eq_self]
    exact .unchanged (by exact fun h => h) _ fun _ => .rfl
  | refused call e =>
    rw [hb, Function.update_eq_self]
    exact .unchanged (by exact fun h => h) _ fun _ => .rfl
  | shed result hk hs =>
    refine .killed hk _ ?_
    intro x hx
    cases x with
    | runtime other =>
      rw [heldBy_update] at hx
      split at hx
      · rename_i ho
        subst ho
        rcases hs.status? id with gone | same
        · rw [gone] at hx
          cases hx
        · rw [same, hb] at hx
          exact hx
      · exact hx
    | shipment place => exact hx
  | created ha hc =>
    refine .of_hosted (fun id => by rw [BodyTable.status?_host, hb]) (by exact fun h => h) ?_
    rintro rfl -
    exact .created _ _ _ _
  | received ha =>
    refine .of_hosted (fun id => by rw [BodyTable.status?_host, hb]) (by exact fun h => h) ?_
    rintro hid -
    exact .received _ _ hid
  | restored ha hc =>
    refine .of_hosted (fun id => by rw [BodyTable.status?_checkpoint hc, hb])
      (by exact fun h => h) ?_
    intro hid hn
    refine .restored _ _ hid ?_
    obtain ⟨hf, -⟩ := BodyTable.checkpoint_eq_ok_iff.1 hc
    have hm := (BodyTable.checkpointFault?_eq_none_iff.1 hf).2
    rw [hb, hid] at hm
    rw [status?] at hn ⊢
    rcases hs : (fleet.bodies runtime).status? id with _ | _ | _
    · rfl
    · exact absurd hs hn
    · exact absurd hs hm

theorem handover_of_ship {source target : RuntimeId} {shipped : BodyId} {node : String}
    {peer : RuntimeHandle} {body : Body} {left : Url} {isLocal : Bool}
    (hb : (fleet.bodies source).hosted? shipped = some ⟨body, left, isLocal, .active⟩)
    (id : BodyId) :
    Handover fleet id (.ship source target shipped node) result
      (HeldBy (update fleet.bodies source ((fleet.bodies source).setStatus shipped .migratingOut))
        (fleet.shipments ++ [⟨source, peer, node, shipped, body, left, .underway⟩]) id) := by
  have hs : fleet.status? source shipped = some .active := by
    rw [status?, BodyTable.status?, hb]
    rfl
  by_cases hi : shipped = id
  · subst hi
    refine .moved (by exact fun h => h) _ (.out source target shipped node) hs ?_
    intro x
    cases x with
    | runtime other =>
      rw [heldBy_update, BodyTable.status?_setStatus]
      by_cases ho : other = source
      · subst ho
        rw [status?] at hs
        simp [hs]
      · simp [ho, Holds, HeldBy]
    | shipment place =>
      rw [heldBy_append]
      simp [Passage.isOpen, Holds, HeldBy]
  · refine .unchanged (by exact fun h => h) _ ?_
    intro x
    cases x with
    | runtime other =>
      rw [heldBy_update, BodyTable.status?_setStatus]
      by_cases ho : other = source
      · subst ho
        simp [hi, Holds, HeldBy]
      · simp [ho, Holds, HeldBy]
    | shipment place =>
      rw [heldBy_append]
      simp [hi, Holds, HeldBy]

end

/-! ### Shipments that get on -/

section

variable {fleet : Fleet} {result : Except RuntimeError Unit} {i : Nat} {shipment : Shipment}
  {step : Step} {runtime : RuntimeId} {table : BodyTable} {passage : Passage} {id : BodyId}

theorem not_loses (hs : fleet.shipments[i]? = some shipment) (hi : shipment.id ≠ id) :
    ¬ fleet.Loses id (.settle i) := by
  rintro ⟨other, ho, rfl, -⟩
  rw [hs] at ho
  cases ho
  exact hi rfl

/-- Neither the body on the runtime nor the shipment changes between holding and not holding. -/
theorem Handover.of_same (hs : fleet.shipments[i]? = some shipment) (hl : ¬ fleet.Loses id step)
    (ht : table.status? id = some .active ↔ fleet.status? runtime id = some .active)
    (hp : shipment.id = id → passage.isOpen = shipment.passage.isOpen) :
    Handover fleet id step result
      (HeldBy (update fleet.bodies runtime table)
        (fleet.shipments.set i { shipment with passage }) id) := by
  refine .unchanged hl _ ?_
  intro x
  cases x with
  | runtime other =>
    rw [heldBy_update]
    split
    · rename_i ho
      subst ho
      exact ht
    · rfl
  | shipment place =>
    rw [heldBy_set hs]
    by_cases hpl : place = i
    · subst hpl
      rw [if_pos rfl]
      constructor
      · rintro ⟨hi, hopen⟩
        exact ⟨shipment, hs, hi, hp hi ▸ hopen⟩
      · rintro ⟨other, ho, hi, hopen⟩
        rw [hs] at ho
        cases ho
        exact ⟨hi, hp hi ▸ hopen⟩
    · simp [hpl, Holds, HeldBy]

/-- The body goes from the shipment to the runtime. -/
theorem Handover.of_arrival (hs : fleet.shipments[i]? = some shipment) (hl : ¬ fleet.Loses id step)
    (hr : fleet.Route step (.shipment i) (.runtime runtime)) (hi : shipment.id = id)
    (ho : shipment.passage.isOpen) (hc : passage.isOpen = false)
    (ht : table.status? id = some .active) :
    Handover fleet id step result
      (HeldBy (update fleet.bodies runtime table)
        (fleet.shipments.set i { shipment with passage }) id) := by
  refine .moved hl _ hr ⟨shipment, hs, hi, ho⟩ ?_
  intro x
  cases x with
  | runtime other =>
    rw [heldBy_update]
    by_cases hr : other = runtime
    · simp [hr, ht]
    · simp [hr, Holds, HeldBy]
  | shipment place =>
    rw [heldBy_set hs]
    by_cases hpl : place = i
    · simp [hpl, hc]
    · simp [hpl, Holds, HeldBy]

theorem handover_of_deliver (hs : fleet.shipments[i]? = some shipment)
    (hp : shipment.passage = .underway) (hb : shipment.body.id = shipment.id) (host : Url)
    (handle : BodyHandle) (id : BodyId) :
    Handover fleet id (.deliver i) result
      (HeldBy
        (update fleet.bodies shipment.target.id
          ((fleet.bodies shipment.target.id).host host shipment.body true))
        (fleet.shipments.set i { shipment with passage := .answered (.ok handle) }) id) := by
  by_cases hi : shipment.id = id
  · refine .of_arrival hs (by exact fun h => h) (.across hs) hi (by rw [hp]; rfl) rfl ?_
    rw [BodyTable.status?_host, hb, if_pos hi]
  · refine .of_same hs (by exact fun h => h) ?_ fun h => absurd h hi
    rw [BodyTable.status?_host, hb, if_neg hi, status?]

theorem handover_of_return {e : RuntimeError} (hs : fleet.shipments[i]? = some shipment)
    (hp : shipment.passage = .answered (.error e)) (id : BodyId) :
    Handover fleet id (.settle i) result
      (HeldBy
        (update fleet.bodies shipment.source
          ((fleet.bodies shipment.source).abortMigration shipment.id))
        (fleet.shipments.set i { shipment with passage := .settled }) id) := by
  have hst := BodyTable.status?_setStatus (fleet.bodies shipment.source) shipment.id .active id
  by_cases hi : shipment.id = id
  · have hopen : shipment.passage.isOpen := by rw [hp]; rfl
    rw [if_pos hi] at hst
    cases hh : fleet.status? shipment.source id with
    | some status =>
      refine .of_arrival hs ?_ (.back hs) hi hopen rfl ?_
      · rintro ⟨other, ho, -, hn⟩
        rw [hs] at ho
        cases ho
        rw [Wastes, hp] at hn
        simp [hi, hh] at hn
      · rw [status?] at hh
        rw [BodyTable.abortMigration, hst, hh]
        rfl
    | none =>
      have hl : fleet.Loses id (.settle i) :=
        ⟨shipment, hs, hi, by rw [Wastes, hp, hi]; exact hh⟩
      refine .lost hl _ (.shipment i) ⟨shipment, hs, hi, hopen⟩ ?_
      intro x
      rw [status?] at hh
      cases x with
      | runtime other =>
        rw [heldBy_update, BodyTable.abortMigration, hst]
        by_cases ho : other = shipment.source
        · simp [ho, hh, Holds, HeldBy]
        · simp [ho, Holds, HeldBy]
      | shipment place =>
        rw [heldBy_set hs]
        by_cases hpl : place = i
        · simp [hpl, Passage.isOpen]
        · simp [hpl, Holds, HeldBy]
  · refine .of_same hs (not_loses hs hi) ?_ fun h => absurd h hi
    rw [BodyTable.abortMigration, hst, if_neg hi, status?]

theorem handover_of_drop {handle : BodyHandle} {site : Runtime}
    (hs : fleet.shipments[i]? = some shipment) (hp : shipment.passage = .answered (.ok handle))
    (hr : fleet.world.runtime? shipment.source = some site) (hu : shipment.target.url ≠ site.url)
    (id : BodyId) :
    Handover fleet id (.settle i) result
      (HeldBy
        (update fleet.bodies shipment.source
          ((fleet.bodies shipment.source).completeMigration shipment.id))
        (fleet.shipments.set i { shipment with passage := .settled }) id) := by
  have hst := BodyTable.status?_completeMigration (fleet.bodies shipment.source) shipment.id id
  by_cases hl : shipment.id = id ∧ fleet.status? shipment.source id = some .active
  · obtain ⟨hi, ha⟩ := hl
    rw [if_pos hi] at hst
    have hl : fleet.Loses id (.settle i) :=
      ⟨shipment, hs, hi, by rw [Wastes, hp, hi]; exact ⟨by simpa [url?, hr] using Ne.symm hu, ha⟩⟩
    refine .lost hl _ (.runtime shipment.source) ha ?_
    intro x
    cases x with
    | runtime other =>
      rw [heldBy_update, hst]
      by_cases ho : other = shipment.source
      · simp [ho]
      · simp [ho, Holds, HeldBy]
    | shipment place =>
      rw [heldBy_set hs]
      by_cases hpl : place = i
      · simp [hpl, hs, hp, Passage.isOpen, Holds, HeldBy]
      · simp [hpl, Holds, HeldBy]
  · refine .of_same hs ?_ ?_ fun _ => by rw [hp]; rfl
    · rintro ⟨other, ho, hi, hn⟩
      rw [hs] at ho
      cases ho
      rw [Wastes, hp, hi] at hn
      exact hl ⟨hi, hn.2⟩
    · rw [hst]
      by_cases hi : shipment.id = id
      · simp [hi, not_and.1 hl hi]
      · rw [if_neg hi, status?]

/-- A shipment that is answered or settled without a change of the bodies. -/
theorem handover_of_set (hs : fleet.shipments[i]? = some shipment) (hl : ¬ fleet.Loses id step)
    (hp : passage.isOpen = shipment.passage.isOpen) :
    Handover fleet id step result
      (HeldBy fleet.bodies (fleet.shipments.set i { shipment with passage }) id) := by
  have h : Handover fleet id step result
      (HeldBy (update fleet.bodies shipment.source (fleet.bodies shipment.source))
        (fleet.shipments.set i { shipment with passage }) id) :=
    .of_same hs hl (by rw [status?]) fun _ => hp
  rwa [Function.update_eq_self] at h

end

/-- Every step hands bodies over in one of these ways. -/
theorem Transition.handover {fleet : Fleet} {step : Step} {result : Except RuntimeError Unit}
    {tables : RuntimeId → BodyTable} {shipments : List Shipment}
    (h : fleet.Transition step result tables shipments) (hf : fleet.Sound) (id : BodyId) :
    Handover fleet id step result (HeldBy tables shipments id) := by
  cases h with
  | idle step result hc hs =>
    refine .unchanged ?_ _ fun _ => .rfl
    intro hl
    cases step with
    | settle i =>
      obtain ⟨shipment, ho, -, hl⟩ := hl
      have hn := hs i rfl shipment
      cases hp : shipment.passage with
      | answered answer => exact hn answer ho hp
      | _ => simp [Wastes, hp] at hl
    | _ => exact hl
  | called hr he => exact handover_of_call hr he id
  | shipped hb => exact handover_of_ship hb id
  | delivered hs hp host handle =>
    exact handover_of_deliver hs hp (hf.shipments _ (List.mem_of_getElem? hs)) host handle id
  | failed hs hp step hd result e =>
    refine handover_of_set hs ?_ (by rw [hp]; rfl)
    rcases hd with rfl | ⟨e, rfl⟩ <;> exact fun h => h
  | returned hs hp result => exact handover_of_return hs hp id
  | dropped hs hp hr hu result => exact handover_of_drop hs hp hr hu id
  | stayed hs hp hu result =>
    refine handover_of_set hs ?_ (by rw [hp]; rfl)
    rintro ⟨other, ho, -, hl⟩
    rw [hs] at ho
    cases ho
    rw [Wastes, hp] at hl
    obtain ⟨hne, ha⟩ := hl
    obtain ⟨site, hr⟩ := exists_runtime ha
    rw [url?, hr, hu site hr] at hne
    exact hne rfl

/-! ## Homes -/

section

variable {fleet : Fleet} {step : Step} {result : Except RuntimeError Unit}
  {tables : RuntimeId → BodyTable} {shipments : List Shipment} {id : BodyId}

/-- A holder that stays one keeps its home. -/
theorem Transition.home_eq (h : fleet.Transition step result tables shipments) {x : Holder}
    (hx : fleet.Holds id x) : home shipments x = home fleet.shipments x := by
  cases x with
  | runtime runtime => rfl
  | shipment place =>
    obtain ⟨shipment, hs, -⟩ := hx
    have set {i : Nat} {other : Shipment} (ho : fleet.shipments[i]? = some other)
        (passage : Passage) :
        home (fleet.shipments.set i { other with passage }) (.shipment place) =
          home fleet.shipments (.shipment place) := by
      by_cases hi : i = place
      · subst hi
        have hlt := (List.getElem?_eq_some_iff.1 ho).1
        rw [home, home, List.getElem?_set_self hlt, ho]
        rfl
      · simp [home, List.getElem?_set_ne hi]
    cases h with
    | idle step result hc hs => rfl
    | called hr he => rfl
    | shipped hb =>
      have hlt := (List.getElem?_eq_some_iff.1 hs).1
      rw [home, home, List.getElem?_append_left hlt]
    | delivered hs hp host handle => exact set hs _
    | failed hs hp step hd result e => exact set hs _
    | returned hs hp result => exact set hs _
    | dropped hs hp hr hu result => exact set hs _
    | stayed hs hp hu result => exact set hs _

/-- A body that takes a route stays at its home, except that it is delivered to the target. -/
theorem Transition.home_of_route (h : fleet.Transition step result tables shipments)
    {giver taker : Holder} (hr : fleet.Route step giver taker)
    (hx : HeldBy tables shipments id taker) :
    home shipments taker = home fleet.shipments giver ∨
      ∃ i shipment, step = .deliver i ∧ fleet.shipments[i]? = some shipment ∧
        giver = .shipment i ∧ taker = .runtime shipment.target.id := by
  cases hr with
  | out source target moved node =>
    refine .inl ?_
    cases h with
    | idle step result hc hs =>
      obtain ⟨shipment, hs, -⟩ := hx
      simp at hs
    | shipped hb => simp [home]
    | failed hs hp step hd result e => rcases hd with hd | ⟨e, hd⟩ <;> cases hd
  | across hs => exact .inr ⟨_, _, rfl, hs, rfl, rfl⟩
  | back hs => exact .inl (by simp [home, hs])

end

end Fleet

end ActiveObjects

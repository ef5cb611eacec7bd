import ActiveObjects.Proofs.Event.Announcements
import ActiveObjects.Proofs.Fleet.Invariant
import ActiveObjects.Proofs.Fleet.Refusal

/-!
# What a migration hands over

A migration that succeeds takes one body from its source to its target, and announces its arrival
before its departure. The tables of the two runtimes, and all other runtimes, are otherwise as they
were, also when source and target are one.
-/

namespace ActiveObjects

open Site
open Function (update)

namespace BodyTable

variable {id : BodyId}

/-- A body that is marked goes like one that is not. -/
theorem completeMigration_setStatus (table : BodyTable) (id : BodyId) (status : BodyStatus) :
    (table.setStatus id status).completeMigration id = table.completeMigration id := by
  ext other : 1
  · rw [hosted?_completeMigration, hosted?_completeMigration, hosted?_setStatus]
    split <;> rfl
  · rfl

/-- A body that is marked is replaced like one that is not. -/
theorem host_setStatus (table : BodyTable) {body : Body} (hid : body.id = id) (status : BodyStatus)
    (node : Url) (isLocal : Bool) :
    (table.setStatus id status).host node body isLocal = table.host node body isLocal := by
  ext other : 1
  · rw [hosted?_host, hosted?_host, hosted?_setStatus, hid]
    split <;> rfl
  · rfl

theorem run_receive (node : Url) (body : Body) (site : Site) :
    ((receive node body).run site).1 = ⟨body.id, node, true⟩ ∧
      ((receive node body).run site).2.naming = site.naming ∧
      ((receive node body).run site).2.runtime =
        { site.runtime with bodies := site.runtime.bodies.host node body true } := by
  cases h : (site.runtime.bodies.hosted? body.id).isSome <;>
    simp [receive, h] <;> exact ⟨rfl, rfl, rfl⟩

end BodyTable

namespace Runtime

/-- The runtime when it took in a body. -/
def takeBody (runtime : Runtime) (node : Url) (body : Body) : Runtime :=
  { runtime with
    bodies := runtime.bodies.host node body true
    events := runtime.events.publish (.bodyMigrated body.id node .inbound) }

theorem run_receiveBody {node : String} {body : Body} {handle : BodyHandle} {site site' : Site}
    (hr : (attempt (receiveBody node body)).run site = (.ok handle, site')) :
    ∃ host, site.runtime.admission node = .ok host ∧ handle = ⟨body.id, host.url, true⟩ ∧
      site'.naming = site.naming ∧ site'.runtime = site.runtime.takeBody host.url body := by
  rw [receiveBody, ensureRunning, run_attempt_bind, run_attempt_ask] at hr
  split at hr <;> rename_i hs
  · split at hs <;> cases hs
    rename_i running
    rw [run_attempt_bind, run_attempt_ask] at hr
    cases hn : site.runtime.node node with
    | error e =>
      rw [hn] at hr
      cases hr
    | ok host =>
      obtain ⟨result, naming, runtime⟩ := BodyTable.run_receive host.url body site
      rw [hn] at hr
      rcases hm : (BodyTable.receive host.url body).run site with ⟨made, middle⟩
      rw [hm] at result naming runtime
      dsimp only at result naming runtime
      subst result
      obtain ⟨named, told⟩ := run_publish (.bodyMigrated body.id host.url .inbound) middle
      dsimp only at hr
      rw [run_attempt_bind, run_attempt_lift, hm] at hr
      cases hr
      refine ⟨host, by rw [admission, if_pos running, hn], rfl, named.trans naming, ?_⟩
      exact told.trans (by rw [runtime]; rfl)
  · cases hr

end Runtime

namespace World

variable {world world' : World} {a b : RuntimeId} {source target : Runtime} {id : BodyId}
  {body : Body} {left : Url} {isLocal : Bool} {node : String} {handle : BodyHandle}

/-- What is announced of a body that moves from `a` to `b`, at a place. -/
def passageEvents (a b : RuntimeId) (id : BodyId) (left host : Url) (place : RuntimeId) :
    List RuntimeEvent :=
  (if b = place then [.bodyMigrated id host .inbound] else []) ++
    if a = place then [.bodyMigrated id left .outbound] else []

/-- A body moves from `a`, where it is on the node `left`, to the node `host` of `b`. All else stays
as it is, and the departure is announced last. -/
structure HandsOver (world : World) (a b : RuntimeId) (body : Body) (left host : Url)
    (world' : World) : Prop where
  arrived : (world'.bodies b).hosted? body.id = some ⟨body, host, true, .active⟩
  gone : a ≠ b → (world'.bodies a).hosted? body.id = none
  hosted (place : RuntimeId) (other : BodyId) : other ≠ body.id ∨ place ≠ a ∧ place ≠ b →
    (world'.bodies place).hosted? other = (world.bodies place).hosted? other
  lastCheckpoint (place : RuntimeId) (other : BodyId) :
    (world'.bodies place).lastCheckpoint? other = (world.bodies place).lastCheckpoint? other
  runtimes (place : RuntimeId) :
    world'.runtime? place = (world.runtime? place).map fun runtime =>
      { runtime with
        bodies := world'.bodies place
        events :=
          { runtime.events with
            published :=
              runtime.events.published ++ passageEvents a b body.id left host place } }
  rest : world' = { world with runtimes := world'.runtimes, log := world'.log }

/-! ## The three steps -/

/-- One runtime becomes another, and the names stay. -/
structure Replaces (world : World) (id : RuntimeId) (runtime : Runtime) (world' : World) :
    Prop where
  naming : world'.naming = world.naming
  registries : world'.registries = world.registries
  runtime?_eq : world'.runtime? = update world.runtime? id (some runtime)

theorem Replaces.bodies_eq {place : RuntimeId} {runtime : Runtime}
    (h : world.Replaces place runtime world') :
    world'.bodies = update world.bodies place runtime.bodies := by
  funext other
  rw [World.bodies, h.runtime?_eq, Function.update_apply, Function.update_apply]
  split <;> rfl

theorem replaces_absorb {place : RuntimeId} (site : Site) (hn : site.naming = world.naming)
    (hid : site.runtime.id = place) : world.Replaces place site.runtime (world.absorb site) where
  naming := hn
  registries := rfl
  runtime?_eq := by
    funext other
    rw [runtime?_absorb, hid, Function.update_apply]
    exact if_congr eq_comm rfl rfl

/-- Of two changes of one runtime the later one counts. -/
theorem Replaces.again {world'' : World} {place : RuntimeId} {runtime runtime' : Runtime}
    (h : world.Replaces place runtime world') (h' : world'.Replaces place runtime' world'') :
    world.Replaces place runtime' world'' where
  naming := h'.naming.trans h.naming
  registries := h'.registries.trans h.registries
  runtime?_eq := by rw [h'.runtime?_eq, h.runtime?_eq, Function.update_idem]

/-- So it does when another runtime changes in between. -/
theorem Replaces.around {world₁ world₂ world₃ : World} {first other last : Runtime} (hab : a ≠ b)
    (ho : other.id = b) (h₁ : world.Replaces a first world₁) (h₂ : world₁.Replaces b other world₂)
    (h₃ : world₂.Replaces a last world₃) :
    ∃ middle, world.Replaces b other middle ∧ middle.Replaces a last world₃ := by
  have h : world.Replaces b other (world.absorb ⟨world.naming, other, world.log⟩) :=
    replaces_absorb ⟨world.naming, other, world.log⟩ rfl ho
  refine ⟨_, h, ?_, ?_, ?_⟩
  · rw [h₃.naming, h₂.naming, h₁.naming, h.naming]
  · rw [h₃.registries, h₂.registries, h₁.registries, h.registries]
  · rw [h₃.runtime?_eq, h₂.runtime?_eq, h₁.runtime?_eq, h.runtime?_eq,
      Function.update_comm hab.symm, Function.update_idem, Function.update_comm hab]

/-- The body is marked, and its copy goes out. -/
theorem act_beginMigration {copy : Body × Url} (hk : world.Keyed)
    (hs : world.runtime? a = some source)
    (hb : source.bodies.hosted? id = some ⟨body, left, isLocal, .active⟩)
    (hr : (act a (Runtime.beginMigration id)).run world = (.ok copy, world')) :
    copy = (body, left) ∧ world.Replaces a
      { source with bodies := source.bodies.setStatus id .migratingOut } world' := by
  rcases act_cases hk (Runtime.beginMigration_touches id) (by decide) hr with
    ⟨-, ⟨⟩, -⟩ | ⟨runtime, site, hf, hsite, rfl, hid⟩
  cases hs.symm.trans hf
  obtain ⟨marked, hm, rfl⟩ := Runtime.run_beginMigration hsite
  obtain ⟨_, hh, rfl⟩ := BodyTable.beginMigration_eq_ok_iff.1 hm
  cases hb.symm.trans hh
  exact ⟨rfl, replaces_absorb _ rfl hid⟩

/-- The target takes the body in. -/
theorem act_receiveBody (hk : world.Keyed)
    (hr : (act b (Runtime.receiveBody node body)).run world = (.ok handle, world')) :
    ∃ runtime host, world.runtime? b = some runtime ∧ runtime.admission node = .ok host ∧
      handle = ⟨body.id, host.url, true⟩ ∧
      world.Replaces b (runtime.takeBody host.url body) world' := by
  rcases act_cases hk (Runtime.receiveBody_touches node body) (by decide) hr with
    ⟨-, ⟨⟩, -⟩ | ⟨runtime, site, hf, hsite, rfl, hid⟩
  obtain ⟨host, ha, hh, hn, ht⟩ := Runtime.run_receiveBody hsite
  exact ⟨runtime, host, hf, ha, hh, ht ▸ replaces_absorb _ hn hid⟩

/-- The source hands the answer of the target on. -/
theorem act_endMigration_ok {url : Url} {result : Except RuntimeError BodyHandle} (hk : world.Keyed)
    (hs : world.runtime? a = some source)
    (hr : (act a (Runtime.endMigration id left url (.ok handle))).run world = (result, world')) :
    result = .ok handle ∧ world.Replaces a
      { source with
        bodies := if url = source.url then source.bodies else source.bodies.completeMigration id
        events := source.events.publish (.bodyMigrated id left .outbound) } world' := by
  rcases act_cases hk (Runtime.endMigration_touches id left url (.ok handle)) (by decide) hr with
    ⟨hn, -, -⟩ | ⟨runtime, site, hf, hsite, rfl, hid⟩
  · rw [hs] at hn
    cases hn
  cases hs.symm.trans hf
  obtain ⟨rfl, hn, ht⟩ := run_endMigration_ok hsite
  exact ⟨rfl, ht ▸ replaces_absorb _ hn hid⟩

/-! ## The whole migration -/

/-- What the bodies of all runtimes become is enough to know. -/
theorem HandsOver.of_bodies {host : Url}
    (hb : ∀ place, world'.bodies place =
      if place = a ∧ a ≠ b then (world.bodies a).completeMigration body.id
      else if place = b then (world.bodies b).host host body true else world.bodies place)
    (runtimes : ∀ place, world'.runtime? place = (world.runtime? place).map fun runtime =>
      { runtime with
        bodies := world'.bodies place
        events :=
          { runtime.events with
            published :=
              runtime.events.published ++ passageEvents a b body.id left host place } })
    (naming : world'.naming = world.naming) (registries : world'.registries = world.registries) :
    world.HandsOver a b body left host world' where
  arrived := by
    rw [hb, if_neg fun h => h.2 h.1.symm, if_pos rfl, BodyTable.hosted?_host, if_pos rfl]
  gone h := by rw [hb, if_pos ⟨rfl, h⟩, BodyTable.hosted?_completeMigration, if_pos rfl]
  hosted place other h := by
    rw [hb]
    split
    · rename_i hp
      obtain ⟨rfl, -⟩ := hp
      have ho : body.id ≠ other := fun ho => h.elim (fun hn => hn ho.symm) fun hn => hn.1 rfl
      rw [BodyTable.hosted?_completeMigration, if_neg ho]
    · split
      · rename_i hp
        subst hp
        have ho : body.id ≠ other := fun ho => h.elim (fun hn => hn ho.symm) fun hn => hn.2 rfl
        rw [BodyTable.hosted?_host, if_neg ho]
      · rfl
  lastCheckpoint place other := by
    rw [hb]
    split
    · rename_i hp
      rw [hp.1]
      rfl
    · split
      · rename_i hp
        rw [hp]
        rfl
      · rfl
  runtimes := runtimes
  rest := by
    obtain ⟨_, _, _, _⟩ := world'
    cases naming
    cases registries
    rfl

/-- At places that a body does not come by, nothing is announced. -/
theorem runtime?_eq_map {place : RuntimeId} (ha : a ≠ place) (hb : b ≠ place) (host : Url) :
    world.runtime? place = (world.runtime? place).map fun runtime =>
      { runtime with
        bodies := world.bodies place
        events :=
          { runtime.events with
            published := runtime.events.published ++ passageEvents a b id left host place } } := by
  cases hr : world.runtime? place with
  | none => rfl
  | some runtime => simp [bodies_eq hr, passageEvents, ha, hb]

/-- A migration within one runtime. -/
theorem handsOver_within {host : Url} (hs : world.runtime? a = some source)
    (h : world.Replaces a
      { source with
        bodies := source.bodies.host host body true
        events := (source.events.publish (.bodyMigrated body.id host .inbound)).publish
          (.bodyMigrated body.id left .outbound) } world') :
    world.HandsOver a a body left host world' := by
  have bodies : world'.bodies = update world.bodies a (source.bodies.host host body true) :=
    h.bodies_eq
  refine .of_bodies (fun place => ?_) (fun place => ?_) h.naming h.registries
  · rw [bodies, Function.update_apply, bodies_eq hs]
    simp only [ne_eq, not_true_eq_false, and_false, if_false]
  · by_cases hp : a = place
    · subst hp
      simp [bodies, h.runtime?_eq, hs, passageEvents, EventBus.publish]
    · rw [bodies, h.runtime?_eq, Function.update_of_ne (Ne.symm hp),
        Function.update_of_ne (Ne.symm hp)]
      exact runtime?_eq_map hp hp host

/-- A migration from one runtime to another. -/
theorem handsOver_between {middle : World} {host : Url} (hab : a ≠ b)
    (hs : world.runtime? a = some source) (ht : world.runtime? b = some target)
    (h : world.Replaces b (target.takeBody host body) middle)
    (h' : middle.Replaces a
      { source with
        bodies := source.bodies.completeMigration body.id
        events := source.events.publish (.bodyMigrated body.id left .outbound) } world') :
    world.HandsOver a b body left host world' := by
  have bodies : world'.bodies = update (update world.bodies b
      (target.bodies.host host body true)) a (source.bodies.completeMigration body.id) := by
    rw [h'.bodies_eq, h.bodies_eq]
    rfl
  refine .of_bodies (fun place => ?_) (fun place => ?_) (h'.naming.trans h.naming)
    (h'.registries.trans h.registries)
  · rw [bodies, Function.update_apply, Function.update_apply, bodies_eq hs, bodies_eq ht]
    simp only [hab, ne_eq, not_false_eq_true, and_true]
  · by_cases hp : a = place
    · subst hp
      simp [bodies, h'.runtime?_eq, hs, passageEvents, EventBus.publish, hab.symm]
    · by_cases hq : b = place
      · subst hq
        simp [bodies, h'.runtime?_eq, h.runtime?_eq, ht, passageEvents, EventBus.publish, hab,
          hab.symm, Runtime.takeBody]
      · rw [bodies, h'.runtime?_eq, h.runtime?_eq]
        simp only [Function.update_of_ne (Ne.symm hp), Function.update_of_ne (Ne.symm hq)]
        exact runtime?_eq_map hp hq host

/-- What is announced when the target has taken the body in. -/
theorem published_delivered {shipped delivered : World} {bodies : BodyTable} {taker : Runtime}
    {host : Url} (hs : world.runtime? a = some source)
    (marked : world.Replaces a { source with bodies := bodies } shipped)
    (ht : shipped.runtime? b = some taker)
    (taken : shipped.Replaces b (taker.takeBody host body) delivered) (place : RuntimeId) :
    (delivered.runtime? place).map (·.events.published) =
      (world.runtime? place).map fun runtime => runtime.events.published ++
        if b = place then [.bodyMigrated body.id host .inbound] else [] := by
  have before : (shipped.runtime? place).map (·.events.published) =
      (world.runtime? place).map (·.events.published) := by
    rw [marked.runtime?_eq, Function.update_apply]
    split
    · subst place
      rw [hs]
      rfl
    · rfl
  rw [taken.runtime?_eq, Function.update_apply]
  by_cases hp : b = place
  · subst hp
    rw [ht, Option.map_some] at before
    obtain ⟨runtime, hr, published⟩ := Option.map_eq_some_iff.1 before.symm
    simp [hr, published, Runtime.takeBody, EventBus.publish]
  · simp [hp, Ne.symm hp, before]

/-- A migration that succeeds hands its body over. The target has announced the arrival when the
last step comes, which announces the departure. -/
theorem migrateBody_handsOver (hk : world.Keyed) (hs : world.runtime? a = some source)
    (ht : world.runtime? b = some target) (hid : body.id = id)
    (hb : source.bodies.hosted? id = some ⟨body, left, isLocal, .active⟩)
    (hu : a ≠ b → target.url ≠ source.url)
    (hm : (migrateBody source.handle target.handle id node).run world = (.ok handle, world')) :
    ∃ host delivered, target.admission node = .ok host ∧ handle = ⟨id, host.url, true⟩ ∧
      world.HandsOver a b body left host.url world' ∧
      (act a (Runtime.endMigration id left target.url (.ok handle))).run delivered =
        (.ok handle, world') ∧
      ∀ place, (delivered.runtime? place).map (·.events.published) =
        (world.runtime? place).map fun runtime => runtime.events.published ++
          if b = place then [.bodyMigrated id host.url .inbound] else [] := by
  subst hid
  rw [migrateBody_run, show source.handle.id = a from hk a source hs,
    show target.handle.id = b from hk b target ht, show target.handle.url = target.url from rfl]
    at hm
  rcases h₁ : (act a (Runtime.beginMigration body.id)).run world with ⟨_ | copy, shipped⟩ <;>
    simp only [h₁] at hm
  · cases hm
  have hk₁ := (act_performs hk (performs_beginMigration body.id)
    (Runtime.beginMigration_touches body.id) (by decide) h₁).1
  obtain ⟨rfl, marked⟩ := act_beginMigration hk hs hb h₁
  rcases h₂ : (act b (Runtime.receiveBody node body)).run shipped with ⟨answer, delivered⟩
  simp only [h₂] at hm
  have hk₂ := (act_performs hk₁ (performs_receiveBody node body)
    (Runtime.receiveBody_touches node body) (by decide) h₂).1
  obtain ⟨rfl, -⟩ := act_endMigration hk₂ hm
  obtain ⟨taker, host, htaker, hadmits, rfl, taken⟩ := act_receiveBody hk₁ h₂
  have told := published_delivered hs marked htaker taken
  rw [marked.runtime?_eq] at htaker
  by_cases hab : a = b
  · subst hab
    cases hs.symm.trans ht
    rw [Function.update_self] at htaker
    cases htaker
    have found : delivered.runtime? a = _ :=
      (congrFun taken.runtime?_eq a).trans (Function.update_self ..)
    obtain ⟨-, ended⟩ := act_endMigration_ok hk₂ found hm
    have whole := (marked.again taken).again ended
    refine ⟨host, delivered, hadmits, rfl, handsOver_within hs ?_, hm, told⟩
    simpa [Runtime.takeBody, BodyTable.host_setStatus] using whole
  · rw [Function.update_of_ne (Ne.symm hab), ht] at htaker
    cases htaker
    have found : delivered.runtime? a =
        some { source with bodies := source.bodies.setStatus body.id .migratingOut } := by
      rw [taken.runtime?_eq, marked.runtime?_eq, Function.update_of_ne hab, Function.update_self]
    obtain ⟨-, ended⟩ := act_endMigration_ok hk₂ found hm
    have place : (target.takeBody host.url body).id = b := hk b target ht
    obtain ⟨middle, first, second⟩ := marked.around hab place taken ended
    refine ⟨host, delivered, hadmits, rfl, handsOver_between hab hs ht first ?_, hm, told⟩
    simpa [BodyTable.completeMigration_setStatus, hu hab] using second

end World

namespace Fleet

/-- After every run, a migration in one piece that succeeds hands over the one body. It arrives
active, as it was at the source, in place of any older copy; nothing else changes, and its arrival
is announced before its departure. -/
theorem handed_over_by_migration {steps : List Step} {a b : RuntimeId} {source target : Runtime}
    {id : BodyId} {body : Body} {left : Url} {isLocal : Bool} {node : String} {handle : BodyHandle}
    {world : World}
    (hs : (({} : Fleet).after steps).world.runtime? a = some source)
    (ht : (({} : Fleet).after steps).world.runtime? b = some target)
    (hb : source.bodies.hosted? id = some ⟨body, left, isLocal, .active⟩)
    (hu : a ≠ b → target.url ≠ source.url)
    (hm : (World.migrateBody source.handle target.handle id node).run
      (({} : Fleet).after steps).world = (.ok handle, world)) :
    body.id = id ∧ ∃ host delivered,
      target.admission node = .ok host ∧ target.nodeUrl node = .ok host.url ∧
      handle = ⟨id, host.url, true⟩ ∧
      (({} : Fleet).after steps).world.HandsOver a b body left host.url world ∧
      (World.act a (Runtime.endMigration id left target.url (.ok handle))).run delivered =
        (.ok handle, world) ∧
      ∀ place, (delivered.runtime? place).map (·.events.published) =
        ((({} : Fleet).after steps).world.runtime? place).map fun runtime =>
          runtime.events.published ++
            if b = place then [.bodyMigrated id host.url .inbound] else [] := by
  have sound := sound_after steps
  have keyed : source.bodies.Keyed := World.bodies_eq hs ▸ sound.bodies a
  have hid : body.id = id := keyed id _ hb
  obtain ⟨host, delivered, ha, hh, handed, told⟩ :=
    World.migrateBody_handsOver sound.world hs ht hid hb hu hm
  obtain ⟨-, url, hurl, hn⟩ := Runtime.admission_eq_ok_iff.1 ha
  have named : host.url = url := (each_after lasting_nodesKeyed steps b target ht) url host hn
  exact ⟨hid, host, delivered, ha, named ▸ hurl, hh, handed, told⟩

/-- Two runtimes. The body is on the first one, and an older copy on the second. -/
def copied (id : BodyId) : List Step :=
  pair id ++ [.call 2 (.receiveCheckpoint "n" ⟨id, "Older", [1]⟩ 1)]

/-- The older copy is replaced. -/
theorem handed_over_after_copied :
    ∃ (older body : Body) (left host : Url) (world : World),
      ((({} : Fleet).after (copied ⟨7⟩)).bodies 2).body? ⟨7⟩ = some older ∧
      older.className = "Older" ∧ body.className = "Empty" ∧
      (({} : Fleet).after (copied ⟨7⟩)).world.HandsOver 1 2 body left host world := by
  have h : ((({} : Fleet).after (copied ⟨7⟩)).world.runtime? 1).any fun source =>
      ((({} : Fleet).after (copied ⟨7⟩)).world.runtime? 2).any fun target =>
        (((({} : Fleet).after (copied ⟨7⟩)).bodies 2).body? ⟨7⟩).any fun older =>
          (source.bodies.hosted? ⟨7⟩).any fun hosted =>
            ((World.migrateBody source.handle target.handle ⟨7⟩ "n").run
              (({} : Fleet).after (copied ⟨7⟩)).world).1.toOption.any fun _ =>
                hosted.status = .active ∧ target.url ≠ source.url ∧ older.className = "Older" ∧
                hosted.body.className = "Empty" := by decide +kernel
  obtain ⟨source, hs, h⟩ := (Option.any_eq_true _ _).1 h
  obtain ⟨target, ht, h⟩ := (Option.any_eq_true _ _).1 h
  obtain ⟨older, ho, h⟩ := (Option.any_eq_true _ _).1 h
  obtain ⟨⟨body, left, isLocal, status⟩, hb, h⟩ := (Option.any_eq_true _ _).1 h
  obtain ⟨handle, hm, h⟩ := (Option.any_eq_true _ _).1 h
  obtain ⟨rfl, hu, hclass, hclass'⟩ := of_decide_eq_true h
  rcases hr : (World.migrateBody source.handle target.handle ⟨7⟩ "n").run
    (({} : Fleet).after (copied ⟨7⟩)).world with ⟨result, world⟩
  rw [hr, toOption_eq_some_iff] at hm
  dsimp only at hm
  subst hm
  obtain ⟨-, host, -, -, -, -, handed, -⟩ :=
    handed_over_by_migration hs ht hb (fun _ => hu) hr
  exact ⟨older, body, left, host.url, world, ho, hclass, hclass', handed⟩

end Fleet

end ActiveObjects

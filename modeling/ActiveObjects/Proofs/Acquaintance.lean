import ActiveObjects.Proofs.Node.Presence

/-!
# Acquaintances in the order of their coming

The acquaintances of a runtime follow from the calls that added and removed them. They are the
names that were added last, each once, in the order in which they were added first since they were
removed last. Each call tells whether it changed anything.
-/

namespace ActiveObjects

open Site

/-- A call that bears on the acquaintances of a runtime. -/
inductive Acquainting where
  | added (name : String)
  | removed (name : String)
deriving DecidableEq

namespace Acquainting

def name : Acquainting → String
  | added name | removed name => name

/-- Of all calls with the name, the last one adds it. -/
def AddedLast (log : List Acquainting) (name : String) : Prop :=
  (log.filter (·.name = name)).getLast? = some (.added name)

/-- The name is added at this place of the history and not removed after it, and whenever it was
added before, it was removed in between. So this is the first addition since the last removal. -/
def JoinedAt (log : List Acquainting) (name : String) (place : Nat) : Prop :=
  log[place]? = some (.added name) ∧
    (∀ later, place < later → log[later]? ≠ some (.removed name)) ∧
    ∀ earlier < place, log[earlier]? = some (.added name) →
      ∃ between, earlier < between ∧ between < place ∧ log[between]? = some (.removed name)

/-- The calls make this list of names. -/
structure Makes (log : List Acquainting) (names : List String) : Prop where
  nodup : names.Nodup
  mem_iff (name : String) : name ∈ names ↔ AddedLast log name
  joined : ∀ name ∈ names, ∃ place, JoinedAt log name place
  ordered : names.Pairwise fun name name' =>
    ∀ place place', JoinedAt log name place → JoinedAt log name' place' → place < place'

/-! ## Histories -/

variable {log : List Acquainting} {call : Acquainting} {names : List String} {name : String}

theorem addedLast_concat :
    AddedLast (log ++ [call]) name ↔
      if call.name = name then call = .added name else AddedLast log name := by
  unfold AddedLast
  by_cases h : call.name = name
  · simp [List.filter_append, h]
  · simp [List.filter_append, h]

/-- A name that is not there was removed after each time that it was added. -/
theorem exists_removed (h : ¬ AddedLast log name) {place : Nat}
    (ha : log[place]? = some (.added name)) :
    ∃ later, place < later ∧ log[later]? = some (.removed name) := by
  induction log using List.reverseRecOn with
  | nil => simp at ha
  | append_singleton log call ih =>
    rw [addedLast_concat] at h
    have hlt : place < log.length + 1 := by
      simpa using (List.getElem?_eq_some_iff.1 ha).1
    by_cases hc : call.name = name
    · rw [if_pos hc] at h
      have removes : call = .removed name := by
        cases call with
        | added other => exact absurd (congrArg added hc) h
        | removed other => exact congrArg removed hc
      subst removes
      refine ⟨log.length, ?_, by simp⟩
      have hne : place ≠ log.length := by
        rintro rfl
        simp at ha
      omega
    · rw [if_neg hc] at h
      have hne : place ≠ log.length := by
        rintro rfl
        simp only [List.getElem?_concat_length, Option.some.injEq] at ha
        exact hc (congrArg Acquainting.name ha)
      have hp : place < log.length := by omega
      rw [List.getElem?_append_left hp] at ha
      obtain ⟨later, hl, hr⟩ := ih h ha
      have hb := (List.getElem?_eq_some_iff.1 hr).1
      exact ⟨later, hl, by rw [List.getElem?_append_left hb, hr]⟩

/-- A name that comes back joins behind all others. -/
theorem joinedAt_length (h : ¬ AddedLast log name) :
    JoinedAt (log ++ [.added name]) name log.length := by
  refine ⟨by simp, ?_, ?_⟩
  · intro later hl
    have hn : (log ++ [.added name])[later]? = none := by
      simp only [List.getElem?_eq_none_iff, List.length_append, List.length_singleton]
      omega
    simp [hn]
  · intro earlier he ha
    rw [List.getElem?_append_left he] at ha
    obtain ⟨between, hb, hr⟩ := exists_removed h ha
    have hl := (List.getElem?_eq_some_iff.1 hr).1
    exact ⟨between, hb, hl, by rw [List.getElem?_append_left hl, hr]⟩

theorem JoinedAt.lt_length {place : Nat} (h : JoinedAt log name place) : place < log.length :=
  (List.getElem?_eq_some_iff.1 h.1).1

/-- What other names do, and further additions of the name, do not matter. -/
theorem JoinedAt.concat {place : Nat} (h : JoinedAt log name place) (hc : call ≠ .removed name) :
    JoinedAt (log ++ [call]) name place := by
  have hp := h.lt_length
  obtain ⟨hadd, hlast, hfirst⟩ := h
  refine ⟨by rw [List.getElem?_append_left hp, hadd], ?_, ?_⟩
  · intro later hl
    by_cases hlen : later < log.length
    · rw [List.getElem?_append_left hlen]
      exact hlast later hl
    · rw [List.getElem?_append_right (by omega), List.getElem?_singleton]
      split
      · simpa using hc
      · simp
  · intro earlier he ha
    rw [List.getElem?_append_left (by omega)] at ha
    obtain ⟨between, hb, hb', hr⟩ := hfirst earlier he ha
    exact ⟨between, hb, hb', by rw [List.getElem?_append_left (by omega), hr]⟩

theorem JoinedAt.unique {place place' : Nat} (h : JoinedAt log name place)
    (h' : JoinedAt log name place') : place = place' := by
  by_contra hne
  rcases Nat.lt_or_gt_of_ne hne with hlt | hlt
  · obtain ⟨between, hb, -, hr⟩ := h'.2.2 place hlt h.1
    exact h.2.1 between hb hr
  · obtain ⟨between, hb, -, hr⟩ := h.2.2 place' hlt h'.1
    exact h'.2.1 between hb hr

/-! ## One more call -/

theorem makes_nil : Makes [] [] := by
  constructor <;> simp [AddedLast]

/-- Names that were there before keep their order if a call does not remove them. -/
theorem Makes.ordered_concat (h : Makes log names) {kept : List String}
    (hs : kept.Sublist names) (hc : ∀ name ∈ kept, call ≠ .removed name) :
    kept.Pairwise fun name name' => ∀ place place', JoinedAt (log ++ [call]) name place →
      JoinedAt (log ++ [call]) name' place' → place < place' := by
  refine (h.ordered.sublist hs).imp_of_mem ?_
  intro name name' hm hm' before place place' hp hp'
  obtain ⟨_, hj⟩ := h.joined name (hs.subset hm)
  obtain ⟨_, hj'⟩ := h.joined name' (hs.subset hm')
  rw [hp.unique (hj.concat (hc name hm)), hp'.unique (hj'.concat (hc name' hm'))]
  exact before _ _ hj hj'

theorem Makes.added (h : Makes log names) (name : String) :
    Makes (log ++ [.added name]) (if name ∈ names then names else names ++ [name]) := by
  have keeps (other : String) : Acquainting.added name ≠ .removed other := nofun
  have last (other : String) :
      AddedLast (log ++ [.added name]) other ↔ name = other ∨ AddedLast log other := by
    rw [addedLast_concat]
    by_cases ho : name = other
    · simp [Acquainting.name, ho]
    · simp [Acquainting.name, ho]
  have earlier := h.ordered_concat (List.Sublist.refl names) fun other _ => keeps other
  by_cases hm : name ∈ names
  · rw [if_pos hm]
    refine ⟨h.nodup, ?_, ?_, earlier⟩
    · intro other
      rw [last, h.mem_iff]
      constructor
      · exact Or.inr
      · rintro (rfl | ho)
        · exact (h.mem_iff name).1 hm
        · exact ho
    · intro other ho
      obtain ⟨place, hp⟩ := h.joined other ho
      exact ⟨place, hp.concat (keeps other)⟩
  · rw [if_neg hm]
    have fresh := joinedAt_length (mt (h.mem_iff name).2 hm)
    refine ⟨?_, ?_, ?_, ?_⟩
    · rw [← List.concat_eq_append]
      exact h.nodup.concat hm
    · intro other
      rw [last, List.mem_append, List.mem_singleton, h.mem_iff, eq_comm, or_comm]
    · intro other ho
      rcases List.mem_append.1 ho with ho | ho
      · obtain ⟨place, hp⟩ := h.joined other ho
        exact ⟨place, hp.concat (keeps other)⟩
      · cases List.mem_singleton.1 ho
        exact ⟨log.length, fresh⟩
    · rw [List.pairwise_append]
      refine ⟨earlier, List.pairwise_singleton .., ?_⟩
      intro other ho last hl place place' hp hp'
      cases List.mem_singleton.1 hl
      obtain ⟨_, hj⟩ := h.joined other ho
      rw [hp.unique (hj.concat (keeps other)), hp'.unique fresh]
      exact hj.lt_length

theorem Makes.removed (h : Makes log names) (name : String) :
    Makes (log ++ [.removed name]) (names.filter (· ≠ name)) := by
  have sub : (names.filter (· ≠ name)).Sublist names := List.filter_sublist
  have keeps : ∀ other ∈ names.filter (· ≠ name), Acquainting.removed name ≠ .removed other := by
    intro other ho he
    cases he
    simp at ho
  refine ⟨h.nodup.sublist sub, ?_, ?_, h.ordered_concat sub keeps⟩
  · intro other
    rw [addedLast_concat, List.mem_filter, h.mem_iff]
    by_cases ho : name = other
    · simp [Acquainting.name, ho]
    · simp [Acquainting.name, ho, Ne.symm ho]
  · intro other ho
    obtain ⟨place, hp⟩ := h.joined other (sub.subset ho)
    exact ⟨place, hp.concat (keeps other ho)⟩

end Acquainting

open Acquainting

/-! ## At a runtime -/

namespace Runtime

variable {directory : AcquaintanceDirectory} {name : String}

theorem acquaintances_add (directory : AcquaintanceDirectory) (name : String) :
    (directory.add name).acquaintances =
      if name ∈ directory.acquaintances then directory.acquaintances
      else directory.acquaintances ++ [name] := by
  unfold AcquaintanceDirectory.add AcquaintanceDirectory.knows
  by_cases h : name ∈ directory.acquaintances
  · simp [h]
  · simp [h]

theorem run_addAcquaintance (name : String) (site : Site) :
    ((addAcquaintance name).run site).1 = decide (name ∉ site.runtime.directory.acquaintances) ∧
      ((addAcquaintance name).run site).2.runtime.directory =
        site.runtime.directory.add name := by
  have known : site.runtime.directory.knows name =
      decide (name ∈ site.runtime.directory.acquaintances) := List.contains_eq_mem ..
  have answer : ((addAcquaintance name).run site).1 = !site.runtime.directory.knows name := by
    unfold addAcquaintance
    cases hk : site.runtime.directory.knows name <;> rw [run_get_bind, hk] <;> rfl
  refine ⟨?_, ?_⟩
  · rw [answer, known, decide_not]
  · unfold addAcquaintance
    cases hk : site.runtime.directory.knows name <;> rw [run_get_bind, hk] <;> rfl

theorem run_removeAcquaintance (name : String) (site : Site) :
    ((removeAcquaintance name).run site).1 =
        decide (name ∈ site.runtime.directory.acquaintances) ∧
      ((removeAcquaintance name).run site).2.runtime.directory =
        site.runtime.directory.remove name :=
  ⟨List.contains_eq_mem .., rfl⟩

/-- These are the acquaintances of the runtime. -/
def Knows (names : List String) (runtime : Runtime) : Prop :=
  runtime.directory.acquaintances = names

theorem publish_knows (event : RuntimeEvent) (names : List String) :
    Moves (Preserves (Knows names)) (publish event) := by
  intro site known
  rw [Knows, (run_publish event site).2]
  exact known

/-- Peers are no acquaintances. -/
theorem registerRuntime_knows (peer : PeerRuntime) (names : List String) :
    Moves (Preserves (Knows names)) (attempt (registerRuntime peer)) := by
  refine .attempt_bind (.attempt_ask _) fun _ => fun site known => ?_
  rw [run_attempt_bind, run_attempt_lift]
  dsimp only
  split
  · exact publish_knows _ names _ known
  · exact publish_knows _ names _ known

theorem unregisterRuntime_knows (name : String) (names : List String) :
    Moves (Preserves (Knows names)) (unregisterRuntime name) := by
  refine .bind .get fun site => .ite ?_ (.pure _)
  exact .bind (.modify fun _ known => known) fun _ => publish_knows _ names

end Runtime

/-- What a call does to acquaintances, if it succeeds. -/
def Call.acquainting? : Call → Option Acquainting
  | addAcquaintance name => some (.added name)
  | removeAcquaintance name => some (.removed name)
  | _ => none

theorem Call.action_knows (constructors : ConstructorRegistry) {call : Call}
    (h : call.acquainting? = none) (names : List String) :
    Moves (Preserves (Runtime.Knows names)) (attempt (call.action constructors)) := by
  by_cases hd : .directory ∈ call.footprint
  · cases call with
    | registerRuntime peer => exact Runtime.registerRuntime_knows peer names
    | unregisterRuntime name => exact .attempt_lift (Runtime.unregisterRuntime_knows name names)
    | addAcquaintance name => simp [acquainting?] at h
    | removeAcquaintance name => simp [acquainting?] at h
    | _ => simp [footprint] at hd
  · intro site known
    have same : _ = site.runtime.directory :=
      call.action_touches constructors site .directory hd
    rw [Runtime.Knows, same]
    exact known

/-- The calls that succeeded so far and one more make the acquaintances that it leaves. -/
theorem Call.action_makes {constructors : ConstructorRegistry} {call : Call} {site site' : Site}
    {result : Except RuntimeError Unit} {log : List Acquainting}
    (hr : (attempt (call.action constructors)).run site = (result, site'))
    (h : Makes log site.runtime.directory.acquaintances) :
    Makes (log ++ (result.toOption.bind fun _ => call.acquainting?).toList)
      site'.runtime.directory.acquaintances := by
  cases hc : call.acquainting? with
  | none =>
    have known := call.action_knows constructors hc _ site rfl
    rw [hr] at known
    rw [known]
    simpa using h
  | some acquainting =>
    cases call with
    | addAcquaintance name =>
      cases hc
      cases hr
      have added := (Runtime.run_addAcquaintance name site).2
      have made := h.added name
      rw [← Runtime.acquaintances_add, ← added] at made
      exact made
    | removeAcquaintance name =>
      cases hc
      cases hr
      exact h.removed name
    | _ => simp [acquainting?] at hc

/-! ## Over runs -/

namespace Fleet

variable {fleet : Fleet} {place : RuntimeId}

/-- What an entry of the history does to the acquaintances of a runtime. -/
def acquainting? (place : RuntimeId) : Step × Except RuntimeError Unit → Option Acquainting
  | (.call other call, .ok ()) => if other = place then call.acquainting? else none
  | _ => none

/-- The calls that bore on the acquaintances of a runtime, in order. -/
def acquaintings (place : RuntimeId) (fleet : Fleet) : List Acquainting :=
  fleet.history.filterMap (acquainting? place)

/-- The acquaintances of a runtime that is there follow from the history. -/
def Acquainted (place : RuntimeId) (fleet : Fleet) : Prop :=
  match fleet.world.runtime? place with
  | none => fleet.acquaintings place = []
  | some runtime => Makes (fleet.acquaintings place) runtime.directory.acquaintances

theorem acquaintings_next (fleet : Fleet) (step : Step) :
    (fleet.next step).acquaintings place =
      fleet.acquaintings place ++
        (acquainting? place (step, (fleet.outcome step).1)).toList := by
  have history : (fleet.next step).history = fleet.history ++ [(step, (fleet.outcome step).1)] :=
    rfl
  rw [acquaintings, history, List.filterMap_append]
  cases h : acquainting? place (step, (fleet.outcome step).1) <;> simp [acquaintings, h]

theorem acquainting?_of_ne {step : Step} (h : ∀ call, step ≠ .call place call)
    (result : Except RuntimeError Unit) : acquainting? place (step, result) = none := by
  cases step with
  | call other call =>
    have ho : other ≠ place := by
      rintro rfl
      exact h call rfl
    cases result <;> simp [acquainting?, ho]
  | _ => rfl

/-- A runtime that is not there takes no calls. -/
theorem acquainting?_of_absent (hn : fleet.world.runtime? place = none) (step : Step) :
    acquainting? place (step, (fleet.outcome step).1) = none := by
  by_cases hc : ∃ call, step = .call place call
  · obtain ⟨call, rfl⟩ := hc
    have refused : (fleet.outcome (.call place call)).1 = .error World.unreachable := by
      simp only [outcome]
      rw [World.act_none hn]
    rw [refused]
    rfl
  · exact acquainting?_of_ne (not_exists.1 hc) _

/-- A runtime that starts has no acquaintances. -/
theorem directory_of_started (hs : fleet.Sound) {step : Step} {runtime : Runtime}
    (hn : fleet.world.runtime? place = none)
    (hr : (fleet.next step).world.runtime? place = some runtime) : runtime.directory = {} := by
  cases arises_next hs.world hr with
  | called _ hb => cases hn.symm.trans hb
  | passed _ hb => cases hn.symm.trans hb
  | @started request hstep hp _ =>
    subst hstep hp
    obtain ⟨started, ho, rfl⟩ := exists_boot_of_start hn hr
    have same : _ = started.directory :=
      Runtime.boot_touches request.config (fleet.world.site started) .directory (by decide)
    rw [same]
    exact (Runtime.ofRequest_fresh ho).2.2.2.2.2.2

theorem Acquainted.next (h : fleet.Acquainted place) (hs : fleet.Sound) (step : Step) :
    (fleet.next step).Acquainted place := by
  cases hr : fleet.world.runtime? place with
  | none =>
    rw [Acquainted, hr] at h
    have nothing : (fleet.next step).acquaintings place = [] := by
      rw [acquaintings_next, h, acquainting?_of_absent hr]
      rfl
    rw [Acquainted, nothing]
    cases hr' : (fleet.next step).world.runtime? place with
    | none => rfl
    | some runtime' =>
      dsimp only
      rw [directory_of_started hs hr hr']
      exact makes_nil
  | some runtime =>
    rw [Acquainted, hr] at h
    have url : (fleet.next step).url? place = some runtime.url :=
      url?_next hs.world (by rw [url?, hr]; rfl) step
    obtain ⟨runtime', hr', -⟩ := Option.map_eq_some_iff.1 url
    rw [Acquainted, hr', acquaintings_next]
    by_cases hc : ∃ call, step = .call place call
    · obtain ⟨call, rfl⟩ := hc
      obtain ⟨site, rfl, run⟩ := exists_run_of_call hs.world hr hr'
      have made := Call.action_makes run h
      cases ho : (fleet.outcome (.call place call)).1 with
      | error e => simpa [ho, acquainting?, Except.toOption] using made
      | ok u => simpa [ho, acquainting?, Except.toOption] using made
    · have hc := not_exists.1 hc
      rw [acquainting?_of_ne hc]
      cases arises_next hs.world hr' with
      | started _ _ hn => cases hn.symm.trans hr
      | called hstep => exact absurd hstep (hc _)
      | passed _ hb touched hsite =>
        obtain rfl := Option.some.inj (hr.symm.trans hb)
        have same : _ = runtime.directory := touched .directory (by decide)
        dsimp only at h ⊢
        rw [hsite, same]
        simpa using h

theorem acquainted_after (place : RuntimeId) (steps : List Step) :
    (({} : Fleet).after steps).Acquainted place := by
  have kept : (({} : Fleet).after steps).Sound ∧ (({} : Fleet).after steps).Acquainted place := by
    apply after_of_next (P := fun fleet => fleet.Sound ∧ fleet.Acquainted place)
    · intro fleet step h
      exact ⟨h.1.next step, h.2.next h.1 step⟩
    · exact ⟨sound_empty, by simp [Acquainted, World.runtime?, acquaintings]⟩
  exact kept.2

/-- After every run, the acquaintances of a runtime are the names whose last call was an addition,
each once, in the order of their first additions since they were removed last. The next addition
tells whether the name is absent, the next removal whether it is there. -/
theorem acquaintances_after {place : RuntimeId} {steps : List Step} {runtime : Runtime}
    (hr : (({} : Fleet).after steps).world.runtime? place = some runtime) :
    Makes ((({} : Fleet).after steps).acquaintings place) runtime.directory.acquaintances ∧
    ∀ name : String,
      ((({} : Fleet).after steps).world.perform place (Runtime.addAcquaintance name)).map (·.1) =
          some (decide (name ∉ runtime.directory.acquaintances)) ∧
      ((({} : Fleet).after steps).world.perform place (Runtime.removeAcquaintance name)).map (·.1) =
          some (decide (name ∈ runtime.directory.acquaintances)) := by
  have made := acquainted_after place steps
  rw [Acquainted, hr] at made
  refine ⟨made, fun name => ⟨?_, ?_⟩⟩
  · rw [World.perform, hr]
    exact congrArg some (Runtime.run_addAcquaintance name _).1
  · rw [World.perform, hr]
    exact congrArg some (Runtime.run_removeAcquaintance name _).1

/-- `a` is added twice, which changes nothing the second time. It is removed and added again, and
so comes behind `b`. -/
def meeting : List Step :=
  [opening 1 1099, .call 1 (.addAcquaintance "a"), .call 1 (.addAcquaintance "b"),
    .call 1 (.addAcquaintance "a"), .call 1 (.addAcquaintance "c"),
    .call 1 (.removeAcquaintance "c"), .call 1 (.removeAcquaintance "a"),
    .call 1 (.addAcquaintance "a")]

theorem acquaintances_after_meeting :
    ∃ runtime, (({} : Fleet).after meeting).world.runtime? 1 = some runtime ∧
      runtime.directory.acquaintances = ["b", "a"] ∧
      Makes [.added "a", .added "b", .added "a", .added "c", .removed "c", .removed "a", .added "a"]
        ["b", "a"] ∧
      ((({} : Fleet).after meeting).world.perform 1 (Runtime.addAcquaintance "c")).map (·.1) =
        some true := by
  have h : ((({} : Fleet).after meeting).world.runtime? 1).any fun runtime =>
      runtime.directory.acquaintances = ["b", "a"] := by decide +kernel
  obtain ⟨runtime, hr, h⟩ := (Option.any_eq_true _ _).1 h
  have names := of_decide_eq_true h
  obtain ⟨made, answers⟩ := acquaintances_after hr
  have log : (({} : Fleet).after meeting).acquaintings 1 =
      [.added "a", .added "b", .added "a", .added "c", .removed "c", .removed "a", .added "a"] := by
    decide +kernel
  rw [log, names] at made
  have answer := (answers "c").1
  rw [names] at answer
  exact ⟨runtime, hr, names, made, answer⟩

end Fleet

end ActiveObjects

import ActiveObjects.Proofs.Naming.Teardown
import ActiveObjects.Proofs.Runtime.Creation

/-!
# Bindings that are remembered

A runtime has to remember what it bound, or it cannot unbind it when it is shut down: its own URL,
those of its nodes, and those of its groups. What is bound is remembered, with one exception: a
group that is registered again under another URL forgets the URL that it had.
-/

namespace ActiveObjects

open Site

/-- The URL is that of the runtime, of one of its nodes or of one of its groups. -/
def Runtime.Remembers (runtime : Runtime) (url : Url) : Prop :=
  url = runtime.url ∨ url ∈ runtime.nodes ∨
    ∃ (key : String) (group : VirtualNodeGroup),
      runtime.groups[key]? = some group ∧ group.url = url

/-- Over a reliable naming facility, a URL that is bound afterwards is remembered afterwards, or it
was bound before and was not remembered even then. -/
structure Accounts (url : Url) (s s' : Site) : Prop where
  later : s.naming.Later s'.naming
  remembered : s.naming.Reliable → s'.naming.contains url →
    s'.runtime.Remembers url ∨ (s.naming.contains url ∧ ¬ s.runtime.Remembers url)

instance (url : Url) : IsPreorder Site (Accounts url) where
  refl s := ⟨Naming.later_refl s.naming, fun _ hb => by
    by_cases hr : s.runtime.Remembers url
    · exact .inl hr
    · exact .inr ⟨hb, hr⟩⟩
  trans s₁ s₂ s₃ h h' := by
    refine ⟨h.later.trans h'.later, fun hr hb => ?_⟩
    rcases h'.remembered (hr.later h.later) hb with hm | ⟨hb₂, hm₂⟩
    · exact .inl hm
    · rcases h.remembered hr hb₂ with hm | hn
      · exact absurd hm hm₂
      · exact .inr hn

namespace Accounts

variable {url : Url} {s s' : Site}

/-- What is remembered of what is not unbound stays remembered. -/
theorem of_releaseAll (urls : List Url) (hn : s'.naming = s.naming.releaseAll urls)
    (hm : s.naming.Reliable → url ∉ urls → s.runtime.Remembers url → s'.runtime.Remembers url) :
    Accounts url s s' := by
  refine ⟨hn ▸ Naming.later_releaseAll .., fun hr hb => ?_⟩
  rw [hn, Naming.contains_releaseAll_iff, hr.withstands_iff] at hb
  by_cases h : s.runtime.Remembers url
  · exact .inl (hm hr hb.2 h)
  · exact .inr ⟨hb.1, h⟩

theorem of_same (hn : s'.naming = s.naming)
    (hm : s.runtime.Remembers url → s'.runtime.Remembers url) : Accounts url s s' :=
  .of_releaseAll [] hn fun _ _ => hm

/-- A call in vain forgets nothing. -/
theorem of_spend {call : NamingCall} {address : Url} (hn : s'.naming = s.naming.spend call address)
    (hm : s.runtime.Remembers url → s'.runtime.Remembers url) : Accounts url s s' := by
  refine ⟨hn ▸ Naming.later_spend .., fun _ hb => ?_⟩
  rw [hn, Naming.contains_spend] at hb
  by_cases h : s.runtime.Remembers url
  · exact .inl (hm h)
  · exact .inr ⟨hb, h⟩

/-- What is entered is remembered. -/
theorem of_enter {address : Url} {handle : RuntimeHandle} {replaceIfBound : Bool}
    (hn : s'.naming = s.naming.enter address handle replaceIfBound)
    (learned : s'.runtime.Remembers address)
    (kept : s.runtime.Remembers url → s'.runtime.Remembers url) : Accounts url s s' := by
  refine ⟨hn ▸ Naming.later_enter .., fun _ hb => ?_⟩
  rcases Naming.contains_enter_or (hn ▸ hb) with rfl | hb
  · exact .inl learned
  · by_cases hm : s.runtime.Remembers url
    · exact .inl (kept hm)
    · exact .inr ⟨hb, hm⟩

end Accounts

/-- What does not concern the names of a runtime leaves its memory alone. -/
theorem Touches.remembers_iff {url : Url} {parts : List Part} {s s' : Site} (h : Touches parts s s')
    (hp : parts ⊆ [.naming, .log, .state, .parent, .defaultTag, .bodies, .directory, .security,
      .events]) : s'.runtime.Remembers url ↔ s.runtime.Remembers url := by
  have h := h.mono hp
  have nodes : s'.runtime.nodes = s.runtime.nodes := h .nodes (by decide)
  have groups : s'.runtime.groups = s.runtime.groups := h .groups (by decide)
  obtain ⟨-, -, own, -⟩ := h .identity (by decide)
  rw [Runtime.Remembers, Runtime.Remembers, own, nodes, groups]

/-- What concerns neither names nor tables of URLs forgets nothing. -/
theorem Touches.accounts {parts : List Part} {s s' : Site} (h : Touches parts s s')
    (hp : parts ⊆ [.log, .state, .parent, .defaultTag, .bodies, .directory, .security, .events])
    (url : Url) : Accounts url s s' :=
  .of_same (h.mono hp .naming (by decide)) ((h.mono hp).remembers_iff (by decide)).2

theorem Moves.accounts {α : Type} {parts : List Part} {work : Work α}
    (h : Moves (Touches parts) work)
    (hp : parts ⊆ [.log, .state, .parent, .defaultTag, .bodies, .directory, .security, .events])
    (url : Url) : Moves (Accounts url) work :=
  h.mono fun _ _ ht => ht.accounts hp url

variable {url : Url}

/-! ## Unbinding -/

theorem Registry.unregister_accounts (address : Url) :
    Moves (Accounts url) (attempt (unregister address)) := by
  intro site
  rcases hr : (attempt (unregister address)).run site with ⟨result, site'⟩
  obtain ⟨-, hn, hs⟩ := run_unregister hr
  exact .of_releaseAll [address] hn fun _ _ hm => hs ▸ hm

theorem Node.Kills.accounts {urls : List Url} {s s' : Site} (h : Kills urls s s') :
    Accounts url s s' := by
  refine .of_releaseAll _ h.names fun hr hp hm => ?_
  rcases hm with hm | hm | ⟨key, group, hg, hu⟩
  · exact .inl (hm.trans h.url.symm)
  · exact .inr (.inl (h.mem_nodes_iff.2 ⟨hm, fun hk => hp hk.1⟩))
  · have same := h.groups key
    rw [hg, Option.map_some] at same
    obtain ⟨found, hf, hfu⟩ := Option.map_eq_some_iff.1 same
    exact .inr (.inr ⟨key, found, hf, hfu.trans hu⟩)

theorem VirtualNode.Forgets.accounts {name : String} {s s' : Site} (h : Forgets name s s') :
    Accounts url s s' := by
  refine .of_releaseAll _ h.names fun hr hp hm => ?_
  rcases hm with hm | hm | ⟨key, group, hg, hu⟩
  · exact .inl (hm.trans h.url.symm)
  · exact .inr (.inl (h.nodes ▸ hm))
  · refine .inr (.inr ⟨key, group, ?_, hu⟩)
    rw [h.groups]
    refine Runtime.getElem?_forget.2 ⟨hg, ?_⟩
    rintro ⟨rfl, -⟩
    refine hp ?_
    have hf : s.runtime.groups.find? name = some group := hg
    rw [Runtime.nameUrls, Runtime.virtualNodeUrl, hf, ← hu]
    exact List.mem_singleton_self _

theorem VirtualNode.unregister_accounts (name : String) :
    Moves (Accounts url) (attempt (unregister name)) := by
  intro site
  exact (run_unregister rfl).2.accounts

theorem VirtualNode.unregisterAll_accounts : Moves (Accounts url) unregisterAll := by
  refine .bind .get fun site => .foldlM (fun report entry middle => ?_) _ _
  exact (run_sweepOne rfl).2.accounts

theorem Runtime.kill_accounts : Moves (Accounts url) kill :=
  kill_of_stages (fun _ _ hn hs => (beginShutdown_touches hn hs).accounts (by decide) url)
    (fun site => (Node.killAll_kills site).accounts) VirtualNode.unregisterAll_accounts
    (fun url => Registry.unregister_accounts url)
    fun _ _ hn hs => (halt_touches hn hs).accounts (by decide) url

/-! ## Binding -/

/-- A URL that the runtime remembers already may be registered. -/
theorem Registry.register_accounts {address : Url} (handle : RuntimeHandle)
    (replaceIfBound : Bool) {site : Site} (h : site.runtime.Remembers address) :
    MovesFrom (Accounts url) site (attempt (register address handle replaceIfBound)) := by
  rcases hr : (attempt (register address handle replaceIfBound)).run site with ⟨result, site'⟩
  obtain ⟨-, hn, hs⟩ := run_register hr
  rw [MovesFrom, hr]
  exact .of_enter hn (hs.symm ▸ h) fun hm => hs.symm ▸ hm

/-- More nodes, and groups of the same URLs, are no less to remember. -/
theorem Runtime.Remembers.mono {runtime runtime' : Runtime} (h : runtime.Remembers url)
    (hu : runtime'.url = runtime.url) (hn : ∀ address ∈ runtime.nodes, address ∈ runtime'.nodes)
    (hg : SameGroups runtime runtime') : runtime'.Remembers url := by
  rcases h with h | h | ⟨key, group, hk, rfl⟩
  · exact .inl (h.trans hu.symm)
  · exact .inr (.inl (hn url h))
  · have same := hg key
    rw [hk, Option.map_some] at same
    obtain ⟨found, hf, hfu⟩ := Option.map_eq_some_iff.1 same
    exact .inr (.inr ⟨key, found, hf, hfu⟩)

namespace Node

theorem setDefaultTag_accounts (tag : String) : Moves (Accounts url) (setDefaultTag tag) := by
  intro site
  obtain ⟨nodes, groups⟩ := setDefaultTag_tables tag site
  have ht := setDefaultTag_touches tag site
  obtain ⟨-, -, own, -⟩ := ht .identity (by decide)
  refine .of_same (ht .naming (by decide)) fun h => h.mono own ?_ ?_
  · intro address ha
    obtain ⟨node, hn⟩ := mem_iff_exists_getElem?.1 ha
    rw [← Std.ExtTreeMap.isSome_getElem?_iff_mem, nodes, NodeTable.tagUntagged,
      Std.ExtTreeMap.getElem?_map, hn]
    rfl
  · intro key
    rw [groups, GroupTable.getElem?_foldl_attach, Option.map_map]
    refine congrFun (congrArg Option.map (funext fun group => ?_)) _
    dsimp only [Function.comp_apply]
    split <;> simp

end Node

/-- The registration of a name gives another URL to a group that has this one. -/
def Runtime.abandons (runtime : Runtime) (name : String) (url : Url) : Bool :=
  (runtime.groups.find? name).any fun group =>
    group.url = url ∧ (runtime.nodeUrl name).toOption ≠ some url

/-- A group that is enrolled is remembered under its URL, and forgets at most the one that it had.
-/
theorem Runtime.remembers_enroll {runtime runtime' : Runtime} {name : String} {address : Url}
    {members : List Url} (hu : runtime'.url = runtime.url) (hn : runtime'.nodes = runtime.nodes)
    (hg : runtime'.groups = runtime.groups.enroll (VirtualNode.key name) address members)
    (ha : runtime.nodeUrl name = .ok address) (hf : runtime.abandons name url = false) :
    runtime'.Remembers address ∧ (runtime.Remembers url → runtime'.Remembers url) := by
  have enrolled := (GroupTable.getElem?_enroll runtime.groups (VirtualNode.key name) address members
    (VirtualNode.key name)).trans (if_pos rfl)
  rw [← hg] at enrolled
  constructor
  · refine .inr (.inr ⟨VirtualNode.key name, _, enrolled, ?_⟩)
    cases runtime.groups[VirtualNode.key name]? <;> simp
  · rintro (h | h | ⟨other, group, hother, rfl⟩)
    · exact .inl (h.trans hu.symm)
    · exact .inr (.inl (hn ▸ h))
    · by_cases hk : VirtualNode.key name = other
      · subst hk
        have tracked : runtime.groups.find? name = some group := hother
        have same : address = group.url := by
          simpa [abandons, tracked, ha, Except.toOption] using hf
        refine .inr (.inr ⟨VirtualNode.key name, _, enrolled, ?_⟩)
        simp [hother, same]
      · refine .inr (.inr ⟨other, group, ?_, rfl⟩)
        rw [hg, GroupTable.getElem?_enroll, if_neg hk]
        exact hother

namespace Runtime

theorem createLocalNode_accounts (spec : NodeSpec) :
    Moves (Accounts url) (attempt (createLocalNode spec)) := by
  intro site
  rcases hr : (attempt (createLocalNode spec)).run site with ⟨result, site'⟩
  rcases run_createLocalNode hr with ⟨-, -, rfl⟩ | ⟨-, created, -, hc⟩
  · exact refl_of (Accounts url) site'
  cases hc with
  | unnamed hu => exact refl_of (Accounts url) site
  | kept hu ht hk hs => exact hs.accounts (by decide) url
  | refused hu hk he naming hs =>
    exact .of_spend (naming.trans (Naming.enter_of_error he)) (hs.remembers_iff (by decide)).2
  | installed hu hk he naming nodes groups hs =>
    obtain ⟨-, -, own, -⟩ := hs .identity (by decide)
    refine .of_enter naming (.inr (.inl (by simp [nodes]))) fun h => h.mono own ?_ ?_
    · intro address ha
      simp [nodes, ha]
    · intro key
      rw [groups, Node.getElem?_regroup, Option.map_map]
      exact congrFun (congrArg Option.map (funext fun group => Node.url_regrouped ..)) _

theorem registerVirtualNode_accounts {name : String} (replaceIfBound : Bool) {site : Site}
    (hn : site.runtime.abandons name url = false) :
    MovesFrom (Accounts url) site (attempt (registerVirtualNode name replaceIfBound)) := by
  rcases hr : (attempt (registerVirtualNode name replaceIfBound)).run site with ⟨result, site'⟩
  rw [MovesFrom, hr]
  rcases run_registerVirtualNode hr with ⟨-, -, rfl⟩ | ⟨-, enrolled, -, he⟩
  · exact refl_of (Accounts url) site'
  cases he with
  | unnamed hu => exact refl_of (Accounts url) site
  | refused hu he naming hs =>
    exact .of_spend (naming.trans (Naming.enter_of_error he)) (hs.remembers_iff (by decide)).2
  | enrolled hu he naming groups hg hs =>
    obtain ⟨-, -, own, -⟩ := hs .identity (by decide)
    obtain ⟨learned, kept⟩ :=
      remembers_enroll own (hs .nodes (by decide)) groups (nodeUrl_of_entryUrl hu) hn
    exact .of_enter naming learned kept

end Runtime

/-! ## Calls -/

namespace Call

/-- The call may bind a URL without remembering it, or forget this one though it may be bound. -/
def forgets (runtime : Runtime) (url : Url) : Call → Bool
  | register .. => true
  | registerVirtualNode name _ => runtime.abandons name url
  | _ => false

theorem action_accounts (constructors : ConstructorRegistry) (call : Call) {site : Site}
    (hn : call.forgets site.runtime url = false) :
    MovesFrom (Accounts url) site (attempt (call.action constructors)) := by
  cases call with
  | register url replaceIfBound => simp [forgets] at hn
  | unregister address => exact .attempt_discard (Registry.unregister_accounts address site)
  | createLocalNode spec => exact .attempt_discard (Runtime.createLocalNode_accounts spec site)
  | killNode name => exact .attempt_discard (Node.kill_kills name site).accounts
  | killAllNodes =>
    exact .attempt_discard (Node.killAll_kills site).accounts
  | setDefaultTag tag =>
    exact .attempt_ask_bind fun _ _ => Moves.attempt_lift (Node.setDefaultTag_accounts tag) site
  | registerVirtualNode name replaceIfBound =>
    exact .attempt_discard (Runtime.registerVirtualNode_accounts replaceIfBound hn)
  | unregisterVirtualNode name => exact .attempt_discard (VirtualNode.unregister_accounts name site)
  | unregisterAllVirtualNodes =>
    exact .attempt_discard (VirtualNode.unregisterAll_accounts site)
  | kill => exact .attempt_discard (Runtime.kill_accounts site)
  | _ =>
    refine (action_touches constructors _ site).accounts ?_ url
    simp [footprint]

end Call

/-! ## Starting -/

namespace Runtime

/-- The groups are those of these names, each under a URL that one of its names stood for. -/
structure Enrolled (start : Runtime) (names : List String) (runtime : Runtime) : Prop where
  url : runtime.url = start.url
  groups ⦃key : String⦄ ⦃group : VirtualNodeGroup⦄ : runtime.groups[key]? = some group →
    ∃ name ∈ names, VirtualNode.key name = key ∧ start.nodeUrl name = .ok group.url

/-- No name gives a group another URL in place of this one. -/
def Persists (runtime : Runtime) (names : List String) (url : Url) : Prop :=
  names.Pairwise fun name other => VirtualNode.key name = VirtualNode.key other →
    (runtime.nodeUrl name).toOption = some url → (runtime.nodeUrl other).toOption = some url

instance (runtime : Runtime) (names : List String) (url : Url) :
    Decidable (runtime.Persists names url) :=
  inferInstanceAs (Decidable (List.Pairwise _ _))

variable {start : Runtime} {names : List String}

theorem Enrolled.preserves {s s' : Site} (h : Touches [.naming, .log, .events] s s') :
    Preserves (Enrolled start names) s s' := by
  intro enrolled
  have groups : s'.runtime.groups = s.runtime.groups := h .groups (by decide)
  obtain ⟨-, -, url, -⟩ := h .identity (by decide)
  exact ⟨url.trans enrolled.url, fun key group hg => enrolled.groups (groups ▸ hg)⟩

theorem Enrolled.registerVirtualNode {site : Site} (h : start.Enrolled names site.runtime)
    (name : String) (replaceIfBound : Bool) :
    start.Enrolled (names ++ [name])
      ((attempt (registerVirtualNode name replaceIfBound)).run site).2.runtime := by
  refine registerVirtualNode_movesFrom (R := Preserves (Enrolled start (names ++ [name])))
    (fun _ _ => Enrolled.preserves) name replaceIfBound (fun address ha => ?_) ⟨h.url, ?_⟩
  · refine .modify ?_
    rintro middle ⟨url, groups⟩
    refine ⟨url, fun key group hg => ?_⟩
    have hg : (middle.runtime.groups.enroll (VirtualNode.key name) address
      (site.runtime.nodes.taggedWith name))[key]? = some group := hg
    rw [GroupTable.getElem?_enroll] at hg
    split at hg
    · rename_i hk
      cases hg
      refine ⟨name, by simp, hk, ?_⟩
      rw [← nodeUrl_congr h.url, ha]
      cases middle.runtime.groups[key]? <;> simp
    · exact groups hg
  · intro key group hg
    obtain ⟨other, hm, found⟩ := h.groups hg
    exact ⟨other, List.mem_append_left _ hm, found⟩

theorem Enrolled.not_abandons {runtime : Runtime} {done rest : List String} {name : String}
    (h : start.Enrolled done runtime) (hs : start.Persists (done ++ name :: rest) url) :
    runtime.abandons name url = false := by
  rw [abandons, Option.any_eq_false]
  rintro group hg
  rw [decide_eq_false_iff_not]
  rintro ⟨rfl, hn⟩
  obtain ⟨other, hm, hk, hu⟩ := h.groups hg
  rw [nodeUrl_congr h.url] at hn
  refine hn ((List.pairwise_append.1 hs).2.2 other hm name List.mem_cons_self hk ?_)
  rw [hu]
  rfl

/-- A runtime that starts remembers what it binds, this URL apart if its configuration gives the
group another one. -/
theorem boot_accounts (config : RuntimeConfig) {site : Site} (hg : site.runtime.groups = ∅)
    (hs : site.runtime.Persists config.virtualNodes url) :
    MovesFrom (Accounts url) site (attempt (boot config)) := by
  let Ready (names : List String) (middle : Site) : Prop :=
    site.runtime.Enrolled names middle.runtime
  have told {parts : List Part} {work : Work Unit} (h : Moves (Touches parts) work)
      (hp : parts ⊆ [.log, .events]) {middle : Site} (hr : Ready [] middle) :
      MovesFrom (Accounts url) middle (attempt (liftM work)) ∧
        Ready [] ((attempt (liftM work)).run middle).2 := by
    have h := h.widen hp middle
    exact ⟨h.accounts (by decide) url, Enrolled.preserves (h.mono (by decide)) hr⟩
  have fresh : Ready [] site := by
    refine ⟨rfl, fun key group h => ?_⟩
    rw [hg] at h
    simp at h
  refine .attempt_get_bind ?_
  have bound : MovesFrom (Accounts url) site
      (attempt (Registry.register site.runtime.url site.runtime.handle false)) :=
    Registry.register_accounts _ _ (.inl rfl)
  refine .attempt_bind_of (P := Ready []) bound ?_ fun _ middle hm => ?_
  · exact Enrolled.preserves (Registry.register_touches (by decide) (by decide) _ _ _ site) fresh
  have logs : Moves (Touches [.log]) (logLine .info "Runtime started") :=
    logLine_touches (by decide) _ _
  obtain ⟨logged, kept⟩ := told logs (by decide) hm
  refine .attempt_bind_of (P := Ready []) logged kept fun _ middle hm => ?_
  have publishes : Moves (Touches [.log, .events]) (publish (.runtimeStarted site.runtime.url)) :=
    publish_touches (by decide) (by decide) _
  obtain ⟨published, kept⟩ := told publishes (by decide) hm
  refine .attempt_bind_of (P := Ready []) published kept fun _ middle hm => ?_
  refine .attempt_bind ?_ fun _ => .attempt_forM (fun settings => ?_) _
  · refine .attempt_forM (P := Ready) hm fun done name rest middle hd hm => ?_
    refine ⟨.attempt_discard (registerVirtualNode_accounts true (hm.not_abandons (hd ▸ hs))), ?_⟩
    dsimp only [Ready]
    rw [run_attempt_discard]
    exact hm.registerVirtualNode name true
  · exact .attempt_discard (createLocalNode_accounts _)

end Runtime

end ActiveObjects

import Mathlib.Data.Finset.Max
import ActiveObjects.Proofs.Naming.Calls
import ActiveObjects.Proofs.VirtualNode.Names

/-!
# The sweep over all groups

The sweep hands each tracked key to the operation that unregisters a name, which takes the key of
the key. Keys that have themselves as their keys get their own groups unregistered. The others, that
still end with the suffix, address the groups of shorter keys, and when these are gone, the URLs
that they stand for as names.
-/

namespace ActiveObjects

open Site

/-! ## One name -/

namespace Runtime

variable {runtime runtime' : Runtime}

/-- The URL that a name of a virtual node addresses: that of the group if it is tracked, else the
one that the name stands for. -/
def virtualNodeUrl (runtime : Runtime) (name : String) : Except RuntimeError Url :=
  match runtime.groups.find? name with
  | some group => .ok group.url
  | none => runtime.nodeUrl name

theorem nodeUrl_congr (h : runtime'.url = runtime.url) (name : String) :
    runtime'.nodeUrl name = runtime.nodeUrl name := by
  rw [nodeUrl, nodeUrl, h]

/-- The URL, if any, that is unbound when a name is unregistered. -/
def nameUrls (runtime : Runtime) (name : String) : List Url :=
  (runtime.virtualNodeUrl name).toOption.toList

/-- The runtime after a name is unregistered. The group goes unless its URL fails to be
unregistered. -/
def forget (runtime : Runtime) (naming : Naming) (name : String) : Runtime :=
  match runtime.groups.find? name with
  | some group =>
    if naming.LetsGo group.url then
      { runtime with groups := runtime.groups.erase (VirtualNode.key name) }
    else runtime
  | none => runtime

theorem url_forget (runtime : Runtime) (naming : Naming) (name : String) :
    (runtime.forget naming name).url = runtime.url := by
  unfold forget
  split
  · split <;> rfl
  · rfl

theorem getElem?_forget {naming : Naming} {name key : String} {group : VirtualNodeGroup} :
    (runtime.forget naming name).groups[key]? = some group ↔
      runtime.groups[key]? = some group ∧
        ¬ (VirtualNode.key name = key ∧ naming.LetsGo group.url) := by
  unfold forget
  cases hf : runtime.groups.find? name with
  | none =>
    refine (and_iff_left_of_imp fun hk => ?_).symm
    rintro ⟨rfl, -⟩
    cases hf.symm.trans hk
  | some found =>
    have tracked : runtime.groups[VirtualNode.key name]? = some found := hf
    dsimp only
    split <;> rename_i hl
    · rw [Std.ExtTreeMap.getElem?_erase]
      split <;> rename_i ho
      · obtain rfl := Std.LawfulEqOrd.eq_of_compare ho
        refine iff_of_false (by simp) ?_
        rintro ⟨hk, hn⟩
        cases tracked.symm.trans hk
        exact hn ⟨rfl, hl⟩
      · refine (and_iff_left ?_).symm
        rintro ⟨rfl, -⟩
        exact ho Std.compare_self
    · refine (and_iff_left_of_imp fun hk => ?_).symm
      rintro ⟨rfl, hg⟩
      cases tracked.symm.trans hk
      exact hl hg

end Runtime

namespace VirtualNode

variable {name : String} {site site' : Site}

/-- What becomes of a site when a name is unregistered. -/
structure Forgets (name : String) (site site' : Site) : Prop where
  url : site'.runtime.url = site.runtime.url
  nodes : site'.runtime.nodes = site.runtime.nodes
  groups : site'.runtime.groups = (site.runtime.forget site.naming name).groups
  names : site'.naming = site.naming.releaseAll (site.runtime.nameUrls name)

/-- What is done once the URL is known. -/
theorem run_unregister_eq (name : String) (site : Site) :
    (attempt (unregister name)).run site =
      match site.runtime.groups.find? name with
      | some group =>
        (attempt (do
          let outcome ← Registry.unregister group.url
          (do
            modifyGroups (·.erase (key name))
            logLine .info "Virtual node unregistered"
            publish (.virtualNodeUnregistered site.runtime.url (key name)) : Work Unit)
          return outcome)).run site
      | none =>
        match site.runtime.nodeUrl name with
        | .error e => (.error e, site)
        | .ok url =>
          (attempt (do
            let outcome ← Registry.unregister url
            logLine .debug "Unregister of untracked virtual node"
            return outcome)).run site := by
  rw [unregister, run_attempt_get_bind]
  dsimp only
  cases site.runtime.groups.find? name with
  | some group => rfl
  | none =>
    dsimp only [Option.isSome_none]
    rw [run_attempt_bind, run_attempt_ask]
    cases site.runtime.nodeUrl name with
    | error e => rfl
    | ok url => rfl

theorem run_unregister {result : Except RuntimeError UnregisterOutcome}
    (hr : (attempt (unregister name)).run site = (result, site')) :
    result = site.runtime.virtualNodeUrl name >>= site.naming.releaseResult ∧
      Forgets name site site' := by
  have ht := unregister_touches name site
  rw [hr] at ht
  have url : site'.runtime.url = site.runtime.url := (ht .identity (by decide)).2.2.1
  have nodes : site'.runtime.nodes = site.runtime.nodes := ht .nodes (by decide)
  rw [run_unregister_eq] at hr
  cases hf : site.runtime.groups.find? name with
  | some group =>
    have hv : site.runtime.virtualNodeUrl name = .ok group.url := by
      rw [Runtime.virtualNodeUrl, hf]
    rw [hf] at hr
    obtain ⟨middle, hn, hm, hrun⟩ := Registry.run_unregister_bind group.url _ id site
    obtain ⟨rfl, hs⟩ := Prod.mk.inj (hr.symm.trans hrun)
    have told : Moves (Touches [.log, .events]) (do
        logLine .info "Virtual node unregistered"
        publish (.virtualNodeUnregistered site.runtime.url (key name)) : Work Unit) :=
      .bind (logLine_touches (by decide) _ _) fun _ => publish_touches (by decide) (by decide) _
    have last : site'.naming = site.naming.release group.url ∧
        site'.runtime.groups = if site.naming.LetsGo group.url then
          site.runtime.groups.erase (key name) else site.runtime.groups := by
      split at hs <;> rename_i hl
      · have ht := told ((modifyGroups (·.erase (key name))).run middle).2
        rw [hs, if_pos hl]
        refine ⟨Eq.trans (ht .naming (by decide)) hn, Eq.trans (ht .groups (by decide)) ?_⟩
        exact congrArg (fun runtime : Runtime => runtime.groups.erase (key name)) hm
      · rw [hs, if_neg hl, hn, hm]
        exact ⟨rfl, rfl⟩
    refine ⟨by rw [hv]; exact congrFun Except.map_id _, url, nodes, ?_, ?_⟩
    · rw [last.2, Runtime.forget, hf]
      dsimp only
      split <;> rfl
    · rw [last.1, Runtime.nameUrls, hv]
      rfl
  | none =>
    have kept : site.runtime.forget site.naming name = site.runtime := by
      rw [Runtime.forget, hf]
    rw [hf] at hr
    cases hu : site.runtime.nodeUrl name with
    | error e =>
      have hv : site.runtime.virtualNodeUrl name = .error e := by
        rw [Runtime.virtualNodeUrl, hf, hu]
      rw [hu] at hr
      cases hr
      refine ⟨by rw [hv]; rfl, url, nodes, by rw [kept], ?_⟩
      rw [Runtime.nameUrls, hv]
      rfl
    | ok address =>
      have hv : site.runtime.virtualNodeUrl name = .ok address := by
        rw [Runtime.virtualNodeUrl, hf, hu]
      rw [hu] at hr
      obtain ⟨middle, hn, hm, hrun⟩ := Registry.run_unregister_bind address _ id site
      obtain ⟨rfl, hs⟩ := Prod.mk.inj (hr.symm.trans hrun)
      have same : site'.naming = middle.naming ∧ site'.runtime = middle.runtime := by
        rw [hs]
        split <;> exact ⟨rfl, rfl⟩
      refine ⟨by rw [hv]; exact congrFun Except.map_id _, url, nodes, ?_, ?_⟩
      · rw [kept, same.2, hm]
      · rw [same.1, hn, Runtime.nameUrls, hv]
        rfl

end VirtualNode

/-! ## One turn -/

/-- The entry for an element, as the end of its unregistration is reported. -/
def SweepReport.note (report : SweepReport) (target : String) (url : Url) :
    Except RuntimeError UnregisterOutcome → SweepReport
  | .ok .unbound => report.recordSuccess target
  | .ok .wasAbsent => report.recordFailure target (.notBound url.display)
  | .error e => report.recordFailure target e

/-- Each entry counts, as a success or as a failure. -/
theorem SweepReport.attempted_note (report : SweepReport) (target : String) (url : Url)
    (result : Except RuntimeError UnregisterOutcome) :
    (report.note target url result).attempted = report.attempted + 1 ∧
      (report.note target url result).succeeded.length +
          (report.note target url result).failures.length =
        report.succeeded.length + report.failures.length + 1 := by
  rcases result with e | (_ | _) <;>
    simp only [note, recordSuccess, recordFailure, List.length_append, List.length_singleton,
      true_and] <;> omega

/-- The key still ends with the suffix, and the sweep comes first to what stands before it. -/
def VirtualNode.Late (key : String) : Prop := ¬ Plain key ∧ Plain (VirtualNode.key key)

instance (key : String) : Decidable (VirtualNode.Late key) := inferInstanceAs (Decidable (_ ∧ _))

namespace Runtime

variable {runtime : Runtime} {naming : Naming} {key : String}

/-- Where a sweep has got to when it is past some keys: what is left of the runtime, and the URLs
that it called to be unbound. -/
def turns (runtime : Runtime) (naming : Naming) (keys : List String) : Runtime × List Url :=
  keys.foldl (fun (left, urls) key =>
    (left.forget (naming.releaseAll urls) key, urls ++ left.nameUrls key)) (runtime, [])

/-- The URLs that a sweep over some keys unbinds, turn by turn. -/
def sweepUrls (runtime : Runtime) (naming : Naming) (keys : List String) : List Url :=
  (runtime.turns naming keys).2

section

variable {keys : List String}

theorem turns_concat (runtime : Runtime) (naming : Naming) (keys : List String) (key : String) :
    runtime.turns naming (keys ++ [key]) =
      ((runtime.turns naming keys).1.forget
          (naming.releaseAll (runtime.sweepUrls naming keys)) key,
        runtime.sweepUrls naming keys ++ (runtime.turns naming keys).1.nameUrls key) :=
  List.foldl_concat ..

theorem sweepUrls_concat (runtime : Runtime) (naming : Naming) (keys : List String)
    (key : String) :
    runtime.sweepUrls naming (keys ++ [key]) =
      runtime.sweepUrls naming keys ++ (runtime.turns naming keys).1.nameUrls key :=
  congrArg Prod.snd (runtime.turns_concat naming keys key)

theorem url_turns : (runtime.turns naming keys).1.url = runtime.url := by
  induction keys using List.reverseRecOn with
  | nil => rfl
  | append_singleton keys key ih => rw [turns_concat, url_forget, ih]

/-- A group is left if it was not unregistered in any of the turns that address it. -/
theorem getElem?_turns {group : VirtualNodeGroup} :
    (runtime.turns naming keys).1.groups[key]? = some group ↔
      runtime.groups[key]? = some group ∧
        ∀ (done : List String) (other : String), done ++ [other] <+: keys →
          VirtualNode.key other = key →
          ¬ (naming.releaseAll (runtime.sweepUrls naming done)).LetsGo group.url := by
  induction keys using List.reverseRecOn with
  | nil => simp [turns]
  | append_singleton keys last ih =>
    rw [turns_concat, getElem?_forget, ih, and_assoc]
    refine and_congr_right fun _ => ?_
    constructor
    · rintro ⟨earlier, turn⟩ done other hd hk hl
      rcases List.prefix_concat_iff.1 hd with hd | hd
      · obtain ⟨rfl, hlast⟩ := List.append_inj' hd rfl
        obtain rfl := List.singleton_inj.1 hlast
        exact turn ⟨hk, hl⟩
      · exact earlier done other hd hk hl
    · intro h
      refine ⟨fun done other hd => h done other (hd.trans (List.prefix_append ..)), ?_⟩
      rintro ⟨hk, hl⟩
      exact h keys last List.prefix_rfl hk hl

end

/-! ### When no call fails -/

/-- The URL that the sweep unbinds in the turn of a key when no call fails. A late key does not find
the group any more that it addresses. -/
def sweepUrl (runtime : Runtime) (key : String) : Except RuntimeError Url :=
  match runtime.groups.find? key with
  | some group => if VirtualNode.Late key then runtime.nodeUrl key else .ok group.url
  | none => runtime.nodeUrl key

/-- A key that is its own key has its own group unregistered. -/
theorem sweepUrl_of_plain (h : VirtualNode.Plain key) {group : VirtualNodeGroup}
    (hg : runtime.groups[key]? = some group) : runtime.sweepUrl key = .ok group.url := by
  have hf : runtime.groups.find? key = some group := by
    rw [GroupTable.find?, h]
    exact hg
  have hl : ¬ VirtualNode.Late key := fun hl => hl.1 h
  simp only [sweepUrl, hf, hl, if_false]

/-- Another name of the group was there earlier exactly if the key is a late one. -/
theorem exists_before_iff (hb : runtime.BareKeys) {group found : VirtualNodeGroup}
    {done rest : List (String × VirtualNodeGroup)}
    (hd : runtime.groups.toList = done ++ (key, group) :: rest)
    (hf : runtime.groups.find? key = some found) :
    (∃ other ∈ done, VirtualNode.key other.1 = VirtualNode.key key) ↔
      VirtualNode.Late key := by
  have tracked : runtime.groups[key]? = some group :=
    Std.ExtTreeMap.mem_toList_iff_getElem?_eq_some.1 (by simp [hd])
  constructor
  · rintro ⟨⟨other, _⟩, hm, hk⟩
    obtain ⟨ho, hlt⟩ := (mem_toList_prefix_iff hd).1 hm
    dsimp only at ho hlt hk
    -- Of two names with one key the earlier one is the key.
    have hp : VirtualNode.Plain other := by
      by_contra hp
      have heq := (hb ho).eq_key_append hp
      rw [hk] at heq
      by_cases hq : VirtualNode.Plain key
      · rw [hq] at heq
        rw [heq, Std.OrientedOrd.eq_swap, VirtualNode.compare_append] at hlt
        cases hlt
      · rw [← (hb tracked).eq_key_append hq] at heq
        rw [heq, Std.compare_self] at hlt
        cases hlt
    rw [VirtualNode.Late, VirtualNode.Plain, ← hk, hp]
    refine ⟨fun hq => ?_, hp⟩
    rw [hq, Std.compare_self] at hlt
    cases hlt
  · rintro ⟨hn, hp⟩
    refine ⟨(VirtualNode.key key, found), (mem_toList_prefix_iff hd).2 ⟨hf, ?_⟩, hp⟩
    have hlt := VirtualNode.compare_append (VirtualNode.key key)
    rwa [← (hb tracked).eq_key_append hn] at hlt

/-- When no call fails, a group is left if no key addresses it. -/
theorem getElem?_turns_of_reliable (hr : naming.Reliable) {keys : List String}
    {group : VirtualNodeGroup} :
    (runtime.turns naming keys).1.groups[key]? = some group ↔
      runtime.groups[key]? = some group ∧ ∀ other ∈ keys, VirtualNode.key other ≠ key := by
  rw [getElem?_turns]
  refine and_congr_right fun _ => ?_
  constructor
  · intro h other ho hk
    obtain ⟨done, rest, rfl⟩ := List.append_of_mem ho
    exact h done other (by simp) hk ((hr.later (Naming.later_releaseAll ..)).letsGo group.url)
  · intro h done other hd hk
    exact absurd hk (h other (hd.subset (by simp)))

/-- When no call fails, a key addresses in its turn what it is expected to. -/
theorem virtualNodeUrl_turns (hb : runtime.BareKeys) (hr : naming.Reliable)
    {done rest : List (String × VirtualNodeGroup)} {group : VirtualNodeGroup}
    (hd : runtime.groups.toList = done ++ (key, group) :: rest) :
    (runtime.turns naming (done.map (·.1))).1.virtualNodeUrl key = runtime.sweepUrl key := by
  have same : (runtime.turns naming (done.map (·.1))).1.nodeUrl key = runtime.nodeUrl key :=
    nodeUrl_congr url_turns key
  have left (other : VirtualNodeGroup) :
      (runtime.turns naming (done.map (·.1))).1.groups.find? key = some other ↔
        runtime.groups.find? key = some other ∧
          ∀ name ∈ done.map (·.1), VirtualNode.key name ≠ VirtualNode.key key :=
    getElem?_turns_of_reliable hr
  unfold virtualNodeUrl sweepUrl
  cases hf : runtime.groups.find? key with
  | none =>
    have gone : (runtime.turns naming (done.map (·.1))).1.groups.find? key = none := by
      refine Option.eq_none_iff_forall_not_mem.2 fun other ho => ?_
      cases hf.symm.trans ((left other).1 ho).1
    simp only [gone, same]
  | some found =>
    have before := exists_before_iff hb hd hf
    by_cases hl : VirtualNode.Late key
    · obtain ⟨⟨other, value⟩, hm, hk⟩ := before.2 hl
      have gone : (runtime.turns naming (done.map (·.1))).1.groups.find? key = none := by
        refine Option.eq_none_iff_forall_not_mem.2 fun found' ho => ?_
        exact ((left found').1 ho).2 other (List.mem_map_of_mem hm) hk
      simp only [gone, same, if_pos hl]
    · have there := (left found).2 ⟨hf, fun name hm hk => ?_⟩
      · simp only [there, if_neg hl]
      · obtain ⟨entry, he, rfl⟩ := List.mem_map.1 hm
        exact hl (before.1 ⟨entry, he, hk⟩)

theorem sweepUrls_of_reliable (hb : runtime.BareKeys) (hr : naming.Reliable)
    {done rest : List (String × VirtualNodeGroup)} (hd : runtime.groups.toList = done ++ rest) :
    runtime.sweepUrls naming (done.map (·.1)) =
      done.flatMap fun entry => (runtime.sweepUrl entry.1).toOption.toList := by
  induction done using List.reverseRecOn generalizing rest with
  | nil => rfl
  | append_singleton done entry ih =>
    have hd : runtime.groups.toList = done ++ entry :: rest := by simpa using hd
    rw [List.map_append, List.map_singleton, sweepUrls_concat, ih hd, nameUrls,
      virtualNodeUrl_turns hb hr hd, List.flatMap_append, List.flatMap_singleton]

/-- When no call fails, the URLs unbound are those that the keys are expected to address. -/
theorem mem_sweepUrls_iff (hb : runtime.BareKeys) (hr : naming.Reliable) {url : Url} :
    url ∈ runtime.sweepUrls naming runtime.groups.keys ↔
      ∃ key ∈ runtime.groups, runtime.sweepUrl key = .ok url := by
  rw [← exists_mem_toList_iff (P := (runtime.sweepUrl · = .ok url)),
    ← Std.ExtTreeMap.map_fst_toList_eq_keys,
    sweepUrls_of_reliable hb hr (List.append_nil _).symm, List.mem_flatMap]
  simp only [Option.mem_toList, toOption_eq_some_iff]

end Runtime

namespace VirtualNode

variable {start : Site}

theorem run_sweepOne {report : SweepReport} {name : String} {url : Url} {site site' : Site}
    {report' : SweepReport} (hr : (sweepOne report name url).run site = (report', site')) :
    report' = report.note name url
        (site.runtime.virtualNodeUrl name >>= site.naming.releaseResult) ∧
      Forgets name site site' := by
  rcases hu : (attempt (unregister name)).run site with ⟨result, middle⟩
  obtain ⟨rfl, hf⟩ := run_unregister hu
  rw [sweepOne, StateT.run_bind, hu] at hr
  have same : report' = report.note name url
        (site.runtime.virtualNodeUrl name >>= site.naming.releaseResult) ∧
      site'.naming = middle.naming ∧ site'.runtime = middle.runtime := by
    revert hr
    rcases site.runtime.virtualNodeUrl name >>= site.naming.releaseResult with e | (_ | _) <;>
      intro hr <;> cases hr <;> exact ⟨rfl, rfl, rfl⟩
  obtain ⟨hreport, hn, hs⟩ := same
  exact ⟨hreport, hs ▸ hf.url, hs ▸ hf.nodes, hs ▸ hf.groups, hn ▸ hf.names⟩

/-- What is left when a sweep is past some keys. -/
structure Past (start : Site) (keys : List String) (site : Site) : Prop where
  url : site.runtime.url = start.runtime.url
  groups : site.runtime.groups = (start.runtime.turns start.naming keys).1.groups
  names : site.naming = start.naming.releaseAll (start.runtime.sweepUrls start.naming keys)

theorem past_nil (start : Site) : Past start [] start := ⟨rfl, rfl, rfl⟩

/-- In its turn a key addresses what is left. -/
theorem Past.virtualNodeUrl_eq {keys : List String} {site : Site} (h : Past start keys site)
    (key : String) :
    site.runtime.virtualNodeUrl key =
      (start.runtime.turns start.naming keys).1.virtualNodeUrl key := by
  rw [Runtime.virtualNodeUrl, Runtime.virtualNodeUrl, h.groups,
    Runtime.nodeUrl_congr (h.url.trans Runtime.url_turns.symm)]

/-- One more key. -/
theorem Past.concat {keys : List String} {key : String} {site site' : Site}
    (h : Past start keys site) (hf : Forgets key site site') :
    Past start (keys ++ [key]) site' where
  url := hf.url.trans h.url
  groups := by
    refine hf.groups.trans (Std.ExtTreeMap.ext_getElem? fun other => Option.ext fun group => ?_)
    rw [Runtime.turns_concat, Runtime.getElem?_forget, Runtime.getElem?_forget, h.groups, h.names]
  names := by
    rw [hf.names, h.names, Runtime.nameUrls, h.virtualNodeUrl_eq, Runtime.sweepUrls_concat,
      Naming.releaseAll_append, Runtime.nameUrls]

/-- The whole sweep. -/
theorem unregisterAll_past (site : Site) :
    Past site site.runtime.groups.keys (unregisterAll.run site).2 := by
  rw [← Std.ExtTreeMap.map_fst_toList_eq_keys]
  refine run_foldlM_induction
    (P := fun (done : List (String × VirtualNodeGroup)) _ last => Past site (done.map (·.1)) last)
    (past_nil site) ?_
  rintro done ⟨key, group⟩ rest report middle hd h
  rw [List.map_append, List.map_singleton]
  exact h.concat (run_sweepOne rfl).2

/-- Every group has its entry. -/
theorem unregisterAll_attempted (site : Site) :
    (unregisterAll.run site).1.attempted = site.runtime.groups.size ∧
      (unregisterAll.run site).1.succeeded.length + (unregisterAll.run site).1.failures.length =
        site.runtime.groups.size := by
  rw [← Std.ExtTreeMap.length_toList]
  refine run_foldlM_induction (P := fun done (report : SweepReport) _ =>
    report.attempted = done.length ∧
      report.succeeded.length + report.failures.length = done.length) ⟨rfl, rfl⟩ ?_
  rintro done ⟨key, group⟩ rest report middle hd ⟨attempted, complete⟩
  dsimp only
  rcases hr : (sweepOne report key group.url).run middle with ⟨report', last⟩
  obtain ⟨rfl, -⟩ := run_sweepOne hr
  obtain ⟨ha, hc⟩ := report.attempted_note key group.url
    (middle.runtime.virtualNodeUrl key >>= middle.naming.releaseResult)
  rw [ha, hc, attempted, complete]
  simp

end VirtualNode

/-! ## What the sweep should do -/

namespace Runtime

/-- The URL of a group is bound when the groups in front of it are unbound. -/
def BoundInTurn (runtime : Runtime) (naming : Naming) (entry : String × VirtualNodeGroup) : Prop :=
  naming.contains entry.2.url ∧
    ∀ other ∈ runtime.groups.toList, compare other.1 entry.1 = .lt → other.2.url ≠ entry.2.url

instance (runtime : Runtime) (naming : Naming) : DecidablePred (runtime.BoundInTurn naming) :=
  fun _ => inferInstanceAs (Decidable (_ ∧ _))

/-- Every group has its entry, in the order of keys: a success if its URL is bound in its turn, else
that it is not bound. Afterwards no group is tracked, their URLs are free, and no other URL is. -/
structure Swept (runtime : Runtime) (naming : Naming) (report : SweepReport) (runtime' : Runtime)
    (naming' : Naming) : Prop where
  attempted : report.attempted = runtime.groups.size
  succeeded :
    report.succeeded = (runtime.groups.toList.filter (runtime.BoundInTurn naming)).map (·.1)
  failures :
    report.failures = (runtime.groups.toList.filter (¬ runtime.BoundInTurn naming ·)).map
      fun entry => ⟨entry.1, .notBound entry.2.url.display⟩
  groups : runtime'.groups = ∅
  bound_iff (url : Url) (handle : RuntimeHandle) :
    naming'.bindings[url]? = some handle ↔
      naming.bindings[url]? = some handle ∧
        ∀ (key : String) (group : VirtualNodeGroup),
          runtime.groups[key]? = some group → group.url ≠ url

end Runtime

namespace VirtualNode

variable {start : Site}

/-- What the report says when a sweep is past some keys. -/
structure Reports (start : Site) (done : List (String × VirtualNodeGroup)) (report : SweepReport) :
    Prop where
  attempted : report.attempted = done.length
  succeeded :
    report.succeeded = (done.filter (start.runtime.BoundInTurn start.naming)).map (·.1)
  failures :
    report.failures = (done.filter (¬ start.runtime.BoundInTurn start.naming ·)).map
      fun entry => ⟨entry.1, .notBound entry.2.url.display⟩

theorem reports_nil (start : Site) : Reports start [] {} := ⟨rfl, rfl, rfl⟩

theorem Reports.concat {done : List (String × VirtualNodeGroup)} {report : SweepReport}
    (h : Reports start done report) (entry : String × VirtualNodeGroup) :
    Reports start (done ++ [entry])
      (report.note entry.1 entry.2.url
        (.ok (if start.runtime.BoundInTurn start.naming entry then .unbound else .wasAbsent))) := by
  obtain ⟨attempted, succeeded, failures⟩ := h
  split <;> rename_i hb <;> constructor <;>
    simp [SweepReport.note, SweepReport.recordSuccess, SweepReport.recordFailure, attempted,
      succeeded, failures, List.filter_append, hb]

/-- A key that is its own key has its own group unregistered. -/
theorem sweepUrl_of_mem (hp : ∀ key ∈ start.runtime.groups, Plain key)
    {entry : String × VirtualNodeGroup} (he : entry ∈ start.runtime.groups.toList) :
    start.runtime.sweepUrl entry.1 = .ok entry.2.url := by
  have hg := Std.ExtTreeMap.mem_toList_iff_getElem?_eq_some.1 he
  exact Runtime.sweepUrl_of_plain (hp _ (mem_iff_exists_getElem?.2 ⟨_, hg⟩)) hg

/-- The URL of a group is bound in its turn if it was, and is not that of a group in front. -/
theorem Past.contains_iff (hb : start.runtime.BareKeys) (hr : start.naming.Reliable)
    (hp : ∀ key ∈ start.runtime.groups, Plain key) {done rest : List (String × VirtualNodeGroup)}
    {entry : String × VirtualNodeGroup}
    (hd : start.runtime.groups.toList = done ++ entry :: rest) {site : Site}
    (h : Past start (done.map (·.1)) site) :
    site.naming.contains entry.2.url ↔ start.runtime.BoundInTurn start.naming entry := by
  rw [h.names, Naming.contains_releaseAll_iff, hr.withstands_iff,
    Runtime.sweepUrls_of_reliable hb hr hd, Runtime.BoundInTurn]
  refine and_congr_right fun _ => ?_
  simp only [List.mem_flatMap, Option.mem_toList, toOption_eq_some_iff]
  constructor
  · intro hn other ho hlt hu
    refine hn ⟨other, (mem_toList_prefix_iff hd).2 ⟨?_, hlt⟩, ?_⟩
    · exact Std.ExtTreeMap.mem_toList_iff_getElem?_eq_some.1 ho
    · rw [sweepUrl_of_mem hp ho, hu]
  · rintro hn ⟨other, hm, hu⟩
    have ho : other ∈ start.runtime.groups.toList := by
      rw [hd]
      exact List.mem_append_left _ hm
    rw [sweepUrl_of_mem hp ho] at hu
    exact hn other ho ((mem_toList_prefix_iff hd).1 hm).2 (Except.ok.inj hu)

/-- In its turn the unregistration of a group goes through, whether its URL is bound or not. -/
theorem Past.result_eq (hb : start.runtime.BareKeys) (hr : start.naming.Reliable)
    (hp : ∀ key ∈ start.runtime.groups, Plain key) {done rest : List (String × VirtualNodeGroup)}
    {key : String} {group : VirtualNodeGroup}
    (hd : start.runtime.groups.toList = done ++ (key, group) :: rest) {site : Site}
    (h : Past start (done.map (·.1)) site) :
    site.runtime.virtualNodeUrl key >>= site.naming.releaseResult =
      .ok (if start.runtime.BoundInTurn start.naming (key, group) then .unbound
        else .wasAbsent) := by
  have hm : (key, group) ∈ start.runtime.groups.toList := by
    rw [hd]
    simp
  have hu := sweepUrl_of_mem hp hm
  dsimp only at hu
  rw [h.virtualNodeUrl_eq, Runtime.virtualNodeUrl_turns hb hr hd, hu]
  have hc := h.contains_iff hb hr hp hd
  have reliable : site.naming.Reliable := h.names ▸ hr.later (Naming.later_releaseAll ..)
  refine (reliable.releaseResult_eq group.url).trans (congrArg Except.ok ?_)
  by_cases ht : start.runtime.BoundInTurn start.naming (key, group)
  · rw [if_pos ht, if_pos (hc.2 ht)]
  · rw [if_neg ht, if_neg fun h => ht (hc.1 h)]

theorem unregisterAll_reports (site : Site) (hb : site.runtime.BareKeys)
    (hr : site.naming.Reliable) (hp : ∀ key ∈ site.runtime.groups, Plain key) :
    Reports site site.runtime.groups.toList (unregisterAll.run site).1 := by
  refine (run_foldlM_induction (P := fun done report last =>
    Past site (done.map (·.1)) last ∧ Reports site done report)
    ⟨past_nil site, reports_nil site⟩ ?_).2
  rintro done ⟨key, group⟩ rest report middle hd ⟨h, reports⟩
  dsimp only
  rcases hs : (sweepOne report key group.url).run middle with ⟨report', last⟩
  obtain ⟨rfl, hf⟩ := run_sweepOne hs
  rw [h.result_eq hb hr hp hd, List.map_append, List.map_singleton]
  exact ⟨h.concat hf, reports.concat (key, group)⟩

/-- A longest name that is not its own key is nobody's key. -/
theorem plain_of_forall_exists {keys : List String} (hb : ∀ key ∈ keys, Bare key)
    (h : ∀ key ∈ keys, ∃ other ∈ keys, VirtualNode.key other = key) :
    ∀ key ∈ keys, Plain key := by
  intro key hk
  by_contra hp
  obtain ⟨longest, hl, hmax⟩ := (keys.toFinset.filter (¬ Plain ·)).exists_max_image String.length
    ⟨key, by simp [hk, hp]⟩
  simp only [Finset.mem_filter, List.mem_toFinset] at hl hmax
  obtain ⟨other, ho, rfl⟩ := h longest hl.1
  have hq : ¬ Plain other := fun hq => hl.2 (by rw [hq]; exact hq)
  have hlen := hmax other ⟨ho, hq⟩
  rw [(hb other ho).eq_key_append hq, String.length_append, length_nameSuffix,
    ← (hb other ho).eq_key_append hq] at hlen
  omega

/-- Over a reliable naming facility, the groups that no tracked key addresses stay. -/
theorem Past.tracked_iff (hr : start.naming.Reliable) {site : Site}
    (h : Past start start.runtime.groups.keys site) (key : String) (group : VirtualNodeGroup) :
    site.runtime.groups[key]? = some group ↔
      start.runtime.groups[key]? = some group ∧
        ∀ other ∈ start.runtime.groups, VirtualNode.key other ≠ key := by
  rw [h.groups, Runtime.getElem?_turns_of_reliable hr]
  simp only [Std.ExtTreeMap.mem_keys]

/-- Over a reliable naming facility, the sweep does what it should exactly when each tracked key is
its own key. -/
theorem swept_iff (site : Site) (hb : site.runtime.BareKeys) (hr : site.naming.Reliable) :
    site.runtime.Swept site.naming (unregisterAll.run site).1 (unregisterAll.run site).2.runtime
        (unregisterAll.run site).2.naming ↔
      ∀ key ∈ site.runtime.groups, Plain key := by
  have past := unregisterAll_past site
  constructor
  · intro h
    simp only [← Std.ExtTreeMap.mem_keys]
    refine plain_of_forall_exists ?_ ?_ <;> simp only [Std.ExtTreeMap.mem_keys] <;>
      intro key hk <;> obtain ⟨group, hg⟩ := mem_iff_exists_getElem?.1 hk
    · exact hb hg
    · by_contra hn
      have left := (past.tracked_iff hr key group).2
        ⟨hg, fun other ho heq => hn ⟨other, ho, heq⟩⟩
      rw [h.groups] at left
      simp at left
  · intro hp
    obtain ⟨attempted, succeeded, failures⟩ := unregisterAll_reports site hb hr hp
    refine ⟨attempted.trans Std.ExtTreeMap.length_toList, succeeded, failures, ?_, ?_⟩
    · refine Std.ExtTreeMap.ext_getElem? fun key => ?_
      rw [Std.ExtTreeMap.getElem?_empty]
      refine Option.eq_none_iff_forall_not_mem.2 fun group hg => ?_
      obtain ⟨ht, hn⟩ := (past.tracked_iff hr key group).1 hg
      have hm : key ∈ site.runtime.groups := mem_iff_exists_getElem?.2 ⟨group, ht⟩
      exact hn key hm (hp key hm)
    · intro url handle
      rw [past.names, Naming.bound_releaseAll_iff, hr.withstands_iff,
        Runtime.mem_sweepUrls_iff hb hr]
      refine and_congr_right fun _ => ?_
      constructor
      · intro hn key group hg hu
        have hm : key ∈ site.runtime.groups := mem_iff_exists_getElem?.2 ⟨group, hg⟩
        exact hn ⟨key, hm, by rw [Runtime.sweepUrl_of_plain (hp key hm) hg, hu]⟩
      · rintro hn ⟨key, hm, hu⟩
        obtain ⟨group, hg⟩ := mem_iff_exists_getElem?.1 hm
        rw [Runtime.sweepUrl_of_plain (hp key hm) hg] at hu
        exact hn key group hg (Except.ok.inj hu)

end VirtualNode

end ActiveObjects

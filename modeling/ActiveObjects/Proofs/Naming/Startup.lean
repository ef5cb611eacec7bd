import ActiveObjects.Proofs.Runtime.Creation
import ActiveObjects.Proofs.Fleet.Runs

/-!
# What a start leaves in the naming facility

A runtime that starts enters its own URL, then the groups and nodes of its configuration in turn.
The first failure ends the start, and what was entered before it stays entered.
-/

namespace ActiveObjects

open Site

/-- A name to be registered: the URL that it stands for, if any, and whether it replaces a
binding. -/
structure Entry where
  url : Except RuntimeError Url
  replaceIfBound : Bool

namespace Entry

/-- The naming facility once the name is registered, be it in vain. -/
def enter (handle : RuntimeHandle) (naming : Naming) (entry : Entry) : Naming :=
  match entry.url with
  | .error _ => naming
  | .ok url => naming.enter url handle entry.replaceIfBound

def result (strict : Bool) (naming : Naming) (entry : Entry) :
    Except RuntimeError RegisterOutcome := do
  naming.enterResult strict (← entry.url) entry.replaceIfBound

/-- Without the names that are not registered because the one before them is not to be replaced. -/
def once (seen : List Url) : List Entry → List Entry
  | [] => []
  | entry :: entries =>
    match entry.url with
    | .error _ => entry :: once seen entries
    | .ok url =>
      if url ∈ seen ∧ entry.replaceIfBound = false then once seen entries
      else entry :: once (url :: seen) entries

theorem once_cons_seen {seen : List Url} {url : Url} {replaceIfBound : Bool} {entries : List Entry}
    (h : url ∈ seen ∧ replaceIfBound = false) :
    once seen (⟨.ok url, replaceIfBound⟩ :: entries) = once seen entries := if_pos h

theorem once_cons_unseen {seen : List Url} {url : Url} {replaceIfBound : Bool}
    {entries : List Entry} (h : ¬ (url ∈ seen ∧ replaceIfBound = false)) :
    once seen (⟨.ok url, replaceIfBound⟩ :: entries) =
      ⟨.ok url, replaceIfBound⟩ :: once (url :: seen) entries := if_neg h

variable {handle : RuntimeHandle} {naming naming' : Naming} {strict : Bool} {entry : Entry}
  {entries : List Entry}

/-- What is bound to a runtime stays bound to it while more names are entered. -/
theorem bound_foldl_enter (entries : List Entry) {url : Url}
    (h : naming.bindings[url]? = some handle) :
    (entries.foldl (enter handle) naming).bindings[url]? = some handle := by
  induction entries generalizing naming with
  | nil => exact h
  | cons entry entries ih =>
    apply ih
    unfold enter
    cases entry.url with
    | error e => exact h
    | ok other =>
      dsimp only
      rw [Naming.getElem?_enter, h]
      simp

/-- A name that leaves a binding as it is enters nothing. -/
theorem bindings_enter_of_alreadyBound (h : entry.result strict naming = .ok .alreadyBound) :
    (entry.enter handle naming).bindings = naming.bindings := by
  obtain ⟨url, hu, h⟩ := bind_eq_ok_iff.1 h
  rw [enter, hu]
  exact Naming.bindings_enter_of_alreadyBound h

/-- A name that fails to be registered enters nothing. -/
theorem bindings_enter_of_error {e : RuntimeError} (h : entry.result strict naming = .error e) :
    (entry.enter handle naming).bindings = naming.bindings := by
  cases hu : entry.url with
  | error e => rw [enter, hu]
  | ok url =>
    rw [result, hu] at h
    rw [enter, hu]
    dsimp only
    rw [Naming.enter_of_error h, Naming.bindings_spend]

/-- A name that is registered otherwise is bound to the runtime afterwards. -/
theorem exists_bound_enter (handle : RuntimeHandle) {outcome : RegisterOutcome}
    (h : entry.result strict naming = .ok outcome) (hn : outcome ≠ .alreadyBound) :
    ∃ url : Url, (entry.enter handle naming).bindings[url]? = some handle := by
  obtain ⟨url, hu, h⟩ := bind_eq_ok_iff.1 h
  refine ⟨url, ?_⟩
  rw [enter, hu]
  dsimp only
  rw [Naming.getElem?_enter, if_pos ⟨Naming.obstacle?_eq_none_of_ok h hn, rfl⟩]

/-! ## Entering one after the other -/

/-- What registering names in turn makes of the naming facility, up to the first that fails. -/
def fill (strict : Bool) (handle : RuntimeHandle) :
    List Entry → Naming → Except RuntimeError Unit × Naming
  | [], naming => (.ok (), naming)
  | entry :: entries, naming =>
    match entry.result strict naming with
    | .error e => (.error e, entry.enter handle naming)
    | .ok _ => fill strict handle entries (entry.enter handle naming)

/-- Each of the names leaves a binding as it is, in its turn. -/
def Idle (strict : Bool) (handle : RuntimeHandle) : List Entry → Naming → Prop
  | [], _ => True
  | entry :: entries, naming =>
    entry.result strict naming = .ok .alreadyBound ∧
      Idle strict handle entries (entry.enter handle naming)

instance (strict : Bool) (handle : RuntimeHandle) :
    (entries : List Entry) → (naming : Naming) → Decidable (Idle strict handle entries naming)
  | [], _ => isTrue trivial
  | entry :: entries, naming =>
    have := instDecidableIdle strict handle entries (entry.enter handle naming)
    inferInstanceAs (Decidable (_ ∧ _))

theorem Idle.of_append {xs ys : List Entry} (h : Idle strict handle (xs ++ ys) naming) :
    Idle strict handle xs naming := by
  induction xs generalizing naming with
  | nil => trivial
  | cons x xs ih => exact ⟨h.1, ih h.2⟩

section

variable {url : Url} {replaceIfBound : Bool} {e : RuntimeError} {outcome : RegisterOutcome}

theorem fill_cons_of_error (h : naming.enterResult strict url replaceIfBound = .error e) :
    fill strict handle (⟨.ok url, replaceIfBound⟩ :: entries) naming =
      (.error e, naming.enter url handle replaceIfBound) := by
  have hr : result strict naming ⟨.ok url, replaceIfBound⟩ = .error e := h
  rw [fill, hr]
  rfl

theorem fill_cons_of_ok (h : naming.enterResult strict url replaceIfBound = .ok outcome) :
    fill strict handle (⟨.ok url, replaceIfBound⟩ :: entries) naming =
      fill strict handle entries (naming.enter url handle replaceIfBound) := by
  have hr : result strict naming ⟨.ok url, replaceIfBound⟩ = .ok outcome := h
  rw [fill, hr]
  rfl

end

theorem fill_append (strict : Bool) (handle : RuntimeHandle) (xs ys : List Entry)
    (naming : Naming) :
    fill strict handle (xs ++ ys) naming =
      match fill strict handle xs naming with
      | (.ok (), naming) => fill strict handle ys naming
      | (.error e, naming) => (.error e, naming) := by
  induction xs generalizing naming with
  | nil => rfl
  | cons x xs ih =>
    rw [List.cons_append, fill, fill]
    cases x.result strict naming with
    | error e => rfl
    | ok outcome => exact ih _

/-- Up to the failure all names are entered. That changes no binding exactly if each of them leaves
a binding as it is. -/
theorem fill_error {e : RuntimeError}
    (h : fill strict handle entries naming = (.error e, naming')) :
    ∃ done failed rest, entries = done ++ failed :: rest ∧
      failed.result strict (done.foldl (enter handle) naming) = .error e ∧
      naming' = failed.enter handle (done.foldl (enter handle) naming) ∧
      ((∀ url : Url, naming.bindings[url]? ≠ some handle) →
        (naming'.bindings = naming.bindings ↔ Idle strict handle done naming)) := by
  induction entries generalizing naming with
  | nil => cases h
  | cons entry entries ih =>
    rw [fill] at h
    cases hr : entry.result strict naming with
    | error e' =>
      rw [hr] at h
      cases h
      exact ⟨[], entry, entries, rfl, hr, rfl, by simp [bindings_enter_of_error hr, Idle]⟩
    | ok outcome =>
      rw [hr] at h
      obtain ⟨done, failed, rest, rfl, hf, rfl, hsame⟩ := ih h
      refine ⟨entry :: done, failed, rest, rfl, hf, rfl, fun hfresh => ?_⟩
      by_cases hn : outcome = .alreadyBound
      · subst hn
        rw [bindings_enter_of_alreadyBound hr] at hsame
        rw [Idle, and_iff_right hr]
        exact hsame hfresh
      · apply iff_of_false
        · intro heq
          obtain ⟨url, hb⟩ := exists_bound_enter handle hr hn
          have kept := bound_foldl_enter (done ++ [failed]) hb
          rw [List.foldl_concat] at kept
          rw [heq] at kept
          exact hfresh url kept
        · rintro ⟨hentry, -⟩
          rw [hr] at hentry
          cases hentry
          exact hn rfl

end Entry

/-! ## Booting -/

namespace Runtime

variable {site site' : Site} {result : Except RuntimeError Unit}

def groupEntry (runtime : Runtime) (name : String) : Entry := ⟨runtime.entryUrl name, true⟩

def nodeEntry (runtime : Runtime) (spec : NodeSpec) : Entry :=
  ⟨runtime.entryUrl spec.name, spec.replaceIfBound⟩

/-- What a runtime registers when it starts, in order. -/
def entries (runtime : Runtime) (config : RuntimeConfig) : List Entry :=
  ⟨.ok runtime.url, false⟩ :: (config.virtualNodes.map runtime.groupEntry ++
    Entry.once [] ((config.nodes.map NodeSpec.ofSettings).map runtime.nodeEntry))

/-- Entering depends on what the runtime was started with. -/
theorem entry_congr (h : Part.identity.Same site site') :
    site'.runtime.groupEntry = site.runtime.groupEntry ∧
      site'.runtime.nodeEntry = site.runtime.nodeEntry ∧
      Entry.fill site'.runtime.strict site'.runtime.handle =
        Entry.fill site.runtime.strict site.runtime.handle := by
  have names := entryUrl_congr h
  refine ⟨funext fun name => ?_, funext fun spec => ?_, ?_⟩
  · rw [groupEntry, groupEntry, names]
  · rw [nodeEntry, nodeEntry, names]
  · rw [h.handle_eq, h.2.2.2.1]

theorem groupEntry_eq {name : String} {url : Except RuntimeError Url}
    (hu : site.runtime.entryUrl name = url) : site.runtime.groupEntry name = ⟨url, true⟩ := by
  rw [groupEntry, hu]

theorem nodeEntry_eq {spec : NodeSpec} {url : Except RuntimeError Url}
    (hu : site.runtime.entryUrl spec.name = url) :
    site.runtime.nodeEntry spec = ⟨url, spec.replaceIfBound⟩ := by
  rw [nodeEntry, hu]

theorem run_bootGroups (names : List String) (hs : site.runtime.state = .running)
    (hr : (attempt (names.forM fun name => do
      let _ ← registerVirtualNode name true)).run site = (result, site')) :
    (result, site'.naming) = Entry.fill site.runtime.strict site.runtime.handle
      (names.map site.runtime.groupEntry) site.naming := by
  induction names generalizing site with
  | nil =>
    cases hr
    rfl
  | cons name names ih =>
    rw [run_attempt_forM_cons, run_attempt_bind] at hr
    rcases hc : (attempt (registerVirtualNode name true)).run site with ⟨enrolled, middle⟩
    rw [hc] at hr
    rw [List.map_cons]
    rcases run_registerVirtualNode hc with ⟨hn, -⟩ | ⟨-, found, rfl, henrolls⟩
    · exact absurd hs hn
    cases henrolls with
    | unnamed hu =>
      cases hr
      rw [groupEntry_eq hu]
      rfl
    | refused hu he naming ht =>
      cases hr
      rw [groupEntry_eq hu, Entry.fill_cons_of_error he, naming]
    | enrolled hu he naming groups hg ht =>
      have hstate : middle.runtime.state = site.runtime.state := ht .state (by decide)
      obtain ⟨hgroup, -, hfill⟩ := entry_congr (ht .identity (by decide))
      have rest := ih (hstate.trans hs) hr
      rw [hgroup, hfill, naming] at rest
      rw [rest, groupEntry_eq hu, Entry.fill_cons_of_ok he]

/-- The nodes that are tracked already are those seen. -/
theorem run_bootNodes (nodes : List NodeSettings) (hs : site.runtime.state = .running)
    {seen : List Url} (hseen : ∀ url, url ∈ seen ↔ url ∈ site.runtime.nodes)
    (hr : (attempt (nodes.forM fun settings => do
      let _ ← createLocalNode (NodeSpec.ofSettings settings))).run site = (result, site')) :
    (result, site'.naming) = Entry.fill site.runtime.strict site.runtime.handle
      (Entry.once seen ((nodes.map NodeSpec.ofSettings).map site.runtime.nodeEntry)) site.naming := by
  induction nodes generalizing site seen with
  | nil =>
    cases hr
    rfl
  | cons settings nodes ih =>
    rw [run_attempt_forM_cons, run_attempt_bind] at hr
    rcases hc : (attempt (createLocalNode (NodeSpec.ofSettings settings))).run site with
      ⟨created, middle⟩
    rw [hc] at hr
    rw [List.map_cons, List.map_cons]
    rcases run_createLocalNode hc with ⟨hn, -⟩ | ⟨-, found, rfl, hcreates⟩
    · exact absurd hs hn
    cases hcreates with
    | unnamed hu =>
      cases hr
      rw [nodeEntry_eq hu]
      rfl
    | kept hu htracked hk ht =>
      have hmem := (hseen _).2 (mem_iff_exists_getElem?.2 ⟨_, htracked⟩)
      have hnodes : middle.runtime.nodes = site.runtime.nodes := ht .nodes (by decide)
      have hstate : middle.runtime.state = site.runtime.state := ht .state (by decide)
      have hnaming : middle.naming = site.naming := ht .naming (by decide)
      obtain ⟨-, hnode, hfill⟩ := entry_congr (ht .identity (by decide))
      have rest := ih (hstate.trans hs) (hnodes ▸ hseen) hr
      rw [hnode, hfill, hnaming] at rest
      rw [rest, nodeEntry_eq hu, Entry.once_cons_seen ⟨hmem, hk⟩]
    | refused hu hk he naming ht =>
      cases hr
      have hnew := fun h : _ ∧ _ = false => hk h.2 ((hseen _).1 h.1)
      rw [nodeEntry_eq hu, Entry.once_cons_unseen hnew, Entry.fill_cons_of_error he, naming]
    | @installed url outcome middle hu hk he naming hnodes groups ht =>
      have hnew := fun h : _ ∧ _ = false => hk h.2 ((hseen _).1 h.1)
      have hstate : middle.runtime.state = site.runtime.state := ht .state (by decide)
      obtain ⟨-, hnode, hfill⟩ := entry_congr (ht .identity (by decide))
      have hseen' (other : Url) : other ∈ url :: seen ↔ other ∈ middle.runtime.nodes := by
        rw [hnodes, List.mem_cons, Std.ExtTreeMap.mem_insert, hseen, Std.compare_eq_iff_eq]
        exact or_congr_left eq_comm
      have rest := ih (hstate.trans hs) hseen' hr
      rw [hnode, hfill, naming] at rest
      rw [rest, nodeEntry_eq hu, Entry.once_cons_unseen hnew, Entry.fill_cons_of_ok he]

/-- What booting makes of the names, and of which failure it ends. -/
theorem run_boot (config : RuntimeConfig) (hs : site.runtime.state = .running)
    (hn : site.runtime.nodes = ∅)
    (hr : (attempt (boot config)).run site = (result, site')) :
    (result, site'.naming) = Entry.fill site.runtime.strict site.runtime.handle
      (site.runtime.entries config) site.naming := by
  rw [boot, run_attempt_get_bind] at hr
  dsimp only at hr
  rw [run_attempt_bind] at hr
  rcases hc : (attempt (Registry.register site.runtime.url site.runtime.handle false)).run site with
    ⟨registered, first⟩
  obtain ⟨hresult, hnaming, hruntime⟩ := Registry.run_register hc
  rw [hc] at hr
  rw [entries]
  cases registered with
  | error e =>
    cases hr
    rw [Entry.fill_cons_of_error hresult.symm, hnaming]
  | ok outcome =>
    rw [Entry.fill_cons_of_ok hresult.symm, Entry.fill_append]
    -- What is told of the start comes before the two loops.
    have told : Moves (Touches [.log, .events]) (do
        logLine .info "Runtime started"
        publish (.runtimeStarted site.runtime.url) : Work Unit) :=
      .bind (logLine_touches (by decide) _ _) fun _ => publish_touches (by decide) (by decide) _
    have ht := told first
    generalize hstart : ((do
        logLine .info "Runtime started"
        publish (.runtimeStarted site.runtime.url) : Work Unit).run first).2 = start at ht
    have hr : (attempt (do
        config.virtualNodes.forM fun name => do let _ ← registerVirtualNode name true
        config.nodes.forM fun settings => do
          let _ ← createLocalNode (NodeSpec.ofSettings settings))).run start = (result, site') :=
      hstart ▸ hr
    have hstate : start.runtime.state = first.runtime.state := ht .state (by decide)
    have hnodes : start.runtime.nodes = first.runtime.nodes := ht .nodes (by decide)
    have hnames : start.naming = first.naming := ht .naming (by decide)
    obtain ⟨hgroup, hnode, hfill⟩ := entry_congr (ht .identity (by decide))
    rw [hruntime] at hstate hnodes hgroup hnode hfill
    have grouped : Moves (Touches [.naming, .log, .groups, .events]) (attempt
        (config.virtualNodes.forM fun name => do let _ ← registerVirtualNode name true)) :=
      .attempt_forM (fun name => .attempt_discard (registerVirtualNode_touches name true)) _
    have hg := grouped start
    rw [run_attempt_bind] at hr
    rcases hgroups : (attempt (config.virtualNodes.forM fun name => do
      let _ ← registerVirtualNode name true)).run start with ⟨enrolled, second⟩
    rw [hgroups] at hr hg
    have filled := run_bootGroups _ (hstate.trans hs) hgroups
    rw [hgroup, hfill, hnames, hnaming] at filled
    rw [← filled]
    cases enrolled with
    | error e =>
      cases hr
      rfl
    | ok u =>
      have hstate' : second.runtime.state = start.runtime.state := hg .state (by decide)
      have hnodes' : second.runtime.nodes = start.runtime.nodes := hg .nodes (by decide)
      obtain ⟨-, hnode', hfill'⟩ := entry_congr (hg .identity (by decide))
      have hseen (url : Url) : url ∈ [] ↔ url ∈ second.runtime.nodes := by
        simp [hnodes', hnodes, hn]
      have rest := run_bootNodes config.nodes (hstate'.trans (hstate.trans hs)) hseen hr
      rw [hnode', hnode, hfill', hfill] at rest
      exact rest

end Runtime

/-! ## Starting -/

namespace World

variable {world world' : World} {request : StartRequest}

/-- A runtime that starts enters its names in turn, and the first failure is that of the start. -/
theorem start_fill (world : World) {runtime : Runtime}
    (ho : Runtime.ofRequest request = .ok runtime) :
    ((world.start request).1.map fun _ => (), (world.start request).2.naming) =
      Entry.fill runtime.strict runtime.handle (runtime.entries request.config) world.naming := by
  rcases hr : (attempt (Runtime.boot request.config)).run (world.site runtime) with ⟨result, site⟩
  obtain ⟨-, -, nodes, -, state, -⟩ := Runtime.ofRequest_fresh ho
  have filled := Runtime.run_boot request.config state nodes hr
  refine Eq.trans ?_ filled
  unfold start
  rw [ho]
  dsimp only
  rw [hr]
  cases result <;> rfl

/-- A start that fails changes nothing if the request describes no runtime. Else the names before
the one that fails are entered, and stay so. The bindings are as they were only if each of them left
a binding as it was. -/
theorem start_failed {e : RuntimeError} (h : world.start request = (.error e, world')) :
    (Runtime.ofRequest request = .error e ∧ world' = world) ∨
      ∃ runtime done failed rest, Runtime.ofRequest request = .ok runtime ∧
        runtime.entries request.config = done ++ failed :: rest ∧
        failed.result runtime.strict (done.foldl (Entry.enter runtime.handle) world.naming) =
          .error e ∧
        world'.naming =
          failed.enter runtime.handle (done.foldl (Entry.enter runtime.handle) world.naming) ∧
        world'.naming.bindings =
          (done.foldl (Entry.enter runtime.handle) world.naming).bindings ∧
        ((∀ url : Url, world.naming.bindings[url]? ≠ some runtime.handle) →
          (world'.naming.bindings = world.naming.bindings ↔
            Entry.Idle runtime.strict runtime.handle done world.naming)) := by
  cases ho : Runtime.ofRequest request with
  | error e' =>
    unfold start at h
    rw [ho] at h
    cases h
    exact .inl ⟨rfl, rfl⟩
  | ok runtime =>
    have filled := start_fill world ho
    rw [h] at filled
    obtain ⟨done, failed, rest, hentries, hfailed, hnaming, hsame⟩ := Entry.fill_error filled.symm
    refine .inr ⟨runtime, done, failed, rest, rfl, hentries, hfailed, hnaming, ?_, hsame⟩
    exact (congrArg Naming.bindings hnaming).trans (Entry.bindings_enter_of_error hfailed)

/-- A runtime with a node of the name `n`, and another one that cannot be created. -/
def faulty (id : RuntimeId) : StartRequest :=
  { id
    config :=
      { runtime := { name := "r", port := 1099 }
        nodes := [{ name := "n", replace := false }, { name := "x y" }] }
    resolver := .literals }

/-- A second runtime whose URL and first node are bound already. -/
theorem start_failed_twin :
    ∃ e world', (({} : World).start (faulty 1)).2.start (faulty 2) = (.error e, world') ∧
      world'.naming.bindings = (({} : World).start (faulty 1)).2.naming.bindings := by
  have h : (Runtime.ofRequest (faulty 2)).toOption.any fun runtime =>
      ((({} : World).start (faulty 1)).2.start (faulty 2)).1.toOption.isNone ∧
      (∀ url ∈ (({} : World).start (faulty 1)).2.naming.bindings.keys,
        (({} : World).start (faulty 1)).2.naming.bindings[url]? ≠ some runtime.handle) ∧
      Entry.Idle runtime.strict runtime.handle (runtime.entries (faulty 2).config).dropLast
        (({} : World).start (faulty 1)).2.naming := by decide +kernel
  obtain ⟨runtime, ho, h⟩ := (Option.any_eq_true _ _).1 h
  obtain ⟨hfailed, hfresh, hbound⟩ := of_decide_eq_true h
  rcases hs : (({} : World).start (faulty 1)).2.start (faulty 2) with ⟨e | started, world'⟩
  · refine ⟨e, world', rfl, ?_⟩
    rcases start_failed hs with
      ⟨-, rfl⟩ | ⟨found, done, failed, rest, hf, hentries, -, -, -, hsame⟩
    · rfl
    rw [toOption_eq_some_iff, hf] at ho
    obtain rfl : found = runtime := Except.ok.inj ho
    refine (hsame fun url hb => hfresh url ?_ hb).2 ?_
    · exact Std.ExtTreeMap.mem_keys.2 (mem_iff_exists_getElem?.2 ⟨_, hb⟩)
    · rw [hentries, List.dropLast_append_of_ne_nil (by simp)] at hbound
      exact hbound.of_append
  · rw [hs] at hfailed
    cases hfailed

/-- The second node cannot be created, and the runtime stays bound with the first, though the start
failed. -/
theorem bound_after_failed_start :
    ∃ runtime e world' node, Runtime.ofRequest (faulty 1) = .ok runtime ∧
      ({} : World).start (faulty 1) = (.error e, world') ∧ runtime.nodeUrl "n" = .ok node ∧
      world'.naming.resolve runtime.url = .ok runtime.handle ∧
      world'.naming.resolve node = .ok runtime.handle := by
  have h : (Runtime.ofRequest (faulty 1)).toOption.any fun runtime =>
      (runtime.nodeUrl "n").toOption.any fun node =>
        (({} : World).start (faulty 1)).1.toOption.isNone ∧
        (({} : World).start (faulty 1)).2.naming.bindings[runtime.url]? = some runtime.handle ∧
        (({} : World).start (faulty 1)).2.naming.bindings[node]? = some runtime.handle := by
    decide +kernel
  obtain ⟨runtime, ho, h⟩ := (Option.any_eq_true _ _).1 h
  obtain ⟨node, hn, h⟩ := (Option.any_eq_true _ _).1 h
  obtain ⟨hfailed, hown, hnode⟩ := of_decide_eq_true h
  rcases hs : ({} : World).start (faulty 1) with ⟨e | started, world'⟩
  · rw [hs] at hown hnode
    exact ⟨runtime, e, world', node, toOption_eq_some_iff.1 ho, rfl, toOption_eq_some_iff.1 hn,
      Naming.resolve_eq_ok_iff.2 hown, Naming.resolve_eq_ok_iff.2 hnode⟩
  · rw [hs] at hfailed
    cases hfailed

end World

end ActiveObjects

import ActiveObjects.Proofs.Naming.Startup
import ActiveObjects.Proofs.Url.Domain

/-!
# Names in settings

A configuration is checked before a runtime is started with it, but the check looks for texts that
are empty and for a slash only. Whether the texts can be parts of a URL turns out when the URLs are
made, some of them after others are bound already.
-/

namespace ActiveObjects

namespace Url

/-- The grammar of URLs takes a name: as it is, or read as a whole URL if it has a slash. -/
def TakesName (name : String) : Prop :=
  if name.toList.contains '/' then ∃ url, parse name = .ok url else nameFault? name = none

theorem exists_new_iff {tag host name : String} {port : UInt16} :
    (∃ url, new tag host port name = .ok url) ↔
      partsFault? (lowerCase tag) (lowerCase host) name = none := by
  constructor
  · rintro ⟨url, h⟩
    obtain ⟨ht, hh, -, hn⟩ := new_eq_ok_iff.1 h
    rw [ht, hh, hn]
    exact url.noFault
  · exact fun h => ⟨⟨_, _, port, name, lowerCase_lowerCase tag, lowerCase_lowerCase host, h⟩,
      new_eq_ok_iff.2 ⟨rfl, rfl, rfl, rfl⟩⟩

theorem exists_withName_iff {url : Url} {name : String} :
    (∃ other, url.withName name = .ok other) ↔ nameFault? name = none := by
  obtain ⟨tag, host, -⟩ := partsFault?_eq_none_iff.1 url.noFault
  rw [withName, exists_new_iff, url.lowerCase_tag, url.lowerCase_host, partsFault?_eq_none_iff]
  simp [tag, host]

end Url

/-- Which names a runtime takes does not depend on the runtime. -/
theorem Runtime.exists_nodeUrl_iff {runtime : Runtime} {name : String} :
    (∃ url, runtime.nodeUrl name = .ok url) ↔ Url.TakesName name := by
  simp only [nodeUrl, mapError_eq_ok_iff, Url.TakesName]
  split
  · rfl
  · exact Url.exists_withName_iff

theorem Runtime.nodeUrl_eq_error {runtime : Runtime} {name : String} {e : RuntimeError}
    (h : runtime.nodeUrl name = .error e) : ∃ url reason, e = .invalidUrl url reason := by
  rw [nodeUrl] at h
  generalize (if name.toList.contains '/' then _ else _) = found at h
  cases found with
  | error invalid =>
    cases h
    exact ⟨_, _, rfl⟩
  | ok url => cases h

namespace RuntimeConfig

/-- The names of the groups and nodes that a start makes. -/
def names (config : RuntimeConfig) : List String :=
  config.virtualNodes ++ config.nodes.map (·.name)

/-- All texts of the configuration that go into URLs can do so. -/
structure Nameable (config : RuntimeConfig) : Prop where
  tag : Url.tagFault? (lowerCase config.runtime.transportTag) = none
  host : Url.hostFault? (lowerCase config.runtime.host) = none
  name : Url.nameFault? config.runtime.name = none
  parent (text : String) : config.runtime.parent = some text → ∃ url, Url.parse text = .ok url
  names (name : String) : name ∈ config.names → Url.TakesName name

theorem exists_url_iff {settings : RuntimeSettings} :
    (∃ url, (RuntimeIdentity.ofSettings settings).url = .ok url) ↔
      Url.tagFault? (lowerCase settings.transportTag) = none ∧
        Url.hostFault? (lowerCase settings.host) = none ∧ Url.nameFault? settings.name = none :=
  Url.exists_new_iff.trans Url.partsFault?_eq_none_iff

/-! ### What is checked -/

theorem not_allBlank {s : String} {c : Char} (hc : c ∈ s.toList) (hb : ¬ Text.isBlank c) :
    ¬ Text.allBlank s :=
  fun h => hb (List.all_eq_true.1 h c hc)

theorem not_allBlank_of_nameFault? {name : String} (h : Url.nameFault? name = none) :
    ¬ Text.allBlank name := by
  obtain ⟨hne, -, hall⟩ := Url.nameFault?_eq_none_iff.1 h
  obtain ⟨c, hc⟩ := List.exists_mem_of_ne_nil _ hne
  exact not_allBlank hc fun hb => hall c hc (by simp [Url.isNameExcluded, hb])

/-- A small letter, digit or mark of ASCII comes of a character that is no blank. -/
theorem not_isBlank_of_toLower {P : Char → Prop} [DecidablePred P]
    (hp : ∀ n < 0x80, P (Char.ofNat n).toLower → ¬ Text.isBlank (Char.ofNat n))
    (hlt : ∀ c, P c → c.toNat < 0x80) {c : Char} (h : P c.toLower) : ¬ Text.isBlank c :=
  forall_ascii (P := fun c => P c.toLower → ¬ Text.isBlank c) hp
    (toNat_toLower_lt_iff.1 (hlt _ h)) h

theorem not_allBlank_of_tagFault? {tag : String} (h : Url.tagFault? (lowerCase tag) = none) :
    ¬ Text.allBlank tag := by
  obtain ⟨c, rest, htag, hc, -⟩ := Url.tagFault?_eq_none_iff.1 h
  rw [toList_lowerCase] at htag
  obtain ⟨first, more, hfirst, rfl, -⟩ := List.map_eq_cons_iff.1 htag
  refine not_allBlank (c := first) (by simp [hfirst]) ?_
  refine not_isBlank_of_toLower (P := fun c => c.isAlpha) (by decide +kernel) ?_ hc
  exact fun c hc => toNat_lt_of_isAlphanum (by simp [Char.isAlphanum, hc])

theorem not_allBlank_of_hostFault? {host : String} (h : Url.hostFault? (lowerCase host) = none) :
    ¬ Text.allBlank host := by
  rcases Url.hostFault?_eq_none_iff.1 h with ⟨literal, hb, -⟩ | ⟨-, hne, hall⟩
  · have hhost := Url.bracketed?_eq_some_iff.1 hb
    rw [toList_lowerCase] at hhost
    obtain ⟨first, more, hfirst, hopen, -⟩ := List.map_eq_cons_iff.1 hhost
    obtain rfl := toLower_eq_bracket_iff.1 hopen
    exact not_allBlank (c := '[') (by simp [hfirst]) (by decide)
  · rw [toList_lowerCase] at hne hall
    obtain ⟨c, hc⟩ := List.exists_mem_of_ne_nil _ (mt List.map_eq_nil_iff.2 hne)
    refine not_allBlank hc ?_
    exact not_isBlank_of_toLower (P := fun c => Url.isHostChar c) (by decide +kernel)
      (fun c => Url.toNat_lt_of_isHostChar) (hall _ (List.mem_map_of_mem hc))

theorem not_allBlank_of_takesName {name : String} (h : Url.TakesName name) :
    ¬ Text.allBlank name := by
  unfold Url.TakesName at h
  split at h
  · rename_i hslash
    exact not_allBlank (List.contains_iff_mem.1 hslash) (by decide)
  · exact not_allBlank_of_nameFault? h

/-- What can be part of a URL is not empty, and a name holds no slash. So there are two numbers left
to check. -/
theorem Nameable.fault?_eq_none_iff {config : RuntimeConfig} (h : config.Nameable) :
    config.fault? = none ↔ config.runtime.port ≠ 0 ∧ config.events.channelCapacity ≠ 0 := by
  have slash : '/' ∉ config.runtime.name.toList := fun hs =>
    (Url.nameFault?_eq_none_iff.1 h.name).2.2 '/' hs (by decide)
  have nodes : ¬ (config.nodes.any fun node => Text.allBlank node.name) = true := by
    rw [List.any_eq_true]
    rintro ⟨settings, hs, hb⟩
    have hn : settings.name ∈ config.names := List.mem_append_right _ (List.mem_map_of_mem hs)
    exact not_allBlank_of_takesName (h.names settings.name hn) hb
  rw [fault?, if_neg (not_allBlank_of_nameFault? h.name), if_neg (by simpa using slash),
    if_neg (not_allBlank_of_hostFault? h.host), if_neg (not_allBlank_of_tagFault? h.tag),
    if_neg nodes]
  by_cases hp : config.runtime.port = 0
  · simp [hp]
  · by_cases hc : config.events.channelCapacity = 0 <;> simp [hp, hc]

end RuntimeConfig

/-! ## Describing a runtime -/

/-- A valid configuration describes a runtime, unless its own URL or that of its parent is none. -/
theorem Runtime.ofRequest_cases {request : StartRequest} (hv : request.config.fault? = none) :
    (∃ runtime, ofRequest request = .ok runtime ∧
      (∃ url, (RuntimeIdentity.ofSettings request.config.runtime).url = .ok url) ∧
      ∀ text, request.config.runtime.parent = some text → ∃ url, Url.parse text = .ok url) ∨
    ∃ e, ofRequest request = .error (.ofInvalid e) ∧
      ((RuntimeIdentity.ofSettings request.config.runtime).url = .error e ∨
        ∃ text, request.config.runtime.parent = some text ∧ Url.parse text = .error e) := by
  unfold ofRequest
  dsimp only
  rw [hv]
  cases hu : (RuntimeIdentity.ofSettings request.config.runtime).url with
  | error e => exact .inr ⟨e, rfl, .inl rfl⟩
  | ok url =>
    cases hp : request.config.runtime.parent with
    | none => exact .inl ⟨_, rfl, ⟨url, rfl⟩, fun _ h => nomatch h⟩
    | some text =>
      dsimp only
      cases ht : Url.parse text with
      | error e => exact .inr ⟨e, rfl, .inr ⟨text, rfl, ht⟩⟩
      | ok parent =>
        refine .inl ⟨_, rfl, ⟨url, rfl⟩, fun other h => ?_⟩
        cases h
        exact ⟨parent, ht⟩

/-! ## Entries that fail -/

/-- The naming facility has its own failures. -/
theorem Naming.ne_invalidUrl_of_enterResult {naming : Naming} {strict replaceIfBound : Bool}
    {url : Url} {e : RuntimeError} (h : naming.enterResult strict url replaceIfBound = .error e)
    (address reason : String) : e ≠ .invalidUrl address reason := by
  rintro rfl
  rw [enterResult] at h
  cases ho : naming.obstacle? url replaceIfBound with
  | none =>
    rw [ho] at h
    cases h
  | some met =>
    rw [ho] at h
    dsimp only at h
    split at h
    · split at h
      · rename_i hc _
        cases h
        cases hc
      · cases h
    · have h := Except.error.inj h
      unfold Registry.wrapTransport at h
      split at h
      · rename_i ht
        rw [h] at ht
        cases ht
      · cases h

theorem Resolver.resolve_eq_error {resolver : Resolver} {host : String} {e : RuntimeError}
    (h : resolver.resolve host = .error e) : ∃ message, e = .hostResolution host message := by
  unfold resolve at h
  split at h
  · split at h <;> cases h
    exact ⟨_, rfl⟩
  · split at h
    · cases h
    · split at h <;> cases h
      exact ⟨_, rfl⟩

theorem Runtime.resolveHost_eq_error {runtime : Runtime} {url : Url} {e : RuntimeError}
    (h : runtime.resolveHost url = .error e) :
    ∃ message, e = .hostResolution url.display message := by
  unfold resolveHost at h
  cases hr : runtime.resolver.resolve url.host with
  | ok found =>
    rw [hr] at h
    cases h
  | error met =>
    obtain ⟨message, rfl⟩ := Resolver.resolve_eq_error hr
    rw [hr] at h
    cases h
    exact ⟨message, rfl⟩

/-- A name stands for no URL before the host of a URL is looked up. -/
theorem Runtime.entryUrl_eq_invalidUrl_iff {runtime : Runtime} {name url reason : String} :
    runtime.entryUrl name = .error (.invalidUrl url reason) ↔
      runtime.nodeUrl name = .error (.invalidUrl url reason) := by
  unfold entryUrl
  cases hn : runtime.nodeUrl name with
  | error e => rfl
  | ok address =>
    refine iff_of_false (fun h => ?_) (fun h => nomatch h)
    cases hr : runtime.resolveHost address with
    | ok found =>
      simp [bind, Except.bind, hr, pure, Except.pure] at h
    | error e =>
      obtain ⟨message, rfl⟩ := resolveHost_eq_error hr
      simp [bind, Except.bind, hr] at h

namespace Entry

variable {handle : RuntimeHandle} {naming : Naming} {strict : Bool} {entries : List Entry}
  {e : RuntimeError}

/-- The failure is that of one entry, after those before it have been made. -/
theorem fill_eq_error_iff :
    (fill strict handle entries naming).1 = .error e ↔
      ∃ done failed rest middle, entries = done ++ failed :: rest ∧
        fill strict handle done naming = (.ok (), middle) ∧
        failed.result strict middle = .error e := by
  constructor
  · intro h
    induction entries generalizing naming with
    | nil => cases h
    | cons entry entries ih =>
      rw [fill] at h
      cases hr : entry.result strict naming with
      | error met =>
        rw [hr] at h
        cases h
        exact ⟨[], entry, entries, naming, rfl, rfl, hr⟩
      | ok outcome =>
        rw [hr] at h
        obtain ⟨done, failed, rest, middle, rfl, hd, hf⟩ := ih h
        refine ⟨entry :: done, failed, rest, middle, rfl, ?_, hf⟩
        rw [fill, hr]
        exact hd
  · rintro ⟨done, failed, rest, middle, rfl, hd, hf⟩
    rw [fill_append, hd]
    dsimp only
    rw [fill, hf]

/-- An entry fails with an invalid URL only if it has no URL. -/
theorem result_eq_invalidUrl_iff {entry : Entry} {url reason : String} :
    entry.result strict naming = .error (.invalidUrl url reason) ↔
      entry.url = .error (.invalidUrl url reason) := by
  rw [result]
  cases entry.url with
  | error e => simp [bind, Except.bind]
  | ok address =>
    refine iff_of_false (fun h => ?_) (by simp)
    exact Naming.ne_invalidUrl_of_enterResult h url reason rfl

theorem mem_of_mem_once {entry : Entry} {seen : List Url} (h : entry ∈ once seen entries) :
    entry ∈ entries := by
  induction entries generalizing seen with
  | nil => exact h
  | cons first entries ih =>
    rw [once] at h
    split at h
    · exact (List.mem_cons.1 h).elim (· ▸ List.mem_cons_self ..) fun h => .tail _ (ih h)
    split at h
    · exact .tail _ (ih h)
    · exact (List.mem_cons.1 h).elim (· ▸ List.mem_cons_self ..) fun h => .tail _ (ih h)

end Entry

/-- An entry without a URL is that of a name in the configuration. -/
theorem Runtime.exists_name_of_entry {runtime : Runtime} {config : RuntimeConfig} {entry : Entry}
    {url reason : String} (hm : entry ∈ runtime.entries config)
    (he : entry.url = .error (.invalidUrl url reason)) :
    ∃ name ∈ config.names, runtime.nodeUrl name = .error (.invalidUrl url reason) := by
  rw [entries, List.mem_cons, List.mem_append] at hm
  rcases hm with rfl | hm | hm
  · cases he
  · obtain ⟨name, hn, rfl⟩ := List.mem_map.1 hm
    exact ⟨name, List.mem_append_left _ hn, entryUrl_eq_invalidUrl_iff.1 he⟩
  · rw [List.map_map] at hm
    obtain ⟨settings, hs, rfl⟩ := List.mem_map.1 (Entry.mem_of_mem_once hm)
    exact ⟨settings.name, List.mem_append_right _ (List.mem_map_of_mem hs),
      entryUrl_eq_invalidUrl_iff.1 he⟩

/-! ## Starts -/

namespace World

variable {world : World} {request : StartRequest}

/-- A start comes upon a text that stands for no URL: in its identity, as its parent, or as a name
in its configuration, when all entries before that name have been made. -/
inductive Stumbles (world : World) (request : StartRequest) : Prop where
  | identity {e : Url.Invalid}
    (hu : (RuntimeIdentity.ofSettings request.config.runtime).url = .error e)
  | parent {text : String} {e : Url.Invalid} (hp : request.config.runtime.parent = some text)
    (hu : Url.parse text = .error e)
  | name {runtime : Runtime} {done rest : List Entry} {failed : Entry} {name : String}
    {e : RuntimeError} (ho : Runtime.ofRequest request = .ok runtime)
    (he : runtime.entries request.config = done ++ failed :: rest)
    (hd : (Entry.fill runtime.strict runtime.handle done world.naming).1 = .ok ())
    (hf : failed.url = .error e) (hn : name ∈ request.config.names)
    (hu : runtime.nodeUrl name = .error e)

/-- A start of a runtime that can be described fails as its entries do. -/
theorem start_eq_error_iff {runtime : Runtime} (ho : Runtime.ofRequest request = .ok runtime)
    {e : RuntimeError} :
    (world.start request).1 = .error e ↔
      (Entry.fill runtime.strict runtime.handle (runtime.entries request.config)
        world.naming).1 = .error e := by
  rw [← start_fill world ho, map_eq_error_iff]

theorem Stumbles.of_start {runtime : Runtime} (ho : Runtime.ofRequest request = .ok runtime)
    {url reason : String} (h : (world.start request).1 = .error (.invalidUrl url reason)) :
    world.Stumbles request := by
  obtain ⟨done, failed, rest, middle, he, hd, hf⟩ :=
    Entry.fill_eq_error_iff.1 ((start_eq_error_iff ho).1 h)
  have hurl := Entry.result_eq_invalidUrl_iff.1 hf
  have hm : failed ∈ runtime.entries request.config := by
    rw [he]
    simp
  obtain ⟨name, hn, hname⟩ := Runtime.exists_name_of_entry hm hurl
  exact .name ho he (by rw [hd]) hurl hn hname

theorem start_eq_invalidUrl_iff (hv : request.config.fault? = none) :
    (∃ url reason, (world.start request).1 = .error (.invalidUrl url reason)) ↔
      world.Stumbles request := by
  rcases Runtime.ofRequest_cases hv with ⟨runtime, ho, ⟨own, hown⟩, hparent⟩ | ⟨e, ho, hwhy⟩
  · refine ⟨fun ⟨_, _, h⟩ => .of_start ho h, fun h => ?_⟩
    cases h with
    | identity hu => exact nomatch hown.symm.trans hu
    | parent hp hu =>
      obtain ⟨found, hf⟩ := hparent _ hp
      exact nomatch hf.symm.trans hu
    | name ho' he hd hf hn hu =>
      obtain rfl := Except.ok.inj (ho.symm.trans ho')
      obtain ⟨url, reason, rfl⟩ := Runtime.nodeUrl_eq_error hu
      refine ⟨url, reason, (start_eq_error_iff ho).2 (Entry.fill_eq_error_iff.2 ?_)⟩
      exact ⟨_, _, _, _, he, Prod.ext hd rfl, Entry.result_eq_invalidUrl_iff.2 hf⟩
  · refine iff_of_true ⟨e.url, e.fault.reason, ?_⟩ ?_
    · rw [start, ho]
      rfl
    · rcases hwhy with hu | ⟨text, hp, hu⟩
      · exact .identity hu
      · exact .parent hp hu

theorem not_stumbles (h : request.config.Nameable) : ¬ world.Stumbles request := by
  rintro (hu | ⟨hp, hu⟩ | ⟨-, -, -, -, hn, hu⟩)
  · obtain ⟨url, ho⟩ := RuntimeConfig.exists_url_iff.2 ⟨h.tag, h.host, h.name⟩
    exact nomatch ho.symm.trans hu
  · obtain ⟨url, ho⟩ := h.parent _ hp
    exact nomatch ho.symm.trans hu
  · obtain ⟨url, ho⟩ := Runtime.exists_nodeUrl_iff.2 (h.names _ hn)
    exact nomatch ho.symm.trans hu

/-- With a configuration that passes the check, the identity gives a URL, the runtime takes all
names and the parent is read as a URL exactly if all these texts can be parts of URLs. A start fails
with an invalid URL exactly if it comes upon one that cannot, and not at all if there is none. -/
theorem start_validated (world : World) {request : StartRequest}
    (hv : request.config.fault? = none) :
    (((∃ url, (RuntimeIdentity.ofSettings request.config.runtime).url = .ok url) ∧
        (∀ runtime : Runtime, ∀ name ∈ request.config.names,
          ∃ url, runtime.nodeUrl name = .ok url) ∧
        ∀ text, request.config.runtime.parent = some text → ∃ url, Url.parse text = .ok url) ↔
      request.config.Nameable) ∧
    ((∃ url reason, (world.start request).1 = .error (.invalidUrl url reason)) ↔
      world.Stumbles request) ∧
    (request.config.Nameable → ¬ world.Stumbles request) := by
  refine ⟨⟨?_, fun h => ?_⟩, start_eq_invalidUrl_iff hv, not_stumbles⟩
  · rintro ⟨hown, hnames, hparent⟩
    obtain ⟨tag, host, name⟩ := RuntimeConfig.exists_url_iff.1 hown
    refine ⟨tag, host, name, hparent, fun name hn => ?_⟩
    rcases Runtime.ofRequest_cases hv with ⟨runtime, -⟩ | ⟨e, -, hu | ⟨text, hp, hu⟩⟩
    · exact Runtime.exists_nodeUrl_iff.1 (hnames runtime name hn)
    · obtain ⟨url, ho⟩ := hown
      exact nomatch ho.symm.trans hu
    · obtain ⟨url, ho⟩ := hparent text hp
      exact nomatch ho.symm.trans hu
  · refine ⟨RuntimeConfig.exists_url_iff.2 ⟨h.tag, h.host, h.name⟩, fun runtime name hn => ?_,
      h.parent⟩
    exact Runtime.exists_nodeUrl_iff.2 (h.names name hn)

/-- The second node of the configuration has no name that a URL could hold. -/
theorem start_validated_faulty :
    (faulty 1).config.fault? = none ∧ ({} : World).Stumbles (faulty 1) ∧
      ¬ (faulty 1).config.Nameable := by
  have hv : (faulty 1).config.fault? = none := by decide +kernel
  have h : ((({} : World).start (faulty 1)).1.map fun _ => ()) =
      .error (.invalidUrl "pa://localhost:1099/x y" "name contains reserved characters") := by
    decide +kernel
  obtain ⟨-, hiff, hnot⟩ := start_validated {} hv
  have stumbles : ({} : World).Stumbles (faulty 1) := hiff.1 ⟨_, _, map_eq_error_iff.1 h⟩
  exact ⟨hv, stumbles, fun hn => hnot hn stumbles⟩

/-- A runtime whose name has a blank. -/
def spaced : StartRequest :=
  { id := 1, config := .named "R 1", resolver := .literals }

/-- The configuration passes the check, but the name cannot be part of a URL. -/
theorem invalidUrl_of_spaced :
    spaced.config.fault? = none ∧
      (RuntimeIdentity.ofSettings spaced.config.runtime).url.toOption = none ∧
      ({} : World).start spaced =
        (.error (.invalidUrl "pa://localhost:1099/R 1" "name contains reserved characters"), {}) := by
  refine ⟨by decide +kernel, by decide +kernel, ?_⟩
  have h : ((Runtime.ofRequest spaced).map fun _ => ()) =
      .error (.invalidUrl "pa://localhost:1099/R 1" "name contains reserved characters") := by
    decide +kernel
  rw [start, map_eq_error_iff.1 h]

end World

end ActiveObjects

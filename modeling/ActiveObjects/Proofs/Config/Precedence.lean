import ActiveObjects.Config.Load
import ActiveObjects.Proofs.Config.Agreement
import ActiveObjects.Proofs.Config.Variables
import ActiveObjects.Proofs.Except

/-!
# Which layer a setting comes from

When a configuration is loaded, variables come before the file of the environment, which comes
before the base file, one setting at a time. What is left out everywhere has its default. The order
in which a source gives its keys is left open.
-/

namespace ActiveObjects

open Text

namespace RuntimeConfig

open Setting

/-! ## Layers of a configuration -/

/-- What a configuration is loaded from. -/
structure Sources where
  base : Layer
  /-- The layer of the environment's file, if there is that file. -/
  overlay : Option Layer
  /-- What variables set. -/
  overrides : Layer

/-- The base file is needed, and that of the environment if it exists. -/
def sources? (files : FileTree) (vars : Variables) (base environment : Option String) :
    Option Sources := do
  let lowest ← fileLayer? files (base.getD defaultPath)
  match (environment.map environmentPath).filter fun path => (files.find? path).isSome with
  | none => return ⟨lowest, none, vars.layer⟩
  | some path => return ⟨lowest, some (← fileLayer? files path), vars.layer⟩

namespace Sources

/-- All layers, from the lowest one on. -/
def layers (sources : Sources) : List Layer :=
  sources.base :: sources.overlay.toList ++ [sources.overrides]

/-- The same layers, each with its keys in another order. -/
structure Reorders (laid given : Sources) : Prop where
  base : laid.base.Reorders given.base
  overlay : Option.Rel Layer.Reorders laid.overlay given.overlay
  overrides : laid.overrides.Reorders given.overrides

theorem Reorders.refl (sources : Sources) : sources.Reorders sources where
  base := .refl sources.base
  overlay := by
    cases sources.overlay with
    | none => exact .none
    | some layer => exact .some (.refl layer)
  overrides := .refl sources.overrides

theorem Reorders.rulesAs {laid given : Sources} (h : laid.Reorders given) :
    List.Forall₂ Layer.RulesAs laid.layers given.layers := by
  obtain ⟨lowest, between, highest⟩ := laid
  obtain ⟨lowest', between', highest'⟩ := given
  obtain ⟨base, overlay, overrides⟩ := h
  have last : List.Forall₂ Layer.RulesAs [highest] [highest'] := .cons overrides.rulesAs .nil
  cases overlay with
  | none => exact .cons base.rulesAs last
  | some between => exact .cons base.rulesAs (.cons between.rulesAs last)

/-- All that is ruled on a setting. -/
def rulings (sources : Sources) (path : List String) : List Ruling :=
  sources.layers.flatMap (Layer.rulings · path)

/-- What decides on a setting: a ruling of the variables, or else of the file of the environment, or
else of the base file. -/
def ruling? (sources : Sources) (path : List String) : Option Ruling :=
  (sources.overrides.ruling? path).or
    ((sources.overlay.bind (·.ruling? path)).or (sources.base.ruling? path))

/-- What comes of a setting, but for the fields that it has as a table. -/
def outline? (sources : Sources) (path : List String) : Option Setting :=
  (sources.rulings path).foldl Ruling.act none

theorem decisive?_rulings (sources : Sources) (path : List String) :
    decisive? (sources.rulings path) = sources.ruling? path := by
  have order : sources.layers.reverse =
      [sources.overrides] ++ (sources.overlay.toList ++ [sources.base]) := by
    unfold layers
    cases sources.overlay <;> rfl
  have one (layer : Layer) : [layer].findSome? (Layer.ruling? · path) = layer.ruling? path := by
    rw [List.findSome?_cons]
    cases layer.ruling? path <;> rfl
  have maybe (layer : Option Layer) :
      layer.toList.findSome? (Layer.ruling? · path) = layer.bind (·.ruling? path) := by
    cases layer with
    | none => rfl
    | some layer => exact one layer
  calc
    decisive? (sources.rulings path) =
        sources.layers.reverse.findSome? (Layer.ruling? · path) := decisive?_flatMap _ _
    _ = sources.ruling? path := by
      rw [order, List.findSome?_append, List.findSome?_append, one, one, maybe, ruling?]

theorem map_outline_find? (sources : Sources) (name : String) (path : List String) :
    ((ofLayers sources.layers).find? (name :: path)).map outline =
      sources.outline? (name :: path) :=
  ofLayers_follows sources.layers name path

end Sources

/-- A configuration that can be loaded: in each source the keys come in some order. -/
def Loads (files : FileTree) (vars : Variables) (generated : String)
    (base environment : Option String) (config : RuntimeConfig) : Prop :=
  ∃ sources laid : Sources, sources? files vars base environment = some sources ∧
    laid.Reorders sources ∧ build vars generated laid.layers = .ok config

theorem layers?_eq (files : FileTree) (vars : Variables) (base environment : Option String) :
    layers? files vars base environment =
      (sources? files vars base environment).map Sources.layers := by
  unfold layers? sources? paths
  cases hl : fileLayer? files (base.getD defaultPath) with
  | none => simp [hl]
  | some lowest =>
    cases (environment.map environmentPath).filter fun path => (files.find? path).isSome with
    | none => simp [hl, Sources.layers]
    | some path =>
      cases ho : fileLayer? files path with
      | none => simp [hl, ho]
      | some overlay => simp [hl, ho, Sources.layers]

/-! ## Settings as they are ruled -/

section

variable {α : Type} {sources : Sources} {read : Setting → Option α} {path : List String}
  {default a : α}

/-- What is read of the last thing that a setting is given, as it is after the edits that follow.
A setting has its default if it is given nothing, or is hidden. -/
def Sources.Makes (sources : Sources) (path : List String) (read : Setting → Option α)
    (default a : α) : Prop :=
  match sources.ruling? path with
  | none | some .hides => a = default
  | some (.gives v) => read v = some a
  | some (.edits ..) => (sources.outline? path).bind read = some a
  | some _ => False

/-- A scalar is not edited. -/
def Sources.Settles (sources : Sources) (path : List String) (read : Setting → Option α)
    (default a : α) : Prop :=
  match sources.ruling? path with
  | none | some .hides => a = default
  | some (.gives v) => read v = some a
  | some _ => False

/-- A setting of a section with some settings. If the section has become a list, the settings are
its items, in order. -/
def Sources.Gives (sources : Sources) (part : String) (known : List String) (name : String)
    (read : Setting → Option α) (default a : α) : Prop :=
  match sources.outline? [part] with
  | some (.array items) => ((known.zip items).lookup name).elim (some default) read = some a
  | _ => sources.Settles [part, name] read default a

/-- What is read is no table, so it is there with all that it has. -/
theorem outline?_eq_of_read {found : Option Setting}
    (h : found.map outline = sources.outline? path) (ht : ∀ fields, read (.table fields) = none)
    (hr : found.elim (some default) read = some a) : sources.outline? path = found := by
  cases found with
  | none => exact h.symm
  | some v =>
    have plain : ∀ fields, v ≠ .table fields := by
      rintro fields rfl
      rw [Option.elim_some, ht] at hr
      cases hr
    rw [← h, Option.map_some, outline_of_not_table plain]

theorem makes_of_found {found : Option Setting} (h : found.map outline = sources.outline? path)
    (ht : ∀ fields, read (.table fields) = none)
    (hr : found.elim (some default) read = some a) : sources.Makes path read default a := by
  have whole := outline?_eq_of_read h ht hr
  have last := followed_of_decisive? (sources.rulings path)
  rw [Sources.decisive?_rulings, ← Sources.outline?, whole] at last
  have table (hf : found = some (.table [])) : False := by
    rw [hf, Option.elim_some, ht] at hr
    cases hr
  have nothing (hf : found = none ∨ found = some (.table [])) : a = default := by
    rcases hf with rfl | empty
    · exact (Option.some.inj hr).symm
    · exact (table empty).elim
  rw [Sources.Makes]
  cases hs : sources.ruling? path with
  | none => exact nothing (by simpa [hs] using last)
  | some ruling =>
    rw [hs] at last
    cases ruling with
    | gives v =>
      obtain rfl : found = some v := last
      exact hr
    | hides => exact nothing last
    | edits v index steps =>
      obtain ⟨items, array⟩ := last
      rw [array] at hr
      simpa [whole, array] using hr
    | opens => exact table last
    | visits => exact table last

theorem settles_of_makes (h : sources.Makes path read default a)
    (ha : ∀ items, read (.array items) = none) : sources.Settles path read default a := by
  have last := followed_of_decisive? (sources.rulings path)
  rw [Sources.decisive?_rulings, ← Sources.outline?] at last
  rw [Sources.Makes] at h
  rw [Sources.Settles]
  cases hs : sources.ruling? path with
  | none =>
    rw [hs] at h
    exact h
  | some ruling =>
    rw [hs] at h last
    cases ruling with
    | edits v index steps =>
      obtain ⟨items, array⟩ := last
      have read : (sources.outline? path).bind read = some a := h
      rw [array, Option.bind_some, ha] at read
      cases read
    | _ => exact h

/-- How a setting comes out of a section that may be left out. -/
def ReadIn (found : Option Setting) (known : List String) (name : String)
    (read : Setting → Option α) (default a : α) : Prop :=
  match found with
  | none => a = default
  | some v => ∃ r, v.record? known = some r ∧ r.defaulted name default read = some a

theorem defaulted_eq_elim (find : String → Option Setting) (positional : Bool)
    (name : String) :
    Record.defaulted ⟨find, positional, isNull⟩ name default read =
      (find name).elim (some default) read := by
  rw [Record.defaulted]
  dsimp only
  cases find name <;> rfl

theorem defaulted_find? (v : Setting) (name : String) :
    Record.defaulted ⟨(v.fields.lookup ·), false, isNull⟩ name default read =
      (v.find? [name]).elim (some default) read := by
  rw [defaulted_eq_elim, find?_cons]
  cases v.fields.lookup name <;> simp

theorem gives_of_readIn {part name : String} {known : List String}
    (ht : ∀ fields, read (.table fields) = none) (ha : ∀ items, read (.array items) = none)
    (h : ReadIn ((ofLayers sources.layers).find? [part]) known name read default a) :
    sources.Gives part known name read default a := by
  have field := sources.map_outline_find? part [name]
  have whole := sources.map_outline_find? part []
  have found : (ofLayers sources.layers).find? [part, name] =
      ((ofLayers sources.layers).find? [part]).bind (find? [name]) := by
    simp [find?_cons]
  rw [found] at field
  rw [Sources.Gives, ← whole]
  cases hf : (ofLayers sources.layers).find? [part] with
  | none =>
    rw [hf] at h field
    obtain rfl : a = default := h
    exact settles_of_makes (makes_of_found field ht rfl) ha
  | some v =>
    rw [hf] at h field
    obtain ⟨r, hr, hd⟩ := h
    cases v with
    | table fields =>
      cases hr
      have there := (defaulted_find? (.table fields) name).symm.trans hd
      exact settles_of_makes (makes_of_found field ht there) ha
    | array items =>
      cases hr
      rw [defaulted_eq_elim] at hd
      exact hd
    | _ => cases hr

end

/-! ## Configurations -/

/-- A text that may be null. -/
def nullableText (v : Setting) : Option (Option String) :=
  if v.isNull then some none else v.text?.map some

/-- The settings of the section `runtime`, in order. -/
def runtimeNames : List String := ["name", "host", "port", "transport_tag", "parent"]

/-- The settings of the section `security`, in order. -/
def securityNames : List String := ["certificate_path", "policy_server"]

/-- All settings are as they are ruled. -/
structure Layered (sources : Sources) (generated : String) (settings : RuntimeConfig) : Prop where
  name : sources.Gives "runtime" runtimeNames "name" text? generated settings.runtime.name
  host : sources.Gives "runtime" runtimeNames "host" text? "localhost" settings.runtime.host
  port : sources.Gives "runtime" runtimeNames "port"
    (fun v => (v.natural? 65535).map UInt16.ofNat) 1099 settings.runtime.port
  transportTag : sources.Gives "runtime" runtimeNames "transport_tag" text? "pa"
    settings.runtime.transportTag
  parent : sources.Gives "runtime" runtimeNames "parent" nullableText none settings.runtime.parent
  strictRegistration : sources.Gives "naming" ["strict_registration"] "strict_registration" flag?
    false settings.naming.strictRegistration
  channelCapacity : sources.Gives "events" ["channel_capacity"] "channel_capacity"
    (fun v => (v.natural? maxWord).map UInt64.ofNat) 1024 settings.events.channelCapacity
  certificatePath : sources.Gives "security" securityNames "certificate_path" nullableText none
    settings.security.certificatePath
  policyServer : sources.Gives "security" securityNames "policy_server" nullableText none
    settings.security.policyServer
  nodes : sources.Makes ["nodes"] (readItems? NodeSettings.read?) [] settings.nodes
  virtualNodes : sources.Makes ["virtual_nodes"] (readItems? text?) [] settings.virtualNodes

section

variable {sources : Sources} {generated : String} {found : Option Setting}

/-- A field that may be null is read like any other. -/
theorem nullable_eq (r : Record Setting) (h : ∀ v, r.isNull v = v.isNull) (key : String) :
    r.nullable key SettingValue.text? = r.defaulted key none nullableText := by
  unfold Record.nullable
  congr 1
  funext v
  rw [h]
  rfl

theorem isNull_of_record? {known : List String} {v : Setting} {r : Record Setting}
    (h : v.record? known = some r) (w : Setting) : r.isNull w = w.isNull := by
  cases v with
  | table fields =>
    cases h
    rfl
  | array items =>
    cases h
    rfl
  | _ => cases h

theorem readIn_runtime {settings : RuntimeSettings}
    (h : found.elim (some (named generated).runtime) (RuntimeSettings.read? generated) =
      some settings) :
    ReadIn found runtimeNames "name" text? generated settings.name ∧
      ReadIn found runtimeNames "host" text? "localhost" settings.host ∧
      ReadIn found runtimeNames "port" (fun v => (v.natural? 65535).map UInt16.ofNat) 1099
        settings.port ∧
      ReadIn found runtimeNames "transport_tag" text? "pa" settings.transportTag ∧
      ReadIn found runtimeNames "parent" nullableText none settings.parent := by
  cases found with
  | none =>
    cases h
    exact ⟨rfl, rfl, rfl, rfl, rfl⟩
  | some v =>
    rw [Option.elim_some] at h
    simp only [RuntimeSettings.read?, Option.bind_eq_bind, Option.bind_eq_some_iff] at h
    obtain ⟨r, hr, name, h1, host, h2, port, h3, tag, h4, parent, h5, made⟩ := h
    cases made
    rw [nullable_eq r (isNull_of_record? hr)] at h5
    exact ⟨⟨r, hr, h1⟩, ⟨r, hr, h2⟩, ⟨r, hr, h3⟩, ⟨r, hr, h4⟩, ⟨r, hr, h5⟩⟩

theorem readIn_naming {settings : NamingSettings}
    (h : found.elim (some {}) NamingSettings.read? = some settings) :
    ReadIn found ["strict_registration"] "strict_registration" flag? false
      settings.strictRegistration := by
  cases found with
  | none =>
    cases h
    rfl
  | some v =>
    rw [Option.elim_some] at h
    simp only [NamingSettings.read?, Option.bind_eq_bind, Option.bind_eq_some_iff] at h
    obtain ⟨r, hr, strict, h1, made⟩ := h
    cases made
    exact ⟨r, hr, h1⟩

theorem readIn_events {settings : EventSettings}
    (h : found.elim (some {}) EventSettings.read? = some settings) :
    ReadIn found ["channel_capacity"] "channel_capacity"
      (fun v => (v.natural? maxWord).map UInt64.ofNat) 1024 settings.channelCapacity := by
  cases found with
  | none =>
    cases h
    rfl
  | some v =>
    rw [Option.elim_some] at h
    simp only [EventSettings.read?, Option.bind_eq_bind, Option.bind_eq_some_iff] at h
    obtain ⟨r, hr, capacity, h1, made⟩ := h
    cases made
    exact ⟨r, hr, h1⟩

theorem readIn_security {settings : SecuritySettings}
    (h : found.elim (some {}) SecuritySettings.read? = some settings) :
    ReadIn found securityNames "certificate_path" nullableText none settings.certificatePath ∧
      ReadIn found securityNames "policy_server" nullableText none settings.policyServer := by
  cases found with
  | none =>
    cases h
    exact ⟨rfl, rfl⟩
  | some v =>
    rw [Option.elim_some] at h
    simp only [SecuritySettings.read?, Option.bind_eq_bind, Option.bind_eq_some_iff] at h
    obtain ⟨r, hr, path, h1, server, h2, made⟩ := h
    cases made
    have null := isNull_of_record? hr
    rw [nullable_eq r null] at h1 h2
    exact ⟨⟨r, hr, h1⟩, ⟨r, hr, h2⟩⟩

/-- Reading the settings that layers make follows the rulings of the layers. -/
theorem Sources.layered {settings : RuntimeConfig}
    (h : read? generated (ofLayers sources.layers) = some settings) :
    Layered sources generated settings := by
  obtain ⟨fields, made⟩ := exists_ofLayers_eq_table sources.layers
  have record (known : List String) : SettingValue.record? known (ofLayers sources.layers) =
      some ⟨((ofLayers sources.layers).fields.lookup ·), false, isNull⟩ := by
    rw [made]
    rfl
  simp only [read?, record, Option.bind_eq_bind, Option.bind_some, Option.bind_eq_some_iff,
    defaulted_find?] at h
  obtain ⟨runtime, hr, naming, hn, events, he, security, hs, nodes, hl, groups, hg, eq⟩ := h
  cases eq
  obtain ⟨name, host, port, tag, parent⟩ := readIn_runtime hr
  obtain ⟨path, server⟩ := readIn_security hs
  exact
    { name := gives_of_readIn (fun _ => rfl) (fun _ => rfl) name
      host := gives_of_readIn (fun _ => rfl) (fun _ => rfl) host
      port := gives_of_readIn (fun _ => rfl) (fun _ => rfl) port
      transportTag := gives_of_readIn (fun _ => rfl) (fun _ => rfl) tag
      parent := gives_of_readIn (fun _ => rfl) (fun _ => rfl) parent
      strictRegistration := gives_of_readIn (fun _ => rfl) (fun _ => rfl) (readIn_naming hn)
      channelCapacity := gives_of_readIn (fun _ => rfl) (fun _ => rfl) (readIn_events he)
      certificatePath := gives_of_readIn (fun _ => rfl) (fun _ => rfl) path
      policyServer := gives_of_readIn (fun _ => rfl) (fun _ => rfl) server
      nodes := makes_of_found (sources.map_outline_find? "nodes" []) (fun _ => rfl) hl
      virtualNodes :=
        makes_of_found (sources.map_outline_find? "virtual_nodes" []) (fun _ => rfl) hg }

end

/-! ## Loading -/

/-- In three settings the references to variables are replaced, once, and the others are as they
were. -/
structure Expands (vars : Variables) (settings config : RuntimeConfig) : Prop where
  host : vars.expand? settings.runtime.host = some config.runtime.host
  parent : settings.runtime.parent.mapM vars.expand? = some config.runtime.parent
  certificatePath : settings.security.certificatePath.mapM vars.expand? =
    some config.security.certificatePath
  others : config = { settings with
    runtime := { settings.runtime with
      host := config.runtime.host, parent := config.runtime.parent }
    security := { settings.security with
      certificatePath := config.security.certificatePath } }

variable {files : FileTree} {vars : Variables} {generated : String}
  {base environment : Option String} {settings config : RuntimeConfig}

theorem unless_eq_ok_iff {α : Type} {e : LoadError} {found : Option α} {a : α} :
    e.unless found = .ok a ↔ found = some a := by
  cases found <;> simp [LoadError.unless]

theorem expandSetting_eq_ok_iff {setting : ExpandedSetting} {value value' : Option String} :
    expandSetting vars setting value = .ok value' ↔ value.mapM vars.expand? = some value' := by
  cases value with
  | none => simp [expandSetting, eq_comm]
  | some text =>
    rw [expandSetting, unless_eq_ok_iff]
    cases he : vars.expand? text <;> simp [he]

theorem expands_of_expanded (h : settings.expanded vars = .ok config) :
    Expands vars settings config := by
  obtain ⟨host, hh, h⟩ := bind_eq_ok_iff.1 h
  obtain ⟨parent, hp, h⟩ := bind_eq_ok_iff.1 h
  obtain ⟨path, hc, h⟩ := bind_eq_ok_iff.1 h
  rw [unless_eq_ok_iff] at hh
  rw [expandSetting_eq_ok_iff] at hp hc
  cases h
  exact ⟨hh, hp, hc, rfl⟩

/-- Of some items one is changed, at a place that counts from the end if the index is negative. Up
to there nulls are filled in, and all other items are as they were. -/
def Edits (before : List Setting) (index : Int) (change : Setting → Setting)
    (after : List Setting) : Prop :=
  ∀ i : Nat, after[i]? =
    if i = position before.length index then some (change (before[i]?.getD .null))
    else if i < position before.length index then some (before[i]?.getD .null)
    else before[i]?

/-- How a configuration comes from the settings of its sources. -/
structure Composed (vars : Variables) (generated : String) (sources laid : Sources)
    (settings config : RuntimeConfig) : Prop where
  /-- In each source the keys come in some order. -/
  reorders : laid.Reorders sources
  /-- The order does not matter for what a source rules, only for what it rules last. -/
  rulesAs : List.Forall₂ Layer.RulesAs laid.layers sources.layers
  layered : Layered laid generated settings
  names : vars.Names laid.overrides
  /-- A setting is hidden only if something else than a table comes in the place of its section, or
  an item of the section is assigned to. -/
  hidden : ∀ layer ∈ laid.layers, ∀ part name : String, .hides ∈ layer.rulings [part, name] →
    (∃ v, .gives v ∈ layer.rulings [part]) ∨
      ∃ v index steps, .edits v index steps ∈ layer.rulings [part]
  /-- An edit changes one item. -/
  edited : ∀ before v index steps, ∃ items,
    Ruling.act before (.edits v index steps) = some (.array items) ∧
      Edits (before.getD .null).items index
        (fun old => if steps = [] then v else assign v steps old) items
  expands : Expands vars settings config
  valid : config.fault? = none

theorem sources?_overrides {sources : Sources}
    (h : sources? files vars base environment = some sources) : sources.overrides = vars.layer := by
  obtain ⟨lowest, -, h⟩ := Option.bind_eq_some_iff.1 h
  split at h
  · cases h
    rfl
  · obtain ⟨overlay, -, h⟩ := Option.bind_eq_some_iff.1 h
    cases h
    rfl

theorem composed_of_build {sources laid : Sources}
    (hs : sources? files vars base environment = some sources) (reorders : laid.Reorders sources)
    (built : build vars generated laid.layers = .ok config) :
    ∃ settings, Composed vars generated sources laid settings config := by
  obtain ⟨settings, hr, expanded⟩ := bind_eq_ok_iff.1 built
  obtain ⟨config', he, checked⟩ := bind_eq_ok_iff.1 expanded
  rw [unless_eq_ok_iff] at hr
  obtain ⟨good, rfl⟩ := validated_eq_ok_iff.1 checked
  exact ⟨settings,
    { reorders
      rulesAs := reorders.rulesAs
      layered := Sources.layered hr
      names := Variables.names_of_reorders (sources?_overrides hs ▸ reorders.overrides)
      hidden := fun _ _ _ _ hides => Layer.exists_of_hides hides
      edited := fun before v index steps =>
        ⟨_, congrArg some (assign_item v index steps _), getElem?_changeItem _ index _⟩
      expands := expands_of_expanded he
      valid := good }⟩

/-- What is loaded follows the layers setting by setting: the variables, then the file of the
environment if there is one, then the base file, then the defaults. A variable gives a setting what
its text looks like. A layer hides a setting of those below it only if it puts something else than a
table in the place of the section; a key with an index changes one item of a list. Keys of one layer
that meet are laid over each other in some order. The references to variables are replaced
afterwards, and what comes out is without a fault. -/
theorem load_layered (h : Loads files vars generated base environment config) :
    ∃ sources laid settings, sources? files vars base environment = some sources ∧
      Composed vars generated sources laid settings config := by
  obtain ⟨sources, laid, hs, reorders, built⟩ := h
  obtain ⟨settings, composed⟩ := composed_of_build hs reorders built
  exact ⟨sources, laid, settings, hs, composed⟩

/-- The keys may come in the order in which they stand. -/
theorem loads_of_load (h : load files vars generated base environment = .ok config) :
    Loads files vars generated base environment config := by
  obtain ⟨layers, hl, built⟩ := bind_eq_ok_iff.1 h
  rw [unless_eq_ok_iff, layers?_eq] at hl
  obtain ⟨sources, hs, rfl⟩ := Option.map_eq_some_iff.1 hl
  exact ⟨sources, sources, hs, .refl sources, built⟩

/-- A base file and the file of an environment. -/
def twoFiles (base overlay : String) : FileTree :=
  .ofList [("a.toml", Utf8.encode base.toList),
    ("config/environments/e.toml", Utf8.encode overlay.toList)]

/-- The name comes from a variable, host and port come from the file of the environment, and the
policy server comes from the base file. -/
theorem load_layered_overlaid :
    let files := twoFiles
      "[runtime]\nname = \"R\"\nport = 2000\n[security]\npolicy_server = \"ps\"\n"
      "[runtime]\nPort = 3000\nhost = \"$H\"\n"
    let vars := [("H", "h"), ("RUNTIME_RUNTIME__NAME", "V")]
    let config : RuntimeConfig :=
      { runtime := { name := "V", host := "h", port := 3000 }
        security := { policyServer := some "ps" } }
    Loads files vars "PA_JVM00000000" (some "a.toml") (some "e") config ∧
      ∃ sources laid settings, sources? files vars (some "a.toml") (some "e") = some sources ∧
        Composed vars "PA_JVM00000000" sources laid settings config := by
  intro files vars config
  have loaded : load files vars "PA_JVM00000000" (some "a.toml") (some "e") = .ok config := by
    decide +kernel
  exact ⟨loads_of_load loaded, load_layered (loads_of_load loaded)⟩

/-- The file of the environment does not set the policy server, but it has a list in the place of
the section, so the policy server of the base file is hidden. A key with an index changes one item
of a list of the base file. -/
theorem section_hidden_by_list :
    let base := "virtual_nodes = [\"a\", \"b\"]\n[runtime]\nname = \"R\"\n" ++
      "[security]\npolicy_server = \"ps\"\n"
    let loaded (overlay : String) :=
      load (twoFiles base overlay) [] "PA_JVM00000000" (some "a.toml") (some "e")
    loaded "" = .ok { named "R" with
      security := { policyServer := some "ps" }
      virtualNodes := ["a", "b"] } ∧
    loaded "security = []\n" = .ok { named "R" with virtualNodes := ["a", "b"] } ∧
    loaded "\"virtual_nodes[0]\" = \"V\"\n" = .ok { named "R" with
      security := { policyServer := some "ps" }
      virtualNodes := ["V", "b"] } := by
  decide +kernel

end RuntimeConfig

end ActiveObjects

import ActiveObjects.Config.Load
import ActiveObjects.Proofs.Config.Reading
import ActiveObjects.Proofs.Text.Padded
import ActiveObjects.Runtime.Registry

/-!
# Two ways to a configuration

A TOML file is parsed as a configuration, or it is loaded as the only layer. Where the file alone
gives a configuration, or one with a fault, loading gives the same, as long as no section is a date.
-/

namespace ActiveObjects

open Text

/-! ## References -/

theorem Variables.expand?_of_not_mem {vars : Variables} {s : String} (h : '$' ∉ s.toList) :
    vars.expand? s = some s := by
  rw [expand?, List.count_eq_zero.2 h, expandUpTo, Option.map_some, String.ofList_toList]

namespace RuntimeConfig

variable {config config' : RuntimeConfig} {generated generated' : String} {files : FileTree}
  {vars : Variables} {path : String}

/-- No setting in which references are replaced has a dollar sign. -/
structure NoReferences (config : RuntimeConfig) : Prop where
  host : '$' ∉ config.runtime.host.toList
  parent : ∀ s ∈ config.runtime.parent, '$' ∉ s.toList
  certificatePath : ∀ s ∈ config.security.certificatePath, '$' ∉ s.toList

theorem expandSetting_of_not_mem {setting : ExpandedSetting} {value : Option String}
    (h : ∀ s ∈ value, '$' ∉ s.toList) : expandSetting vars setting value = .ok value := by
  cases value with
  | none => rfl
  | some s => rw [expandSetting, Variables.expand?_of_not_mem (h s rfl)]; rfl

theorem NoReferences.expanded (h : config.NoReferences) : config.expanded vars = .ok config := by
  simp only [RuntimeConfig.expanded, Variables.expand?_of_not_mem h.host,
    expandSetting_of_not_mem h.parent, expandSetting_of_not_mem h.certificatePath]
  rfl

theorem SameUpTo.noReferences (same : SameUpTo generated generated' config config')
    (h : config.NoReferences) : config'.NoReferences := by
  obtain ⟨⟨-, hr⟩, hc⟩ := same
  rw [hc, hr]
  exact ⟨h.host, h.parent, h.certificatePath⟩

/-! ## Faults -/

/-- A name as processes get it: the common start and eight hexadecimal digits. -/
def IsGenerated (name : String) : Prop :=
  ∃ n : Nat, name = Registry.generatedStart ++ String.ofList (hexDigits 8 n)

theorem IsGenerated.not_allBlank {name : String} (h : IsGenerated name) : ¬ allBlank name := by
  obtain ⟨n, rfl⟩ := h
  simp [allBlank, Registry.generatedStart, isBlank]

theorem IsGenerated.noSlash {name : String} (h : IsGenerated name) :
    ¬ name.toList.contains '/' := by
  obtain ⟨n, rfl⟩ := h
  have noDigit : ∀ d < 16, hexDigit d ≠ '/' := by decide
  have digits : '/' ∉ hexDigits 8 n := by
    intro hm
    obtain ⟨d, hd, heq⟩ := exists_of_mem_hexDigits hm
    exact noDigit d hd heq.symm
  simp [Registry.generatedStart, digits]

/-- A generated name is at no fault. -/
theorem SameUpTo.fault? (same : SameUpTo generated generated' config config')
    (hg : IsGenerated generated) (hg' : IsGenerated generated') :
    config'.fault? = config.fault? := by
  obtain ⟨⟨hn, hr⟩, hc⟩ := same
  rw [hc, hr]
  rcases hn with hn | ⟨hn, hn'⟩
  · rw [hn]
  · simp only [RuntimeConfig.fault?, hn, hn', if_neg hg.not_allBlank, if_neg hg.noSlash,
      if_neg hg'.not_allBlank, if_neg hg'.noSlash]

theorem validated_eq_ok_iff :
    config.validated = .ok config' ↔ config.fault? = none ∧ config' = config := by
  unfold validated
  cases config.fault? <;> simp [eq_comm]

theorem validated_eq_fault_iff {fault : Fault} :
    config.validated = .error (.fault fault) ↔ config.fault? = some fault := by
  unfold validated
  cases config.fault? <;> simp

/-! ## One file -/

/-- The document in a file. -/
def document? (files : FileTree) (path : String) : Option Toml :=
  ((files.file? path).bind Utf8.decode).bind fun text => Toml.parse? (String.ofList text)

/-- The file alone gives an answer about settings only if these can be read from its document. -/
theorem ofFile_cases (files : FileTree) (generated path : String) :
    ofFile files generated path = .error (.unreadable path) ∨
      ofFile files generated path = .error .unparsable ∨
        ∃ document config, document? files path = some document ∧
          read? generated document = some config ∧
            ofFile files generated path = config.validated := by
  unfold ofFile document?
  cases (files.file? path).bind Utf8.decode with
  | none => exact .inl rfl
  | some text =>
    cases hd : Toml.parse? (String.ofList text) with
    | none => exact .inr (.inl (by simp [hd, LoadError.unless, bind, Except.bind]))
    | some document =>
      cases hc : read? generated document with
      | none => exact .inr (.inl (by simp [hd, hc, LoadError.unless, bind, Except.bind]))
      | some config =>
        exact .inr (.inr ⟨document, config, hd, hc,
          by simp [hd, hc, LoadError.unless, bind, Except.bind]⟩)

/-! ## One layer -/

/-- A TOML file with bare keys and without references, and no variables that set anything. -/
structure Comparable (files : FileTree) (vars : Variables) (path : String) : Prop where
  extension : extension? path = some "toml"
  keys {document : Toml} : document? files path = some document →
    document.EachTable fun keys => ∀ key ∈ keys, IsBareKey key
  references {document : Toml} {generated : String} {config : RuntimeConfig} :
    document? files path = some document → read? generated document = some config →
      config.NoReferences
  unset : ∀ entry ∈ vars, Variables.key? entry.1 = none

/-- Loading reads the settings that are made of the document. -/
theorem Comparable.load_eq (h : Comparable files vars path) {document : Toml}
    (hd : document? files path = some document) (generated : String) :
    ∃ given s, document = .table given ∧ Setting.MadeOf document s ∧
      load files vars generated (some path) none = (do
        let config ← LoadError.mistyped.unless (read? generated s)
        (← config.expanded vars).validated) := by
  have keys := h.keys hd
  obtain ⟨text, ht, parsed⟩ := Option.bind_eq_some_iff.1 hd
  obtain ⟨octets, ho, decoded⟩ := Option.bind_eq_some_iff.1 ht
  obtain ⟨given, rfl, distinct⟩ := Toml.parse?_distinct parsed
  have plain := distinct.and keys
  obtain ⟨fields, made, alone⟩ := Setting.ofLayers_document plain
  have source : source? files path = some (.toml, octets) := by
    rw [source?, ho]
    simp only [h.extension]
    rfl
  have settings : FileFormat.toml.settings? (String.ofList text) = some (.table fields) :=
    (congrArg (·.bind Setting.ofToml?) parsed).trans made
  have layer : fileLayer? files path = some fields := by
    simp only [fileLayer?, source, decoded, Option.bind_eq_bind, Option.bind_some,
      FileFormat.layer?, settings]
  have unset : vars.layer = [] := by
    refine List.filterMap_eq_nil_iff.2 fun entry he => ?_
    exact Option.map_eq_none_iff.2 (h.unset entry he)
  have layers : layers? files vars (some path) none = some [fields, []] := by
    simp [layers?, paths, layer, unset]
  refine ⟨given, .table fields, rfl, ⟨plain, made⟩, ?_⟩
  rw [load, layers, LoadError.unless, ← alone]
  rfl

/-! ## The comparison -/

/-- A section of the document in the file is a date or a time. -/
def Dated (files : FileTree) (path : String) : Prop :=
  ∃ document, document? files path = some (.table document) ∧ HasDate document

/-- Loading a file as the only layer answers as the file alone does. -/
structure LoadsAlike (files : FileTree) (vars : Variables) (path generated generated' : String) :
    Prop where
  accepted {config : RuntimeConfig} : ofFile files generated path = .ok config →
    ¬ Dated files path → ∃ config', load files vars generated' (some path) none = .ok config' ∧
      SameUpTo generated generated' config config'
  rejected {fault : Fault} : ofFile files generated path = .error (.fault fault) →
    ¬ Dated files path → load files vars generated' (some path) none = .error (.fault fault)
  /-- A date in place of a section, which the file alone may have, is the exception. -/
  dated : Dated files path → load files vars generated' (some path) none = .error .mistyped

/-- Where the settings can be read from the document, loading checks the same settings. -/
theorem Comparable.load_eq_validated (h : Comparable files vars path) {document : Toml}
    (hd : document? files path = some document) (hr : read? generated document = some config)
    (noDate : ¬ Dated files path) : ∃ config', SameUpTo generated generated' config config' ∧
      load files vars generated' (some path) none = config'.validated := by
  obtain ⟨given, s, rfl, made, loaded⟩ := h.load_eq hd generated'
  obtain ⟨config', hr', same⟩ :=
    carries_read? made (fun hg => noDate ⟨given, hd, hg⟩) generated generated' config hr
  refine ⟨config', same, ?_⟩
  have plain := same.noReferences (h.references hd hr)
  rw [loaded, hr', LoadError.unless]
  simp only [bind, Except.bind, plain.expanded]

/-- A TOML file with bare keys is loaded as it is parsed, but for dates in place of sections. -/
theorem load_alike (h : Comparable files vars path) (hg : IsGenerated generated)
    (hg' : IsGenerated generated') : LoadsAlike files vars path generated generated' where
  accepted {config} ha noDate := by
    obtain he | he | ⟨document, read, hd, hr, he⟩ := ofFile_cases files generated path
    · cases he.symm.trans ha
    · cases he.symm.trans ha
    · obtain ⟨config', same, loaded⟩ := h.load_eq_validated hd hr noDate
      obtain ⟨good, rfl⟩ := validated_eq_ok_iff.1 (he.symm.trans ha)
      rw [← same.fault? hg hg'] at good
      exact ⟨config', loaded.trans (validated_eq_ok_iff.2 ⟨good, rfl⟩), same⟩
  rejected {fault} ha noDate := by
    obtain he | he | ⟨document, read, hd, hr, he⟩ := ofFile_cases files generated path
    · cases he.symm.trans ha
    · cases he.symm.trans ha
    · obtain ⟨config', same, loaded⟩ := h.load_eq_validated hd hr noDate
      have bad := validated_eq_fault_iff.1 (he.symm.trans ha)
      rw [← same.fault? hg hg'] at bad
      exact loaded.trans (validated_eq_fault_iff.2 bad)
  dated := by
    rintro ⟨document, hd, date⟩
    obtain ⟨given, s, heq, made, loaded⟩ := h.load_eq hd generated'
    rw [loaded, read?_of_hasDate made date]
    rfl

/-- A directory that holds one file. -/
def onlyFile (text : String) : FileTree := .ofList [("a.toml", Utf8.encode text.toList)]

/-- The document is a list of one node. -/
def listsNode (name : String) : Toml → Bool
  | .table [(nodes, .array [.table [(key, .text s)]])] =>
    nodes = "nodes" ∧ key = "name" ∧ s = name
  | _ => false

theorem eq_of_listsNode {document : Toml} {name : String} (h : listsNode name document) :
    document = .table [("nodes", .array [.table [("name", .text name)]])] := by
  unfold listsNode at h
  split at h
  · obtain ⟨rfl, rfl, rfl⟩ := of_decide_eq_true h
    rfl
  · cases h

/-- A file with a node but no name: each way generates one. -/
theorem load_alike_unnamed :
    let files := onlyFile "[[nodes]]\nname = \"n\"\n"
    let config (name : String) : RuntimeConfig := { named name with nodes := [{ name := "n" }] }
    ofFile files "PA_JVM00000000" "a.toml" = .ok (config "PA_JVM00000000") ∧
      ∃ config', load files [("HOME", "/")] "PA_JVM00000001" (some "a.toml") none = .ok config' ∧
        SameUpTo "PA_JVM00000000" "PA_JVM00000001" (config "PA_JVM00000000") config' := by
  intro files config
  have document : document? files "a.toml" =
      some (.table [("nodes", .array [.table [("name", .text "n")]])]) := by
    have h : (document? files "a.toml").any (listsNode "n") := by decide +kernel
    obtain ⟨document, hd, h⟩ := (Option.any_eq_true _ _).1 h
    rw [hd, eq_of_listsNode h]
  have comparable : Comparable files [("HOME", "/")] "a.toml" := by
    refine ⟨by decide +kernel, fun hd => ?_, fun hd hc => ?_, by decide +kernel⟩
    · cases document.symm.trans hd
      simp only [Toml.eachTable_table_iff, Toml.eachTable_array_iff, List.forall_mem_singleton]
      exact ⟨by decide, by decide, .text "n"⟩
    · cases document.symm.trans hd
      cases hc
      exact ⟨by simp [named], by simp [named], by simp [named]⟩
  have noDate : ¬ Dated files "a.toml" := by
    rintro ⟨other, hd, name, hn, date, hl⟩
    cases document.symm.trans hd
    simpa using mem_of_lookup hl
  have accepted : ofFile files "PA_JVM00000000" "a.toml" = .ok (config "PA_JVM00000000") := by
    decide +kernel
  exact ⟨accepted, (load_alike comparable ⟨0, by decide +kernel⟩ ⟨1, by decide +kernel⟩).accepted
    accepted noDate⟩

/-- The document names the runtime, and says a date where the settings for naming should be. -/
def datesNaming (date name : String) : Toml → Bool
  | .table [(first, .moment s), (second, .table [(key, .text t)])] =>
    first = "naming" ∧ s = date ∧ second = "runtime" ∧ key = "name" ∧ t = name
  | _ => false

theorem eq_of_datesNaming {document : Toml} {date name : String}
    (h : datesNaming date name document) : document =
      .table [("naming", .moment date), ("runtime", .table [("name", .text name)])] := by
  unfold datesNaming at h
  split at h
  · obtain ⟨rfl, rfl, rfl, rfl, rfl⟩ := of_decide_eq_true h
    rfl
  · cases h

/-- The date stands for a section without fields in the file alone, and for a text in a layer. -/
theorem dated_section_not_loaded :
    let files := onlyFile "naming = 1979-05-27\n[runtime]\nname = \"R\"\n"
    Comparable files [] "a.toml" ∧
      ofFile files "PA_JVM00000000" "a.toml" = .ok (named "R") ∧
      load files [] "PA_JVM00000001" (some "a.toml") none = .error .mistyped := by
  intro files
  have document : document? files "a.toml" =
      some (.table [("naming", .moment "1979-05-27"),
        ("runtime", .table [("name", .text "R")])]) := by
    have h : (document? files "a.toml").any (datesNaming "1979-05-27" "R") := by decide +kernel
    obtain ⟨document, hd, h⟩ := (Option.any_eq_true _ _).1 h
    rw [hd, eq_of_datesNaming h]
  refine ⟨⟨by decide +kernel, fun hd => ?_, fun hd hc => ?_, by simp⟩, by decide +kernel,
    by decide +kernel⟩
  · cases document.symm.trans hd
    simp only [Toml.eachTable_table_iff, List.forall_mem_cons]
    exact ⟨by decide, .moment _, ⟨by decide, .text "R", by simp⟩, by simp⟩
  · cases document.symm.trans hd
    cases hc
    exact ⟨by simp, by simp, by simp [named]⟩

end RuntimeConfig

end ActiveObjects

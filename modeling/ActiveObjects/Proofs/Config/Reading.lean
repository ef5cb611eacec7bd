import ActiveObjects.Config.Setting
import ActiveObjects.Proofs.Config.Layers
import ActiveObjects.Toml.Reading

/-!
# Strict readings are lenient readings

A setting of the right type is read alike whether other types would be accepted in its place or
not. This goes from scalars to records, from these to the sections of a configuration, and on to
the configuration. Sections that are dates are the exception: strictly these are records without
fields, while the setting made of one is a text.
-/

namespace ActiveObjects

/-! ## Results that carry over -/

section

variable {α β γ δ : Type} {R : α → β → Prop} {S : γ → δ → Prop}

/-- If the first result is a value, then the second is a related one. -/
def Carries (R : α → β → Prop) (first : Option α) (second : Option β) : Prop :=
  ∀ a, first = some a → ∃ b, second = some b ∧ R a b

theorem carries_none {second : Option β} : Carries R none second := fun _ h => nomatch h

theorem carries_some {a : α} {b : β} (h : R a b) : Carries R (some a) (some b) := by
  intro _ ha
  cases ha
  exact ⟨b, rfl, h⟩

theorem Carries.bind {first : Option α} {second : Option β} {next : α → Option γ}
    {next' : β → Option δ} (h : Carries R first second)
    (hn : ∀ ⦃a b⦄, R a b → Carries S (next a) (next' b)) :
    Carries S (first >>= next) (second >>= next') := by
  intro c hc
  obtain ⟨a, ha, hc⟩ := Option.bind_eq_some_iff.1 hc
  obtain ⟨b, hb, hr⟩ := h a ha
  obtain ⟨d, hd, hs⟩ := hn hr c hc
  exact ⟨d, Option.bind_eq_some_iff.2 ⟨b, hb, hd⟩, hs⟩

/-- Where the same value carries over, the same is done with it. -/
theorem Carries.bind_eq {first second : Option α} {next : α → Option γ} {next' : α → Option δ}
    (h : Carries Eq first second) (hn : ∀ a, Carries S (next a) (next' a)) :
    Carries S (first >>= next) (second >>= next') :=
  h.bind fun a _ same => same ▸ hn a

theorem Carries.mono {R' : α → β → Prop} {first : Option α} {second : Option β}
    (h : Carries R first second) (hr : ∀ a b, R a b → R' a b) : Carries R' first second :=
  fun a ha => (h a ha).imp fun b hb => ⟨hb.1, hr a b hb.2⟩

theorem Carries.map {first second : Option α} (h : Carries Eq first second) (f : α → γ) :
    Carries Eq (first.map f) (second.map f) := by
  intro c hc
  obtain ⟨a, ha, rfl⟩ := Option.map_eq_some_iff.1 hc
  obtain ⟨_, hb, rfl⟩ := h a ha
  exact ⟨f a, by rw [hb]; rfl, rfl⟩

end

/-! ## Values -/

/-- The setting is made of a value of a document with bare keys. -/
structure Setting.MadeOf (v : Toml) (s : Setting) : Prop where
  plain : v.Plain
  made : ofToml? v = some s

variable {v : Toml} {s : Setting}

theorem Setting.MadeOf.array {items : List Toml} (h : MadeOf (.array items) s) :
    ∃ ss, s = .array ss ∧ ofTomls? items = some ss := by
  obtain ⟨ss, hs, made⟩ := Option.bind_eq_some_iff.1 h.made
  cases made
  exact ⟨ss, rfl, hs⟩

theorem Setting.MadeOf.table {given : List (String × Toml)} (h : MadeOf (.table given) s) :
    ∃ fields, s = .table fields ∧ ofTomlFields? given = some fields := by
  have made := h.made
  cases h.plain with
  | table keys _ =>
    rw [ofToml?_table keys.2] at made
    obtain ⟨fields, hf, made⟩ := Option.map_eq_some_iff.1 made
    exact ⟨fields, made.symm, hf⟩

theorem Setting.MadeOf.isNull (h : MadeOf v s) : s.isNull = false := by
  cases v with
  | array items =>
    obtain ⟨ss, rfl, -⟩ := h.array
    rfl
  | table given =>
    obtain ⟨fields, rfl, -⟩ := h.table
    rfl
  | _ =>
    cases h.made
    rfl

theorem Setting.MadeOf.text? (h : MadeOf v s) : Carries Eq v.text? s.text? := by
  cases v with
  | text t =>
    cases h.made
    exact carries_some rfl
  | _ => exact carries_none

theorem Setting.MadeOf.flag? (h : MadeOf v s) : Carries Eq v.flag? s.flag? := by
  cases v with
  | bool b =>
    cases h.made
    exact carries_some rfl
  | _ => exact carries_none

theorem Setting.MadeOf.natural? (h : MadeOf v s) (limit : Nat) :
    Carries Eq (v.natural? limit) (s.natural? limit) := by
  cases v with
  | integer n =>
    cases h.made
    intro m hm
    obtain ⟨⟨sign, bound⟩, rfl⟩ : (0 ≤ n ∧ n.toNat ≤ limit) ∧ n.toNat = m := by
      simpa [Toml.natural?] using hm
    exact ⟨n.toNat, by simp [Setting.natural?, sign, bound], rfl⟩
  | _ => exact carries_none

/-! ## Lists -/

/-- The items of a list make settings one by one. -/
theorem Setting.MadeOf.items? (h : MadeOf v s) :
    Carries (List.Forall₂ MadeOf) v.items? s.items? := by
  cases v with
  | array items =>
    obtain ⟨ss, rfl, hs⟩ := h.array
    cases h.plain with
    | array each =>
      refine carries_some ?_
      clear h
      induction items generalizing ss with
      | nil =>
        cases hs
        exact .nil
      | cons v rest ih =>
        obtain ⟨first, each⟩ := List.forall_mem_cons.1 each
        obtain ⟨s, hv, hs⟩ := Option.bind_eq_some_iff.1 hs
        obtain ⟨more, hm, hs⟩ := Option.bind_eq_some_iff.1 hs
        cases hs
        exact .cons ⟨first, hv⟩ (ih more hm each)
  | _ => exact carries_none

theorem Setting.MadeOf.readItems? {α : Type} {read : Toml → Option α} {read' : Setting → Option α}
    (h : MadeOf v s) (hr : ∀ ⦃v s⦄, MadeOf v s → Carries Eq (read v) (read' s)) :
    Carries Eq (readItems? read v) (readItems? read' s) := by
  refine h.items?.bind fun items settings each => ?_
  induction each with
  | nil => exact carries_some rfl
  | cons first _ ih =>
    rw [List.mapM_cons, List.mapM_cons]
    refine (hr first).bind_eq fun a => ?_
    refine ih.bind_eq fun more => ?_
    exact carries_some rfl

/-! ## Records -/

/-- The records have the same fields, and those of the second are made of those of the first. -/
structure Record.Mirrors (r : Record Toml) (r' : Record Setting) : Prop where
  positional : r'.positional = r.positional
  absent {key : String} : r.find key = none → r'.find key = none
  present {key : String} {v : Toml} :
    r.find key = some v → ∃ s, r'.find key = some s ∧ Setting.MadeOf v s
  isNull (v : Toml) : r.isNull v = false
  isNull_made {v : Toml} {s : Setting} : Setting.MadeOf v s → r'.isNull s = false

namespace Record.Mirrors

section

variable {α β : Type} {R : α → β → Prop} {r : Record Toml} {r' : Record Setting} {key : String}
  {read : Toml → Option α} {read' : Setting → Option β}

theorem required (m : Mirrors r r')
    (h : ∀ ⦃v s⦄, Setting.MadeOf v s → Carries R (read v) (read' s)) :
    Carries R (r.required key read) (r'.required key read') := by
  unfold Record.required
  cases hr : r.find key with
  | none => exact carries_none
  | some v =>
    obtain ⟨s, hs, made⟩ := m.present hr
    rw [hs]
    exact h made

theorem defaulted (m : Mirrors r r') {a : α} {b : β} (hd : R a b)
    (h : ∀ ⦃v s⦄, r.find key = some v → Setting.MadeOf v s → Carries R (read v) (read' s)) :
    Carries R (r.defaulted key a read) (r'.defaulted key b read') := by
  unfold Record.defaulted
  cases hr : r.find key with
  | none =>
    rw [m.absent hr]
    exact carries_some hd
  | some v =>
    obtain ⟨s, hs, made⟩ := m.present hr
    rw [hs]
    exact h hr made

end

variable {α : Type} {r : Record Toml} {r' : Record Setting} {key : String}
  {read : Toml → Option α} {read' : Setting → Option α}

theorem optional (m : Mirrors r r')
    (h : ∀ ⦃v s⦄, Setting.MadeOf v s → Carries Eq (read v) (read' s)) :
    Carries Eq (r.optional key read) (r'.optional key read') := by
  unfold Record.optional
  cases hr : r.find key with
  | none =>
    rw [m.absent hr, m.positional]
    exact fun a ha => ⟨a, ha, rfl⟩
  | some v =>
    obtain ⟨s, hs, made⟩ := m.present hr
    simp only [hs, m.isNull, m.isNull_made made]
    exact (h made).map some

theorem nullable (m : Mirrors r r')
    (h : ∀ ⦃v s⦄, Setting.MadeOf v s → Carries Eq (read v) (read' s)) :
    Carries Eq (r.nullable key read) (r'.nullable key read') := by
  refine m.defaulted rfl fun v s _ made => ?_
  simp only [m.isNull, m.isNull_made made]
  exact (h made).map some

end Record.Mirrors

/-- Look-ups find what is made of what they find in the document. -/
theorem Record.mirrors_lookup {given : List (String × Toml)} {fields : List (String × Setting)}
    (hf : Setting.ofTomlFields? given = some fields) (each : ∀ field ∈ given, field.2.Plain)
    (positional : Bool) :
    Mirrors ⟨(given.lookup ·), positional, fun _ => false⟩
      ⟨(fields.lookup ·), positional, Setting.isNull⟩ where
  positional := rfl
  absent {key} hk := by
    dsimp only at hk ⊢
    rw [Setting.lookup_ofTomlFields? hf, hk]
    rfl
  present {key v} hk := by
    have plain := each _ (mem_of_lookup hk)
    obtain ⟨s, hs, -⟩ := Setting.ofToml?_settles plain
    refine ⟨s, ?_, plain, hs⟩
    dsimp only at hk ⊢
    rw [Setting.lookup_ofTomlFields? hf, hk]
    exact hs
  isNull _ := rfl
  isNull_made made := made.isNull

/-- The record that a setting is has the fields of the value, unless that is a date. -/
theorem Setting.MadeOf.record? (h : MadeOf v s) (hm : ∀ date, v ≠ .moment date)
    (known : List String) : Carries Record.Mirrors (v.record? known) (s.record? known) := by
  cases v with
  | table given =>
    obtain ⟨fields, rfl, hf⟩ := h.table
    cases h.plain with
    | table _ each => exact carries_some (Record.mirrors_lookup hf each false)
  | array items =>
    obtain ⟨ss, rfl, hs⟩ := h.array
    cases h.plain with
    | array each =>
      exact carries_some (Record.mirrors_lookup (zip_ofTomls? hs known)
        (fun field hf => each _ (List.of_mem_zip hf).2) true)
  | moment date => exact absurd rfl (hm date)
  | _ => exact carries_none

/-! ## Sections -/

/-- The settings are the same, except that a generated name may stand for a generated name. -/
def RuntimeSettings.SameUpTo (generated generated' : String)
    (settings settings' : RuntimeSettings) : Prop :=
  (settings'.name = settings.name ∨ settings.name = generated ∧ settings'.name = generated') ∧
    settings' = { settings with name := settings'.name }

theorem RuntimeSettings.carries_read? (h : Setting.MadeOf v s) (hm : ∀ date, v ≠ .moment date)
    (generated generated' : String) :
    Carries (SameUpTo generated generated') (read? generated v) (read? generated' s) := by
  refine (h.record? hm _).bind fun r r' m => ?_
  have named : Carries (fun name name' => name' = name ∨ name = generated ∧ name' = generated')
      (r.defaulted "name" generated SettingValue.text?)
      (r'.defaulted "name" generated' SettingValue.text?) :=
    m.defaulted (.inr ⟨rfl, rfl⟩) fun _ _ _ made => made.text?.mono fun _ _ same => .inl same.symm
  refine named.bind fun name name' hn => ?_
  refine (m.defaulted rfl fun _ _ _ made => made.text?).bind_eq fun host => ?_
  refine (m.defaulted rfl fun _ _ _ made =>
    (made.natural? 65535).map UInt16.ofNat).bind_eq fun port => ?_
  refine (m.defaulted rfl fun _ _ _ made => made.text?).bind_eq fun tag => ?_
  refine (m.nullable fun _ _ made => made.text?).bind_eq fun parent => ?_
  exact carries_some ⟨hn, rfl⟩

theorem NamingSettings.carries_read? (h : Setting.MadeOf v s) (hm : ∀ date, v ≠ .moment date) :
    Carries Eq (read? v) (read? s) := by
  refine (h.record? hm _).bind fun r r' m => ?_
  refine (m.defaulted rfl fun _ _ _ made => made.flag?).bind_eq fun strict => ?_
  exact carries_some rfl

theorem EventSettings.carries_read? (h : Setting.MadeOf v s) (hm : ∀ date, v ≠ .moment date) :
    Carries Eq (read? v) (read? s) := by
  refine (h.record? hm _).bind fun r r' m => ?_
  refine (m.defaulted rfl fun _ _ _ made =>
    (made.natural? maxWord).map UInt64.ofNat).bind_eq fun capacity => ?_
  exact carries_some rfl

theorem SecuritySettings.carries_read? (h : Setting.MadeOf v s) (hm : ∀ date, v ≠ .moment date) :
    Carries Eq (read? v) (read? s) := by
  refine (h.record? hm _).bind fun r r' m => ?_
  refine (m.nullable fun _ _ made => made.text?).bind_eq fun path => ?_
  refine (m.nullable fun _ _ made => made.text?).bind_eq fun server => ?_
  exact carries_some rfl

/-- A date is no node, as it has no name. -/
theorem NodeSettings.carries_read? (h : Setting.MadeOf v s) : Carries Eq (read? v) (read? s) := by
  by_cases hm : ∀ date, v ≠ .moment date
  · refine (h.record? hm _).bind fun r r' m => ?_
    refine (m.required fun _ _ made => made.text?).bind_eq fun name => ?_
    refine (m.defaulted rfl fun _ _ _ made => made.text?).bind_eq fun job => ?_
    refine (m.optional fun _ _ made => made.text?).bind_eq fun group => ?_
    refine (m.defaulted rfl fun _ _ _ made => made.flag?).bind_eq fun replace => ?_
    exact carries_some rfl
  · obtain ⟨date, rfl⟩ := not_forall_not.1 hm
    exact carries_none

/-! ## Configurations -/

namespace RuntimeConfig

/-- The configurations are the same, except that a generated name may stand for a generated
name. -/
def SameUpTo (generated generated' : String) (config config' : RuntimeConfig) : Prop :=
  config.runtime.SameUpTo generated generated' config'.runtime ∧
    config' = { config with runtime := config'.runtime }

/-- The sections that may be left out. -/
def sections : List String := ["runtime", "naming", "events", "security"]

/-- A section of the document is a date or a time. -/
def HasDate (document : List (String × Toml)) : Prop :=
  ∃ name ∈ sections, ∃ date, document.lookup name = some (.moment date)

theorem carries_read? {document : List (String × Toml)} (h : Setting.MadeOf (.table document) s)
    (hd : ¬ HasDate document) (generated generated' : String) :
    Carries (SameUpTo generated generated') (read? generated (Toml.table document))
      (read? generated' s) := by
  obtain ⟨fields, rfl, hf⟩ := h.table
  cases h.plain with
  | table _ each =>
    have records : Carries (fun r r' => r.find = (document.lookup ·) ∧ Record.Mirrors r r')
        (some ⟨(document.lookup ·), false, fun _ => false⟩)
        (some ⟨(fields.lookup ·), false, Setting.isNull⟩) :=
      carries_some ⟨rfl, Record.mirrors_lookup hf each false⟩
    refine records.bind ?_
    rintro r r' ⟨found, m⟩
    have noDate {name : String} (hn : name ∈ sections) {v : Toml} (hv : r.find name = some v)
        (date : String) : v ≠ .moment date :=
      fun he => hd ⟨name, hn, date, by rw [found] at hv; exact hv.trans (congrArg some he)⟩
    have runtime : Carries (RuntimeSettings.SameUpTo generated generated')
        (r.defaulted "runtime" { name := generated } (RuntimeSettings.read? generated))
        (r'.defaulted "runtime" { name := generated' } (RuntimeSettings.read? generated')) :=
      m.defaulted ⟨.inr ⟨rfl, rfl⟩, rfl⟩ fun _ _ hv made =>
        RuntimeSettings.carries_read? made (noDate (by decide) hv) generated generated'
    refine runtime.bind fun runtime runtime' hn => ?_
    refine (m.defaulted rfl fun _ _ hv made =>
      NamingSettings.carries_read? made (noDate (by decide) hv)).bind_eq fun naming => ?_
    refine (m.defaulted rfl fun _ _ hv made =>
      EventSettings.carries_read? made (noDate (by decide) hv)).bind_eq fun events => ?_
    refine (m.defaulted rfl fun _ _ hv made =>
      SecuritySettings.carries_read? made (noDate (by decide) hv)).bind_eq fun security => ?_
    refine (m.defaulted rfl fun _ _ _ made =>
      made.readItems? fun _ _ => NodeSettings.carries_read?).bind_eq fun nodes => ?_
    refine (m.defaulted rfl fun _ _ _ made =>
      made.readItems? fun _ _ made => made.text?).bind_eq fun groups => ?_
    exact carries_some ⟨hn, rfl⟩

/-- The setting made of a date is a text, which is no section. -/
theorem read?_of_hasDate {document : List (String × Toml)} (h : Setting.MadeOf (.table document) s)
    (hd : HasDate document) (generated : String) : read? generated s = none := by
  obtain ⟨fields, rfl, hf⟩ := h.table
  obtain ⟨name, hn, date, hl⟩ := hd
  have found : fields.lookup name = some (.text date) := by
    rw [Setting.lookup_ofTomlFields? hf, hl]
    rfl
  refine Option.eq_none_iff_forall_ne_some.2 fun config hc => ?_
  simp only [read?, Option.bind_eq_bind, Option.bind_eq_some_iff] at hc
  obtain ⟨r, hr, runtime, h1, naming, h2, events, h3, security, h4, -⟩ := hc
  cases hr
  simp only [Record.defaulted] at h1 h2 h3 h4
  simp only [sections, List.mem_cons, List.not_mem_nil, or_false] at hn
  rcases hn with rfl | rfl | rfl | rfl
  · rw [found] at h1
    cases h1
  · rw [found] at h2
    cases h2
  · rw [found] at h3
    cases h3
  · rw [found] at h4
    cases h4

end RuntimeConfig

end ActiveObjects

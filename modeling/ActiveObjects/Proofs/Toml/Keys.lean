import ActiveObjects.Proofs.Fields
import ActiveObjects.Proofs.Text.Scan
import ActiveObjects.Toml.Document

/-!
# The keys of a document

Statement after statement, the tables under construction have each key once, so every table of a
document does. A look-up of a key finds all that the document says about it.
-/

namespace ActiveObjects

/-- The keys of every table in the value, at any depth, have the property. -/
inductive Toml.EachTable (P : List String → Prop) : Toml → Prop
  | text (s : String) : EachTable P (.text s)
  | integer (n : Int) : EachTable P (.integer n)
  | float (x : Binary64) : EachTable P (.float x)
  | bool (b : Bool) : EachTable P (.bool b)
  | moment (s : String) : EachTable P (.moment s)
  | array {items : List Toml} (each : ∀ v ∈ items, EachTable P v) : EachTable P (.array items)
  | table {fields : List (String × Toml)} (keys : P (fields.map (·.1)))
      (each : ∀ field ∈ fields, EachTable P field.2) : EachTable P (.table fields)

namespace Toml

theorem eachTable_array_iff {P : List String → Prop} {items : List Toml} :
    (Toml.array items).EachTable P ↔ ∀ v ∈ items, v.EachTable P :=
  ⟨fun h => by cases h; assumption, .array⟩

theorem eachTable_table_iff {P : List String → Prop} {fields : List (String × Toml)} :
    (Toml.table fields).EachTable P ↔
      P (fields.map (·.1)) ∧ ∀ field ∈ fields, field.2.EachTable P :=
  ⟨fun h => by cases h with | table keys each => exact ⟨keys, each⟩, fun h => .table h.1 h.2⟩

theorem EachTable.and {P Q : List String → Prop} {v : Toml} (hp : v.EachTable P)
    (hq : v.EachTable Q) : v.EachTable fun keys => P keys ∧ Q keys := by
  induction hp with
  | text s => exact .text s
  | integer n => exact .integer n
  | float x => exact .float x
  | bool b => exact .bool b
  | moment s => exact .moment s
  | array _ ih =>
    cases hq with
    | array each => exact .array fun v hv => ih v hv (each v hv)
  | table hk _ ih =>
    cases hq with
    | table keys each => exact .table ⟨hk, keys⟩ fun field hf => ih field hf (each field hf)

/-! ## Tables under construction -/

/-- No table of the item has a key twice. -/
inductive Item.Distinct : Item → Prop
  | value {v : Toml} (h : v.EachTable List.Nodup) : Distinct (.value v)
  | table {origin : Origin} {entries : List (String × Item)} (keys : (entries.map (·.1)).Nodup)
      (each : ∀ entry ∈ entries, entry.2.Distinct) : Distinct (.table origin entries)
  | tables {elements : List (List (String × Item))}
      (keys : ∀ entries ∈ elements, (entries.map (·.1)).Nodup)
      (each : ∀ entries ∈ elements, ∀ entry ∈ entries, entry.2.Distinct) :
      Distinct (.tables elements)

namespace Entries

/-- No table among the entries has a key twice, and neither have they. -/
structure Distinct (entries : Entries) : Prop where
  keys : (entries.map (·.1)).Nodup
  each : ∀ entry ∈ entries, entry.2.Distinct

variable {entries entries' inner : Entries} {key : String} {item : Item}

theorem distinct_nil : Distinct [] := ⟨List.nodup_nil, by simp⟩

theorem Distinct.table {origin : Origin} (h : Distinct inner) :
    (Item.table origin inner).Distinct :=
  .table h.keys h.each

theorem Distinct.tables {others : List Entries} (h : Distinct inner)
    (ho : (Item.tables others).Distinct) : (Item.tables (inner :: others)).Distinct := by
  cases ho with
  | tables keys each =>
    exact .tables (List.forall_mem_cons.2 ⟨h.keys, keys⟩) (List.forall_mem_cons.2 ⟨h.each, each⟩)

theorem Distinct.of_lookup (h : entries.Distinct) (hl : entries.lookup key = some item) :
    item.Distinct :=
  h.each _ (mem_of_lookup hl)

theorem distinct_of_table {origin : Origin} (h : (Item.table origin inner).Distinct) :
    Distinct inner := by
  cases h with
  | table keys each => exact ⟨keys, each⟩

theorem distinct_of_tables {others : List Entries} (h : (Item.tables (inner :: others)).Distinct) :
    Distinct inner ∧ (Item.tables others).Distinct := by
  cases h with
  | tables keys each =>
    exact ⟨⟨keys _ (List.mem_cons_self ..), each _ (List.mem_cons_self ..)⟩,
      .tables (fun _ h => keys _ (List.mem_cons_of_mem _ h))
        fun _ h => each _ (List.mem_cons_of_mem _ h)⟩

theorem Distinct.push (h : entries.Distinct) (hk : key ∉ entries.map (·.1)) (hi : item.Distinct) :
    Distinct (entries ++ [(key, item)]) where
  keys := nodup_keys_push h.keys hk
  each := by
    intro entry he
    rcases List.mem_append.1 he with he | he
    · exact h.each entry he
    · cases List.mem_singleton.1 he
      exact hi

theorem Distinct.put (h : entries.Distinct) (hi : item.Distinct) :
    Distinct (entries.put key item) := by
  unfold Entries.put
  split
  · constructor
    · rw [List.map_map]
      refine (congrArg List.Nodup (List.map_congr_left fun entry _ => ?_)).mpr h.keys
      dsimp only [Function.comp]
      split <;> rfl
    · intro entry he
      obtain ⟨⟨k, i⟩, hm, rfl⟩ := List.mem_map.1 he
      dsimp only
      split
      · exact hi
      · exact h.each _ hm
  · rename_i hn
    exact h.push (mt any_key_iff.2 hn) hi

theorem Distinct.assign {v : Toml} (hv : v.EachTable List.Nodup) {path : List String}
    (h : entries.Distinct) (ha : Entries.assign v path key entries = some entries') :
    entries'.Distinct := by
  induction path generalizing entries entries' with
  | nil =>
    unfold Entries.assign at ha
    split at ha
    · cases ha
    · rename_i hn
      cases ha
      exact h.push (mt any_key_iff.2 hn) (.value hv)
  | cons step path ih =>
    unfold Entries.assign at ha
    split at ha
    · rename_i hl
      obtain ⟨inner, hi, rfl⟩ := Option.map_eq_some_iff.1 ha
      exact h.push (lookup_eq_none_iff_key.1 hl) (ih distinct_nil hi).table
    · rename_i origin inner hl
      split at ha
      · cases ha
      · obtain ⟨inner', hi, rfl⟩ := Option.map_eq_some_iff.1 ha
        exact h.put (ih (distinct_of_table (h.of_lookup hl)) hi).table
    · rename_i inner others hl
      split at ha
      · cases ha
      · obtain ⟨inner', hi, rfl⟩ := Option.map_eq_some_iff.1 ha
        have ⟨first, rest⟩ := distinct_of_tables (h.of_lookup hl)
        exact h.put ((ih first hi).tables rest)
    all_goals cases ha

theorem Distinct.within {change : Entries → Option Entries} {path : List String}
    (hc : ∀ ⦃before after⦄, change before = some after → Distinct before → Distinct after)
    (h : entries.Distinct) (ha : Entries.within change path entries = some entries') :
    entries'.Distinct := by
  induction path generalizing entries entries' with
  | nil => exact hc ha h
  | cons step path ih =>
    unfold Entries.within at ha
    split at ha
    · rename_i hl
      obtain ⟨inner, hi, rfl⟩ := Option.map_eq_some_iff.1 ha
      exact h.push (lookup_eq_none_iff_key.1 hl) (ih distinct_nil hi).table
    · rename_i origin inner hl
      obtain ⟨inner', hi, rfl⟩ := Option.map_eq_some_iff.1 ha
      exact h.put (ih (distinct_of_table (h.of_lookup hl)) hi).table
    · rename_i inner others hl
      obtain ⟨inner', hi, rfl⟩ := Option.map_eq_some_iff.1 ha
      have ⟨first, rest⟩ := distinct_of_tables (h.of_lookup hl)
      exact h.put ((ih first hi).tables rest)
    all_goals cases ha

theorem Distinct.openTable (ho : entries.openTable key = some entries') (h : entries.Distinct) :
    entries'.Distinct := by
  unfold Entries.openTable at ho
  split at ho
  · rename_i hl
    cases ho
    exact h.push (lookup_eq_none_iff_key.1 hl) distinct_nil.table
  · rename_i inner hl
    cases ho
    exact h.put (distinct_of_table (h.of_lookup hl)).table
  · cases ho

theorem Distinct.openElement (ho : entries.openElement key = some entries') (h : entries.Distinct) :
    entries'.Distinct := by
  unfold Entries.openElement at ho
  split at ho
  · rename_i hl
    cases ho
    exact h.push (lookup_eq_none_iff_key.1 hl) (distinct_nil.tables (.tables (by simp) (by simp)))
  · rename_i elements hl
    cases ho
    exact h.put (distinct_nil.tables (h.of_lookup hl))
  · cases ho

end Entries

/-! ## Finished values -/

theorem tomlEntries_eq_map (entries : Entries) :
    tomlEntries entries = entries.map fun (key, item) => (key, item.toToml) := by
  induction entries with
  | nil => rfl
  | cons entry rest ih => rw [tomlEntries, ih, List.map_cons]

theorem tomlTables_eq_map (elements : List Entries) :
    tomlTables elements = elements.map fun entries => .table (tomlEntries entries) := by
  induction elements with
  | nil => rfl
  | cons entries rest ih => rw [tomlTables, ih, List.map_cons]

theorem eachTable_of_entries {entries : Entries} (keys : (entries.map (·.1)).Nodup)
    (each : ∀ entry ∈ entries, entry.2.toToml.EachTable List.Nodup) :
    (Toml.table (tomlEntries entries)).EachTable List.Nodup := by
  rw [tomlEntries_eq_map]
  refine .table ?_ ?_
  · rw [List.map_map]
    exact keys
  · intro field hf
    obtain ⟨entry, he, rfl⟩ := List.mem_map.1 hf
    exact each entry he

theorem Item.Distinct.toToml {item : Item} (h : item.Distinct) :
    item.toToml.EachTable List.Nodup := by
  induction h with
  | value h => exact h
  | table keys _ ih => exact eachTable_of_entries keys ih
  | tables keys _ ih =>
    rw [Item.toToml, tomlTables_eq_map]
    refine .array fun v hv => ?_
    obtain ⟨entries, he, rfl⟩ := List.mem_map.1 (List.mem_reverse.1 hv)
    exact eachTable_of_entries (keys entries he) (ih entries he)

theorem Entries.Distinct.eachTable {entries : Entries} (h : entries.Distinct) :
    (Toml.table (tomlEntries entries)).EachTable List.Nodup :=
  eachTable_of_entries h.keys fun entry he => (h.each entry he).toToml

/-! ## Reading -/

open Text Scan

variable {P : List String → Prop}

theorem ofInt?_eachTable {n : Int} {v : Toml} (h : ofInt? n = some v) : v.EachTable P := by
  unfold ofInt? at h
  split at h
  · cases h
    exact .integer n
  · cases h

theorem readInteger_yields : readInteger.Yields (EachTable P) := by
  have ofInt (n : Int) : (liftM (ofInt? n) : Scan Toml).Yields (EachTable P) :=
    yields_lift fun _ => ofInt?_eachTable
  have based (mark : Char) (base : Nat) : (based mark base).Yields (EachTable P) :=
    yields_bind fun _ => yields_bind fun _ => yields_bind fun n => ofInt n
  exact (based ..).orElse <| (based ..).orElse <| (based ..).orElse <|
    yields_bind fun _ => yields_bind fun _ => ofInt _

theorem readFloat_yields : readFloat.Yields (EachTable P) :=
  yields_bind fun _ => yields_bind fun _ => yields_bind fun _ => yields_bind fun _ =>
    yields_bind fun _ => yields_bind fun _ => yields_pure (.float _)

theorem readMoment_yields : readMoment.Yields (EachTable P) :=
  .orElse (yields_bind fun _ => yields_bind fun _ => yields_pure (.moment _))
    (yields_bind fun _ => yields_pure (.moment _))

/-- A scalar has no tables. -/
theorem readScalar_yields : readScalar.Yields (EachTable P) := by
  have text : readText.Yields (EachTable P) := yields_bind fun _ => yields_pure (.text _)
  have bool : readBool.Yields (EachTable P) :=
    .orElse (yields_bind fun _ => yields_pure (.bool _))
      (yields_bind fun _ => yields_pure (.bool _))
  have special : readSpecial.Yields (EachTable P) :=
    yields_bind fun _ => .orElse (yields_bind fun _ => yields_pure (.float _))
      (yields_bind fun _ => yields_pure (.float _))
  exact text.orElse <| bool.orElse <| readMoment_yields.orElse <| readFloat_yields.orElse <|
    special.orElse readInteger_yields

theorem readPair_yields {value : Scan Toml} (h : value.Yields (EachTable P)) :
    (readPair value).Yields fun pair => pair.2.EachTable P :=
  yields_bind fun _ => yields_bind fun _ => yields_bind fun _ => h.bind fun _ hv => yields_pure hv

theorem readPairs_yields {value : Scan Toml} (h : value.Yields (EachTable P)) :
    (readPairs value).Yields fun pairs => ∀ pair ∈ pairs, pair.2.EachTable P := by
  have next : (do Scan.exactly ','; let pair ← readPair value; spaces; return pair).Yields
      fun pair => pair.2.EachTable P :=
    yields_bind fun _ => (readPair_yields h).bind fun _ hp => yields_bind fun _ => yields_pure hp
  exact (readPair_yields h).bind fun _ hp => yields_bind fun _ => next.many.bind fun _ hm =>
    yields_pure (List.forall_mem_cons.2 ⟨hp, hm⟩)

theorem foldlM_assign_distinct {pairs : List ((List String × String) × Toml)}
    {entries entries' : Entries} (hp : ∀ pair ∈ pairs, pair.2.EachTable List.Nodup)
    (h : entries.Distinct)
    (hf : pairs.foldlM (fun entries ((path, key), v) => Entries.assign v path key entries) entries =
      some entries') : entries'.Distinct := by
  induction pairs generalizing entries with
  | nil =>
    cases hf
    exact h
  | cons pair rest ih =>
    obtain ⟨hv, hp⟩ := List.forall_mem_cons.1 hp
    obtain ⟨next, hn, hf⟩ := Option.bind_eq_some_iff.1 hf
    exact ih hp (h.assign hv hn) hf

theorem readValue_yields (room : Nat) : (readValue room).Yields (EachTable List.Nodup) := by
  induction room with
  | zero => exact readScalar_yields
  | succ room ih =>
    refine readScalar_yields.orElse (.orElse ?array ?table)
    case array =>
      exact yields_bind fun _ => ih.list.bind fun items hi => yields_pure (.array hi)
    case table =>
      refine yields_bind fun _ => yields_bind fun _ =>
        (readPairs_yields ih).optional.bind fun pairs hp => yields_bind fun _ =>
          (yields_lift (P := Entries.Distinct) fun entries he => ?_).bind fun entries he =>
            yields_pure he.eachTable
      refine foldlM_assign_distinct ?_ Entries.distinct_nil he
      cases pairs with
      | none => simp
      | some pairs => exact hp pairs rfl

/-- The value that a statement assigns has distinct keys. -/
def Statement.Distinct : Statement → Prop
  | .table .. | .element .. => True
  | .assign _ _ v => v.EachTable List.Nodup

theorem readLine_yields :
    readLine.Yields fun line => ∀ statement ∈ line, statement.Distinct := by
  have assigned : (do
      let ((path, key), v) ← readPair (readValue maxDepth)
      restOfLine
      return some (.assign path key v) : Scan (Option Statement)).Yields
      fun line => ∀ statement ∈ line, statement.Distinct :=
    (readPair_yields (readValue_yields maxDepth)).bind fun _ hv =>
      yields_bind fun _ => yields_pure (by simpa [Statement.Distinct] using hv)
  refine yields_bind fun _ => .orElse ?blank <| .orElse ?comment <| .orElse ?element <|
    .orElse ?table assigned
  case blank => exact yields_bind fun _ => yields_pure (by simp)
  case comment => exact yields_bind fun _ => yields_bind fun _ => yields_pure (by simp)
  case element =>
    exact yields_bind fun _ => yields_bind fun _ => yields_pure (by simp [Statement.Distinct])
  case table =>
    exact yields_bind fun _ => yields_bind fun _ => yields_pure (by simp [Statement.Distinct])

theorem statements?_distinct {cs : List Char} {statements : List Statement}
    (h : statements? cs = some statements) : ∀ statement ∈ statements, statement.Distinct := by
  refine Yields.all? (P := fun statements => ∀ statement ∈ statements, statement.Distinct) ?_ h
  refine yields_bind fun _ => readLine_yields.many.bind fun lines hl => yields_bind fun _ =>
    yields_pure fun statement hs => ?_
  obtain ⟨line, hm, hs⟩ := List.mem_filterMap.1 hs
  exact hl line hm statement hs

theorem Draft.distinct_step {draft draft' : Draft} {statement : Statement}
    (hs : statement.Distinct) (h : draft.entries.Distinct)
    (hd : draft.step? statement = some draft') : draft'.entries.Distinct := by
  cases statement with
  | table path key =>
    obtain ⟨entries, he, rfl⟩ := Option.map_eq_some_iff.1 hd
    exact h.within (fun _ _ => Entries.Distinct.openTable) he
  | element path key =>
    obtain ⟨entries, he, rfl⟩ := Option.map_eq_some_iff.1 hd
    exact h.within (fun _ _ => Entries.Distinct.openElement) he
  | assign path key v =>
    obtain ⟨entries, he, rfl⟩ := Option.map_eq_some_iff.1 hd
    exact h.within (fun _ _ ha hb => hb.assign hs ha) he

theorem Draft.distinct_run {statements : List Statement} {draft draft' : Draft}
    (hs : ∀ statement ∈ statements, statement.Distinct) (h : draft.entries.Distinct)
    (hd : statements.foldlM Draft.step? draft = some draft') : draft'.entries.Distinct := by
  induction statements generalizing draft with
  | nil =>
    cases hd
    exact h
  | cons statement rest ih =>
    obtain ⟨first, hs⟩ := List.forall_mem_cons.1 hs
    obtain ⟨next, hn, hd⟩ := Option.bind_eq_some_iff.1 hd
    exact ih hs (Draft.distinct_step first h hn) hd

/-- What a document says is a table, and no table in it has a key twice. -/
theorem parse?_distinct {text : String} {document : Toml} (h : parse? text = some document) :
    ∃ fields, document = .table fields ∧ document.EachTable List.Nodup := by
  obtain ⟨statements, hs, h⟩ := Option.bind_eq_some_iff.1 h
  obtain ⟨draft, hd, h⟩ := Option.bind_eq_some_iff.1 h
  cases h
  exact ⟨_, rfl,
    (Draft.distinct_run (statements?_distinct hs) Entries.distinct_nil hd).eachTable⟩

end Toml

end ActiveObjects

import Mathlib.Data.List.Induction
import ActiveObjects.Config.Layers
import ActiveObjects.Proofs.Fields
import ActiveObjects.Proofs.Text.Scan

/-!
# What layers rule about a setting

Of all that layers assign, some assignments bear on a setting. They give it a value, hide it, change
an item of it, or make it a table. Followed one after the other, these rulings tell exactly what
comes of the setting; assignments to its neighbours do not bear on it. The last ruling decides.
-/

namespace ActiveObjects

open Text

namespace Setting

/-- The value to which some names of fields lead. -/
def find? : List String → Setting → Option Setting
  | [], v => some v
  | name :: path, v => (v.fields.lookup name).bind (find? path)

@[simp] theorem find?_nil (v : Setting) : v.find? [] = some v := by rw [find?]

theorem find?_cons (name : String) (path : List String) (v : Setting) :
    v.find? (name :: path) = (v.fields.lookup name).bind (find? path) := by rw [find?]

/-- A value, but for the fields that it has as a table. -/
def outline : Setting → Setting
  | .table _ => .table []
  | v => v

theorem outline_of_not_table {v : Setting} (h : ∀ fields, v ≠ .table fields) : v.outline = v := by
  cases v with
  | table fields => exact absurd rfl (h fields)
  | _ => rfl

@[simp] theorem items_outline (v : Setting) : v.outline.items = v.items := by
  cases v <;> rfl

/-! ## Rulings -/

/-- What an assignment that bears on a setting does to it. -/
inductive Ruling where
  /-- A value that is no table comes in its place. -/
  | gives (v : Setting)
  /-- Something else than a table comes in the place of one of the tables that it is in. -/
  | hides
  /-- A value is assigned to an item of it, or to what some steps lead to from there. -/
  | edits (v : Setting) (index : Int) (steps : List PathStep)
  /-- It becomes a table with fields. -/
  | opens
  /-- An empty table is laid over it, which leaves what is there. -/
  | visits

/-- What comes of a setting, but for the fields that it has as a table. -/
def Ruling.act (before : Option Setting) : Ruling → Option Setting
  | gives v => some v
  | hides => none
  | edits v index steps => some (assign v (.item index :: steps) (before.getD .null))
  | opens => some (.table [])
  | visits => some (before.getD (.table []))

/-- What a value rules about what some names lead to from it. -/
def rulings : List String → Setting → List Ruling
  | [], .table [] => [.visits]
  | [], .table (_ :: _) => [.opens]
  | [], v => [.gives v]
  | name :: path, .table fields =>
    fields.flatMap fun (key, v) => if lowerCase key = name then rulings path v else []
  | _ :: _, _ => [.hides]

/-- What an assignment to a path rules. -/
def assignRulings (v : Setting) : List PathStep → List String → List Ruling
  | [], _ => []
  | .item index :: steps, [] => [.edits v index steps]
  | .item _ :: _, _ :: _ => [.hides]
  | .field _ :: _, [] => [.opens]
  | [.field key], name :: path => if lowerCase key = name then v.rulings path else []
  | .field key :: steps, name :: path => if key = name then assignRulings v steps path else []

end Setting

open Setting

/-- What a layer rules about what some names lead to, in the order of its assignments. -/
def Layer.rulings (layer : Layer) (path : List String) : List Ruling :=
  layer.flatMap fun (key, v) => assignRulings v (pathOfKey key) path

/-! ## How rulings are followed -/

namespace Setting

/-- A setting passes from one state to another as it is ruled. -/
def Follows (rulings : List Ruling) (before after : Option Setting) : Prop :=
  after.map outline = rulings.foldl Ruling.act (before.map outline)

section

variable {rulings later : List Ruling} {before middle after : Option Setting}

theorem Follows.refl (before : Option Setting) : Follows [] before before := rfl

theorem Follows.trans (h : Follows rulings before middle) (h' : Follows later middle after) :
    Follows (rulings ++ later) before after := by
  rw [Follows, h', h, List.foldl_append]

variable {α : Type} {laid : Setting → α → Setting} {rules : α → List Ruling} {path : List String}

/-- If each item of a list is laid over a value as it rules, then so is the list. -/
theorem Follows.foldl {items : List α}
    (h : ∀ item ∈ items, ∀ target : Setting,
      Follows (rules item) (target.find? path) ((laid target item).find? path))
    (target : Setting) :
    Follows (items.flatMap rules) (target.find? path) ((items.foldl laid target).find? path) := by
  induction items generalizing target with
  | nil => exact .refl _
  | cons item rest ih =>
    obtain ⟨first, h⟩ := List.forall_mem_cons.1 h
    rw [List.flatMap_cons]
    exact (first target).trans (ih h (laid target item))

end

/-! ## Fields -/

section

variable {fields : List (String × Setting)} {key name : String}

theorem lookup_replaced (fields : List (String × Setting)) (key : String) (v : Setting)
    (name : String) :
    (fields.map fun (k, old) => if k = key then (k, v) else (k, old)).lookup name =
      if key = name then (fields.lookup name).map fun _ => v else fields.lookup name := by
  induction fields with
  | nil => simp
  | cons field rest ih =>
    obtain ⟨first, old⟩ := field
    rw [List.map_cons]
    by_cases found : name = first
    · subst found
      by_cases replaced : name = key
      · simp [replaced]
      · simp [replaced, Ne.symm replaced]
    · have other : (name == first) = false := beq_false_of_ne found
      dsimp only
      split
      · rw [List.lookup_cons, other, ih, List.lookup_cons, other]
      · rw [List.lookup_cons, other, ih, List.lookup_cons, other]

theorem lookup_put (fields : List (String × Setting)) (key : String) (v : Setting)
    (name : String) :
    (put fields key v).lookup name = if key = name then some v else fields.lookup name := by
  unfold put
  by_cases there : fields.any (·.1 = key)
  · rw [if_pos there, lookup_replaced]
    by_cases same : key = name
    · subst same
      have found : fields.lookup key ≠ none := by
        rw [Ne, lookup_eq_none_iff_key, not_not]
        exact any_key_iff.1 there
      obtain ⟨old, found⟩ := Option.ne_none_iff_exists'.1 found
      simp [found]
    · simp [same]
  · rw [if_neg there, List.lookup_append]
    rw [any_key_iff, ← lookup_eq_none_iff_key] at there
    by_cases same : key = name
    · subst same
      simp [there]
    · have other : (name == key) = false := beq_false_of_ne (Ne.symm same)
      simp [same, List.lookup_cons, other]

end

theorem find?_put (target : Setting) (key : String) (v : Setting) (name : String)
    (path : List String) :
    (table (put target.fields key v)).find? (name :: path) =
      if key = name then v.find? path else target.find? (name :: path) := by
  rw [find?_cons, fields, lookup_put, find?_cons]
  split
  · rfl
  · rfl

/-! ## Values over values -/

variable {path : List String}

/-- A value is laid over a field. A table is merged with the one that is there, or with an empty
one. -/
theorem overlay_eq (target : Setting) (key : String) (v : Setting) :
    overlay target key v = .table (put target.fields (lowerCase key)
      (match v with
      | .table incoming =>
        overlayAll ((target.fields.lookup (lowerCase key)).getD (.table [])) incoming
      | v => v)) := by
  cases v <;> simp [overlay]

theorem overlayAll_eq_foldl (target : Setting) (fields : List (String × Setting)) :
    overlayAll target fields = fields.foldl (fun target (name, v) => overlay target name v)
      target := by
  induction fields generalizing target with
  | nil => simp [overlayAll]
  | cons field rest ih => rw [overlayAll, ih, List.foldl_cons]

theorem exists_overlayAll_eq_table (fields : List (String × Setting))
    (incoming : List (String × Setting)) :
    ∃ merged, overlayAll (.table fields) incoming = .table merged := by
  induction incoming generalizing fields with
  | nil => exact ⟨fields, by rw [overlayAll]⟩
  | cons field rest ih =>
    rw [overlayAll, overlay_eq]
    exact ih _

theorem rulings_nil_of_not_table {v : Setting} (h : ∀ fields, v ≠ .table fields) :
    v.rulings [] = [.gives v] := by
  cases v with
  | table fields => exact absurd rfl (h fields)
  | _ => rfl

theorem rulings_cons_of_not_table {v : Setting} (h : ∀ fields, v ≠ .table fields)
    (name : String) : v.rulings (name :: path) = [.hides] := by
  cases v with
  | table fields => exact absurd rfl (h fields)
  | _ => rfl

/-- What is not a table stands by itself under a name. -/
theorem follows_of_not_table {v : Setting} (h : ∀ fields, v ≠ .table fields)
    (before : Option Setting) : Follows (v.rulings path) before (v.find? path) := by
  cases path with
  | nil =>
    rw [rulings_nil_of_not_table h, find?_nil]
    exact congrArg some (outline_of_not_table h)
  | cons name path =>
    rw [rulings_cons_of_not_table h]
    cases v with
    | table fields => exact absurd rfl (h fields)
    | _ => rfl

/-- If tables are merged as they rule on a path, then so are fields on a longer one. -/
theorem overlay_follows_of
    (h : ∀ (target : Setting) (fields : List (String × Setting)),
      Follows ((table fields).rulings path) (target.find? path)
        ((overlayAll target fields).find? path))
    (target : Setting) (key : String) (v : Setting) (name : String) :
    Follows (if lowerCase key = name then v.rulings path else [])
      (target.find? (name :: path)) ((overlay target key v).find? (name :: path)) := by
  rw [overlay_eq, find?_put]
  by_cases same : lowerCase key = name
  · subst same
    rw [if_pos rfl, if_pos rfl]
    cases v with
    | table incoming =>
      dsimp only
      rw [find?_cons]
      cases found : target.fields.lookup (lowerCase key) with
      | some old => exact h old incoming
      | none =>
        -- What is merged with nothing is merged with an empty table.
        have merged := h (.table []) incoming
        cases path with
        | cons next path => exact merged
        | nil => cases incoming <;> exact merged
    | _ => exact follows_of_not_table (by simp) _
  · rw [if_neg same, if_neg same]
    exact .refl _

/-- A table is merged with a value as its fields rule. -/
theorem overlayAll_follows (path : List String) (target : Setting)
    (fields : List (String × Setting)) :
    Follows ((table fields).rulings path) (target.find? path)
      ((overlayAll target fields).find? path) := by
  induction path generalizing target fields with
  | nil =>
    cases fields with
    | nil =>
      rw [overlayAll]
      exact rfl
    | cons field rest =>
      rw [overlayAll, overlay_eq]
      obtain ⟨merged, hm⟩ := exists_overlayAll_eq_table _ rest
      rw [hm, find?_nil]
      exact rfl
  | cons name path ih =>
    rw [overlayAll_eq_foldl, rulings]
    exact Follows.foldl (fun field _ target => overlay_follows_of ih target field.1 field.2 name)
      target

theorem overlay_follows (target : Setting) (key : String) (v : Setting) (name : String)
    (path : List String) :
    Follows (if lowerCase key = name then v.rulings path else [])
      (target.find? (name :: path)) ((overlay target key v).find? (name :: path)) :=
  overlay_follows_of (overlayAll_follows path) target key v name

/-! ## Assignments over values -/

theorem assign_field_cons (v : Setting) (key : String) (next : PathStep) (steps : List PathStep)
    (target : Setting) :
    assign v (.field key :: next :: steps) target =
      .table (put target.fields key
        (assign v (next :: steps) ((target.fields.lookup key).getD .null))) := by
  rw [assign]
  simp

theorem assignRulings_field_cons (v : Setting) (key : String) (next : PathStep)
    (steps : List PathStep) (name : String) (path : List String) :
    assignRulings v (.field key :: next :: steps) (name :: path) =
      if key = name then assignRulings v (next :: steps) path else [] := by
  rw [assignRulings]
  simp

/-- The value is put in the place of the item, or assigned to what the steps lead to from there. -/
theorem assign_item (v : Setting) (index : Int) (steps : List PathStep) (target : Setting) :
    assign v (.item index :: steps) target =
      changeItem target index fun old => if steps = [] then v else assign v steps old := by
  cases steps with
  | nil => rw [assign]; rfl
  | cons next steps => rw [assign] <;> simp

/-- The items before its place are as they were, and so are those behind it. What is not there
counts as null. -/
theorem getElem?_changeItem (target : Setting) (index : Int) (change : Setting → Setting)
    (i : Nat) :
    (changeItem target index change).items[i]? =
      let place := position target.items.length index
      if i = place then some (change (target.items[i]?.getD .null))
      else if i < place then some (target.items[i]?.getD .null)
      else target.items[i]? := by
  show ((target.items ++ List.replicate (position target.items.length index + 1 -
    target.items.length) null).modify (position target.items.length index) change)[i]? = _
  generalize position target.items.length index = place
  dsimp only
  rw [List.getElem?_modify, List.getElem?_append, List.getElem?_replicate]
  by_cases there : i < target.items.length
  · rw [if_pos there, List.getElem?_eq_getElem there]
    by_cases here : i = place
    · simp [here]
    · simp [here, Ne.symm here]
  · rw [if_neg there, List.getElem?_eq_none (by omega)]
    by_cases here : i = place
    · subst here
      simp only [if_true, Option.getD_none]
      rw [if_pos (by omega)]
      rfl
    · rw [if_neg here]
      by_cases before : i < place
      · rw [if_pos (by omega), if_pos before]
        exact congrArg some (if_neg (Ne.symm here))
      · rw [if_neg (by omega), if_neg before]
        rfl

/-- An item of an array is assigned to. What the array was before only counts with its items. -/
theorem assign_item_follows (v : Setting) (index : Int) (steps : List PathStep) (target : Setting)
    (path : List String) (before : Option Setting) (hb : before.map items = some target.items ∨
      before = none ∧ target.items = []) :
    Follows (assignRulings v (.item index :: steps) path) before
      ((assign v (.item index :: steps) target).find? path) := by
  have array : ∃ items, assign v (.item index :: steps) target = .array items :=
    ⟨_, (assign_item ..).trans rfl⟩
  have same : assign v (.item index :: steps) ((before.map outline).getD .null) =
      assign v (.item index :: steps) target := by
    have items : ((before.map outline).getD .null).items = target.items := by
      rcases hb with hb | ⟨rfl, hb⟩
      · obtain ⟨found, rfl, hf⟩ := Option.map_eq_some_iff.1 hb
        simpa using hf
      · exact hb.symm
    rw [assign_item, assign_item, changeItem, changeItem, items]
  obtain ⟨items, array⟩ := array
  cases path with
  | nil =>
    rw [assignRulings, find?_nil, Follows, List.foldl_cons, List.foldl_nil, Ruling.act, same, array]
    rfl
  | cons name path =>
    rw [array]
    rfl

/-- An assignment to something in a value makes it a table or an array. -/
theorem assign_follows_nil (v : Setting) (step : PathStep) (steps : List PathStep)
    (target : Setting) (before : Option Setting) (hb : before.map items = some target.items ∨
      before = none ∧ target.items = []) :
    Follows (assignRulings v (step :: steps) []) before
      ((assign v (step :: steps) target).find? []) := by
  cases step with
  | item index => exact assign_item_follows v index steps target [] before hb
  | field key =>
    cases steps with
    | nil =>
      rw [assign, overlay_eq]
      exact rfl
    | cons next steps =>
      rw [assign_field_cons]
      exact rfl

/-- An assignment does what it rules. -/
theorem assign_follows (v : Setting) (steps : List PathStep) (target : Setting)
    (path : List String) :
    Follows (assignRulings v steps path) (target.find? path)
      ((assign v steps target).find? path) := by
  induction steps generalizing target path with
  | nil =>
    rw [assign, assignRulings]
    exact .refl _
  | cons step steps ih =>
    cases step with
    | item index =>
      cases path with
      | nil => exact assign_item_follows v index steps target [] _ (.inl rfl)
      | cons name path =>
        have array := assign_item v index steps target
        rw [array]
        exact rfl
    | field key =>
      cases path with
      | nil => exact assign_follows_nil v _ steps target _ (.inl rfl)
      | cons name path =>
        cases steps with
        | nil =>
          rw [assign, assignRulings]
          exact overlay_follows target key v name path
        | cons next steps =>
          rw [assignRulings_field_cons, assign_field_cons, find?_put]
          by_cases same : key = name
          · subst same
            rw [if_pos rfl, if_pos rfl, find?_cons]
            cases found : target.fields.lookup key with
            | some old => exact ih old path
            | none =>
              -- Null has no fields and no items, and an assignment in it turns it into something
              -- else.
              cases path with
              | nil => exact assign_follows_nil v next steps .null none (.inr ⟨rfl, rfl⟩)
              | cons further path => exact ih .null (further :: path)
          · rw [if_neg same, if_neg same]
            exact .refl _

/-! ## Layers over each other -/

theorem withLayer_follows (target : Setting) (layer : Layer) (path : List String) :
    Follows (layer.rulings path) (target.find? path) ((target.withLayer layer).find? path) :=
  Follows.foldl
    (fun entry _ target => assign_follows entry.2 (pathOfKey entry.1) target path) target

/-- What layers make of a setting is what comes of all that they rule on it. -/
theorem ofLayers_follows (layers : List Layer) (name : String) (path : List String) :
    Follows (layers.flatMap (Layer.rulings · (name :: path))) none
      ((ofLayers layers).find? (name :: path)) :=
  Follows.foldl (fun layer _ target => withLayer_follows target layer (name :: path)) (.table [])

/-! ## The last ruling -/

/-- An empty table does not matter to a setting that is there. -/
def Ruling.decides : Ruling → Bool
  | visits => false
  | _ => true

/-- The last ruling that decides on a setting. -/
def decisive? (rulings : List Ruling) : Option Ruling := rulings.reverse.find? Ruling.decides

theorem mem_of_decisive? {rulings : List Ruling} {ruling : Ruling}
    (h : decisive? rulings = some ruling) : ruling ∈ rulings :=
  List.mem_reverse.1 (List.mem_of_find?_eq_some h)

theorem decisive?_append (rulings later : List Ruling) :
    decisive? (rulings ++ later) = (decisive? later).or (decisive? rulings) := by
  rw [decisive?, List.reverse_append, List.find?_append, decisive?, decisive?]

theorem decisive?_flatMap {α : Type} (rules : α → List Ruling) (items : List α) :
    decisive? (items.flatMap rules) =
      items.reverse.findSome? fun item => decisive? (rules item) := by
  induction items using List.reverseRecOn with
  | nil => rfl
  | append_singleton items item ih =>
    rw [List.flatMap_append, List.flatMap_singleton, decisive?_append, List.reverse_append,
      List.findSome?_append, ih]
    cases hd : decisive? (rules item) <;> simp [hd]

/-- What comes of a setting, as far as the last ruling tells. -/
theorem followed_of_decisive? (rulings : List Ruling) :
    match decisive? rulings with
    | some (.gives v) => rulings.foldl Ruling.act none = some v
    | some (.edits ..) => ∃ items, rulings.foldl Ruling.act none = some (.array items)
    | some .opens | some .visits => rulings.foldl Ruling.act none = some (.table [])
    | some .hides | none =>
      rulings.foldl Ruling.act none = none ∨ rulings.foldl Ruling.act none = some (.table []) := by
  induction rulings using List.reverseRecOn with
  | nil => exact .inl rfl
  | append_singleton rulings ruling ih =>
    rw [decisive?_append, List.foldl_append, List.foldl_cons, List.foldl_nil]
    cases ruling with
    | gives v => exact rfl
    | hides => exact .inl rfl
    | edits v index steps => exact ⟨_, congrArg some (assign_item ..)⟩
    | opens => exact rfl
    | visits =>
      -- An empty table leaves what is there.
      rw [show decisive? [Ruling.visits] = none from rfl, Option.none_or]
      cases hd : decisive? rulings with
      | none =>
        rw [hd] at ih
        rcases ih with ih | ih <;> exact .inr (by rw [ih]; rfl)
      | some last =>
        rw [hd] at ih
        cases last with
        | gives v => exact congrArg (some <| Option.getD · (.table [])) ih
        | hides => rcases ih with ih | ih <;> exact .inr (by rw [ih]; rfl)
        | edits v index steps =>
          obtain ⟨items, ih⟩ := ih
          exact ⟨items, by rw [ih]; rfl⟩
        | opens => exact congrArg (some <| Option.getD · (.table [])) ih
        | visits => exact congrArg (some <| Option.getD · (.table [])) ih

end Setting

/-- The last ruling of a layer that decides on a setting. -/
def Layer.ruling? (layer : Layer) (path : List String) : Option Ruling :=
  decisive? (layer.rulings path)

/-! ## Keys -/

/-- The name of a step has no capital letters. -/
def PathStep.Small (step : PathStep) : Prop := ∀ name, step = .field name → lowerCase name = name

theorem PathStep.name_yields :
    PathStep.name.Yields fun step => ∃ name, step = .field name ∧ lowerCase name = name := by
  refine Scan.yields_bind fun cs => Scan.yields_pure ⟨lowerCase (String.ofList cs), ?_, ?_⟩
  · rw [lowerCase, String.toList_ofList]
  · exact lowerCase_lowerCase _

theorem PathStep.bracketed_yields : PathStep.bracketed.Yields Small := by
  have item (index : Int) : (PathStep.item index).Small := by simp [Small]
  refine Scan.yields_bind fun _ => Scan.yields_bind fun _ => Scan.yields_bind fun _ => ?_
  refine Scan.yields_bind fun _ => Scan.yields_bind fun _ => Scan.yields_bind fun _ => ?_
  exact Scan.yields_bind fun _ => Scan.yields_bind fun _ => Scan.yields_pure (item _)

/-- A key that is no path stands for itself. Otherwise its path starts with a name, and the names
have no capital letters. -/
theorem pathOfKey_cases (key : String) :
    pathOfKey key = [.field key] ∨
      ∃ name steps, pathOfKey key = .field name :: steps ∧
        ∀ step ∈ pathOfKey key, step.Small := by
  unfold pathOfKey
  dsimp only
  cases hp : Scan.all? _ key.toList with
  | none => exact .inl rfl
  | some path =>
    have name : PathStep.name.Yields PathStep.Small := fun cs rest step h => by
      obtain ⟨name, rfl, small⟩ := PathStep.name_yields h
      simpa [PathStep.Small] using small
    have dotted : (do Scan.exactly '.'; PathStep.name : Scan PathStep).Yields PathStep.Small :=
      Scan.yields_bind fun _ => name
    have more := (dotted.orElse PathStep.bracketed_yields).many
    have starts := Scan.Yields.all?
      (P := fun path => ∃ name steps, path = .field name :: steps ∧ ∀ step ∈ path, step.Small)
      (PathStep.name_yields.bind fun first ⟨name, hn, small⟩ => more.bind fun rest hr =>
        Scan.yields_pure ⟨name, rest, by rw [hn], by
          rw [hn]
          exact List.forall_mem_cons.2 ⟨by simpa [PathStep.Small] using small, hr⟩⟩) hp
    exact .inr starts

theorem exists_pathOfKey_eq (key : String) :
    ∃ name steps, pathOfKey key = .field name :: steps := by
  rcases pathOfKey_cases key with path | ⟨name, steps, path, -⟩
  · exact ⟨key, [], path⟩
  · exact ⟨name, steps, path⟩

theorem PathStep.name_takes : PathStep.name.Takes fun taken step =>
    step = .field (lowerCase (String.ofList taken)) := by
  refine (Scan.takes_chars₁ _).bind fun taken found hf => Scan.takes_pure ?_
  rw [List.append_nil, hf, lowerCase, String.toList_ofList]

/-- How a step that goes on from others is spelled, if it leads to a field. -/
def PathStep.Spelled (taken : List Char) (step : PathStep) : Prop :=
  ∀ name, step = .field name →
    ∃ word, taken = '.' :: word ∧ name = lowerCase (String.ofList word)

theorem PathStep.bracketed_takes : PathStep.bracketed.Takes Spelled := by
  have item (taken : List Char) (index : Int) : Spelled taken (.item index) := by simp [Spelled]
  have spaces := Scan.takes_chars fun c => c == ' ' || c == '\t'
  have negative : (Scan.accept '-').Takes fun _ _ => True :=
    (Scan.takes_exactly '-').optional.bind fun _ _ _ => Scan.takes_pure trivial
  refine (Scan.takes_exactly '[').bind fun _ _ _ => spaces.bind fun _ _ _ => ?_
  refine negative.bind fun _ _ _ => (Scan.takes_chars₁ _).bind fun _ _ _ => ?_
  refine (Scan.takes_lift _).bind fun _ _ _ => (Scan.takes_guard _).bind fun _ _ _ => ?_
  refine spaces.bind fun _ _ _ => (Scan.takes_exactly ']').bind fun _ _ _ => ?_
  exact Scan.takes_pure (item _ _)

/-- A key in small letters that leads to a field of a field is their names with a dot between. -/
theorem eq_of_pathOfKey {key outer name : String} (hk : lowerCase key = key)
    (h : pathOfKey key = [.field outer, .field name]) : key = outer ++ "." ++ name := by
  have dotted : (do Scan.exactly '.'; PathStep.name : Scan PathStep).Takes PathStep.Spelled := by
    refine (Scan.takes_exactly '.').bind fun dot _ hd => ?_
    refine PathStep.name_takes.mono fun word step hs name he => ⟨word, by rw [hd]; rfl, ?_⟩
    rw [hs] at he
    exact (PathStep.field.inj he).symm
  have more := (dotted.orElse PathStep.bracketed_takes).many
  revert h
  unfold pathOfKey
  dsimp only
  cases hp : Scan.all? _ key.toList with
  | none => simp
  | some path =>
    rintro rfl
    have read := Scan.Takes.all? (R := fun taken path => ∃ word pieces first rest,
      taken = word ++ pieces.flatten ∧ path = first :: rest ∧
        first = PathStep.field (lowerCase (String.ofList word)) ∧
        List.Forall₂ PathStep.Spelled pieces rest)
      (PathStep.name_takes.bind fun word first hf => more.bind fun others rest ⟨pieces, ho, hr⟩ =>
        Scan.takes_pure ⟨word, pieces, first, rest, by rw [ho, List.append_nil], rfl, hf, hr⟩) hp
    obtain ⟨word, pieces, first, rest, text, path, hf, spelled⟩ := read
    obtain ⟨rfl, rfl⟩ := List.cons_eq_cons.1 path
    obtain ⟨piece, pieces, hs, hnil, rfl⟩ := List.forall₂_cons_right_iff.1 spelled
    obtain rfl := List.forall₂_nil_right_iff.1 hnil
    obtain ⟨second, rfl, rfl⟩ := hs name rfl
    obtain rfl := PathStep.field.inj hf
    rw [← hk, ← String.toList_inj]
    simp only [lowerCase, String.toList_ofList, String.toList_append, text, List.flatten_cons,
      List.flatten_nil, List.append_nil, List.map_append, List.map_cons]
    simp

namespace Setting

theorem exists_withLayer_eq_table (fields : List (String × Setting)) (layer : Layer) :
    ∃ laid, (table fields).withLayer layer = .table laid := by
  induction layer generalizing fields with
  | nil => exact ⟨fields, rfl⟩
  | cons entry rest ih =>
    obtain ⟨name, steps, path⟩ := exists_pathOfKey_eq entry.1
    have first : ∃ laid, assign entry.2 (pathOfKey entry.1) (.table fields) = .table laid := by
      rw [path]
      cases steps with
      | nil => exact ⟨_, by rw [assign, overlay_eq]⟩
      | cons next steps => exact ⟨_, assign_field_cons ..⟩
    obtain ⟨laid, first⟩ := first
    rw [withLayer, List.foldl_cons]
    dsimp only
    rw [first]
    exact ih laid

/-- Layers always make a table. -/
theorem exists_ofLayers_eq_table (layers : List Layer) :
    ∃ fields, ofLayers layers = .table fields := by
  have laid (fields : List (String × Setting)) :
      ∃ laid, layers.foldl withLayer (.table fields) = .table laid := by
    induction layers generalizing fields with
    | nil => exact ⟨fields, rfl⟩
    | cons layer rest ih =>
      obtain ⟨next, first⟩ := exists_withLayer_eq_table fields layer
      rw [List.foldl_cons, first]
      exact ih next
  exact laid []

/-! ## What hides a setting -/

theorem hides_notMem_rulings_nil (v : Setting) : .hides ∉ v.rulings [] := by
  cases v with
  | table fields => cases fields <;> simp [rulings]
  | _ => simp [rulings]

/-- Within a value, only what is not a table hides its fields. -/
theorem gives_of_hides {v : Setting} {name : String} (h : .hides ∈ v.rulings [name]) :
    .gives v ∈ v.rulings [] := by
  cases v with
  | table fields =>
    rw [rulings, List.mem_flatMap] at h
    obtain ⟨field, -, hf⟩ := h
    dsimp only at hf
    split at hf
    · exact absurd hf (hides_notMem_rulings_nil field.2)
    · simp at hf
  | _ => exact List.mem_singleton_self _

/-- Within what an assignment goes on with, only an item hides fields. -/
theorem exists_item_of_hides {v : Setting} {steps : List PathStep} {name : String}
    (h : .hides ∈ assignRulings v steps [name]) : ∃ index rest, steps = .item index :: rest := by
  cases steps with
  | nil => simp [assignRulings] at h
  | cons step steps =>
    cases step with
    | item index => exact ⟨index, steps, rfl⟩
    | field key =>
      cases steps with
      | nil =>
        rw [assignRulings] at h
        split at h
        · exact absurd h (hides_notMem_rulings_nil v)
        · simp at h
      | cons next steps =>
        rw [assignRulings_field_cons] at h
        split at h
        · cases next <;> simp [assignRulings] at h
        · simp at h

end Setting

/-- Only what comes in the place of a section, or is assigned to an item of it, hides its
settings. -/
theorem Layer.exists_of_hides {layer : Layer} {outer name : String}
    (h : .hides ∈ layer.rulings [outer, name]) :
    (∃ v, .gives v ∈ layer.rulings [outer]) ∨
      ∃ v index steps, .edits v index steps ∈ layer.rulings [outer] := by
  obtain ⟨⟨entry, v⟩, hm, h⟩ := List.mem_flatMap.1 h
  have bears {ruling : Ruling} (hr : ruling ∈ assignRulings v (pathOfKey entry) [outer]) :
      ruling ∈ layer.rulings [outer] := List.mem_flatMap.2 ⟨(entry, v), hm, hr⟩
  obtain ⟨key, steps, path⟩ := exists_pathOfKey_eq entry
  dsimp only at h
  rw [path] at h bears
  cases steps with
  | nil =>
    rw [assignRulings] at h bears
    split at h
    · rename_i same
      refine .inl ⟨v, bears ?_⟩
      rw [if_pos same]
      exact gives_of_hides h
    · simp at h
  | cons next steps =>
    rw [assignRulings_field_cons] at h bears
    split at h
    · rename_i same
      obtain ⟨index, rest, he⟩ := exists_item_of_hides h
      refine .inr ⟨v, index, rest, bears ?_⟩
      rw [if_pos same, he]
      exact List.mem_singleton_self _
    · simp at h

end ActiveObjects

import ActiveObjects.Config.Variables
import ActiveObjects.Proofs.Config.Order
import ActiveObjects.Proofs.Text.Split

/-!
# Settings that variables name

The keys of variables are in small letters, so only one key leads to a setting. Of the variables
with this key the last one counts, in whatever order the keys are laid over other settings.
-/

namespace ActiveObjects

open Text

namespace Variables

/-- The text of the last variable that names a setting. -/
def naming? (vars : Variables) (outer name : String) : Option String :=
  (vars.reverse.find? fun entry =>
    (key? entry.1).map pathOfKey = some [.field outer, .field name]).map (·.2)

example : (key? "Runtime_EVENTS__Channel_Capacity").map pathOfKey =
    some [.field "events", .field "channel_capacity"] := by decide +kernel

/-- If variables give a value to a setting, it is what the last variable that names it looks like.
They leave the setting alone only if none names it. -/
def Names (vars : Variables) (laid : Layer) : Prop := ∀ part name : String,
  match laid.ruling? [part, name] with
  | none => vars.naming? part name = none
  | some (.gives v) => (vars.naming? part name).map setting = some v
  | some _ => True

theorem scalar_setting (text : String) : (setting text).Scalar := by
  unfold setting
  split
  · simp [Setting.Scalar]
  · simp [Setting.Scalar]
  · split <;> simp [Setting.Scalar]

theorem toLower_of_mem_dotted {cs : List Char} (h : ∀ c ∈ cs, c.toLower = c) :
    ∀ c ∈ dotted cs, c.toLower = c := by
  fun_induction dotted cs with
  | case1 rest ih =>
    have rest := ih fun c hc => h c (by simp [hc])
    exact List.forall_mem_cons.2 ⟨by decide, rest⟩
  | case2 c rest _ ih =>
    obtain ⟨first, rest⟩ := List.forall_mem_cons.1 h
    exact List.forall_mem_cons.2 ⟨first, ih rest⟩
  | case3 => simp

theorem lowerCase_of_key? {entry key : String} (h : key? entry = some key) :
    lowerCase key = key := by
  obtain ⟨rest, hr, rfl⟩ := Option.map_eq_some_iff.1 h
  have small : ∀ c ∈ rest, c.toLower = c := fun c hc => by
    have there : c ∈ entry.toList.map Char.toLower := by
      rw [after?_eq_some_iff.1 hr]
      exact List.mem_append_right _ hc
    obtain ⟨d, -, rfl⟩ := List.mem_map.1 there
    exact toLower_toLower d
  rw [lowerCase, String.toList_ofList, List.map_congr_left (toLower_of_mem_dotted small),
    List.map_id']

/-- Only the value itself comes in the place of a setting, and only where the key leads to it. -/
theorem gives_assignRulings {v u : Setting} (hv : v.Scalar) {key outer name : String}
    (h : .gives u ∈ Setting.assignRulings v (pathOfKey key) [outer, name]) :
    u = v ∧ pathOfKey key = [.field outer, .field name] := by
  rcases pathOfKey_cases key with path | ⟨first, steps, path, small⟩
  · rw [path, Setting.assignRulings, Setting.rulings_cons_of_not_table hv.1] at h
    split at h <;> simp at h
  rw [path] at h small ⊢
  cases steps with
  | nil =>
    rw [Setting.assignRulings, Setting.rulings_cons_of_not_table hv.1] at h
    split at h <;> simp at h
  | cons next steps =>
    rw [Setting.assignRulings_field_cons] at h
    split at h
    · rename_i same
      subst same
      cases next with
      | item index => simp [Setting.assignRulings] at h
      | field second =>
        cases steps with
        | nil =>
          rw [Setting.assignRulings, small (.field second) (by simp) second rfl,
            Setting.rulings_nil_of_not_table hv.1] at h
          split at h
          · rename_i same
            subst same
            exact ⟨by simpa using h, rfl⟩
          · simp at h
        | cons last steps =>
          rw [Setting.assignRulings_field_cons] at h
          split at h
          · cases last <;> simp [Setting.assignRulings] at h
          · simp at h
    · simp at h

theorem assignRulings_of_pathOfKey {v : Setting} (hv : v.Scalar) {key outer name : String}
    (path : pathOfKey key = [.field outer, .field name]) :
    Setting.assignRulings v (pathOfKey key) [outer, name] = [.gives v] := by
  rcases pathOfKey_cases key with plain | ⟨-, -, -, small⟩
  · rw [path] at plain
    simp at plain
  · rw [path] at small ⊢
    rw [Setting.assignRulings_field_cons, if_pos rfl, Setting.assignRulings,
      if_pos (small (.field name) (by simp) name rfl), Setting.rulings_nil_of_not_table hv.1]

/-- A setting of a section has one key, so the last variable that names it sets the last value for
this key. -/
theorem naming?_map_setting (vars : Variables) {key outer name : String}
    (small : lowerCase key = key) (path : pathOfKey key = [.field outer, .field name]) :
    (vars.naming? outer name).map setting = (vars.layer.reverse.find? (·.1 = key)).map (·.2) := by
  have named (entry : String × String) :
      ((key? entry.1).map fun key => (key, setting entry.2)).any (·.1 = key) =
        decide ((key? entry.1).map pathOfKey = some [.field outer, .field name]) := by
    cases hk : key? entry.1 with
    | none => simp
    | some found =>
      have same : found = key ↔ pathOfKey found = [.field outer, .field name] := by
        refine ⟨fun same => same ▸ path, fun leads => ?_⟩
        rw [eq_of_pathOfKey small path, eq_of_pathOfKey (lowerCase_of_key? hk) leads]
      simpa using same
  rw [layer, ← List.filterMap_reverse, List.find?_filterMap, naming?, funext named]
  cases hf : vars.reverse.find? fun entry =>
    (key? entry.1).map pathOfKey = some [.field outer, .field name] with
  | none => rfl
  | some entry =>
    have named := List.find?_some hf
    obtain ⟨key, hk, -⟩ := Option.map_eq_some_iff.1 (of_decide_eq_true named)
    simp [hk]

theorem scalar_of_mem_layer {vars : Variables} {field : String × Setting}
    (h : field ∈ vars.layer) : field.2.Scalar := by
  obtain ⟨entry, -, he⟩ := List.mem_filterMap.1 h
  obtain ⟨key, -, rfl⟩ := Option.map_eq_some_iff.1 he
  exact scalar_setting entry.2

theorem lowerCase_of_mem_layer {vars : Variables} {field : String × Setting}
    (h : field ∈ vars.layer) : lowerCase field.1 = field.1 := by
  obtain ⟨entry, -, he⟩ := List.mem_filterMap.1 h
  obtain ⟨key, hk, rfl⟩ := Option.map_eq_some_iff.1 he
  exact lowerCase_of_key? hk

theorem mem_layer {vars : Variables} {entry : String × String} {key : String} (h : entry ∈ vars)
    (hk : key? entry.1 = some key) : (key, setting entry.2) ∈ vars.layer := by
  refine List.mem_filterMap.2 ⟨entry, h, ?_⟩
  dsimp only
  rw [hk]
  rfl

section

variable {vars : Variables} {laid : Layer} {outer name : String}

theorem mem_layer_iff_of_reorders (h : laid.Reorders vars.layer) {field : String × Setting} :
    field ∈ laid ↔ field ∈ vars.layer := by
  constructor
  · intro hm
    obtain ⟨v, there, reordered⟩ := Setting.Reorders.exists_field h hm
    rwa [← reordered.symm.eq_of_scalar (scalar_of_mem_layer there)] at there
  · intro there
    obtain ⟨v, hm, reordered⟩ := Setting.Reorders.exists_field h.symm there
    rwa [reordered.eq_of_scalar (scalar_of_mem_layer there)] at hm

theorem find?_reverse_of_reorders (h : laid.Reorders vars.layer) (key : String) :
    laid.reverse.find? (·.1 = key) = vars.layer.reverse.find? (·.1 = key) := by
  have back : (Setting.table vars.layer).Reorders (.table laid) := h.symm
  have same : laid.filter (·.1 = key) = vars.layer.filter (·.1 = key) :=
    back.filter_fields (fun _ hm => scalar_of_mem_layer hm) key
  rw [← List.head?_filter, List.filter_reverse, same, ← List.filter_reverse, List.head?_filter]

theorem ruling?_eq_findSome? (laid : Layer) (path : List String) :
    laid.ruling? path = laid.reverse.findSome? fun field =>
      Setting.decisive? (Setting.assignRulings field.2 (pathOfKey field.1) path) :=
  Setting.decisive?_flatMap ..

/-- A variable that names a setting gives it a value. -/
theorem decisive?_of_pathOfKey (field : String × Setting) (hv : field.2.Scalar)
    (path : pathOfKey field.1 = [.field outer, .field name]) :
    Setting.decisive? (Setting.assignRulings field.2 (pathOfKey field.1) [outer, name]) =
      some (.gives field.2) := by
  rw [assignRulings_of_pathOfKey hv path]
  rfl

theorem naming?_eq_none_of_ruling? (h : laid.Reorders vars.layer)
    (undecided : laid.ruling? [outer, name] = none) : vars.naming? outer name = none := by
  rw [ruling?_eq_findSome?, List.findSome?_eq_none_iff] at undecided
  rw [naming?, Option.map_eq_none_iff, List.find?_eq_none]
  intro entry hm leads
  obtain ⟨key, hk, path⟩ := Option.map_eq_some_iff.1 (of_decide_eq_true leads)
  have set := (mem_layer_iff_of_reorders h).2 (mem_layer (List.mem_reverse.1 hm) hk)
  have decided := decisive?_of_pathOfKey (key, setting entry.2) (scalar_setting entry.2) path
  rw [undecided _ (List.mem_reverse.2 set)] at decided
  cases decided

theorem naming?_of_ruling? (h : laid.Reorders vars.layer) {v : Setting}
    (given : laid.ruling? [outer, name] = some (.gives v)) :
    (vars.naming? outer name).map setting = some v := by
  rw [ruling?_eq_findSome?, List.findSome?_eq_some_iff] at given
  obtain ⟨later, field, before, order, decided, silent⟩ := given
  have scalar : ∀ other ∈ laid.reverse, other.2.Scalar := fun other ho =>
    scalar_of_mem_layer ((mem_layer_iff_of_reorders h).1 (List.mem_reverse.1 ho))
  have there : field ∈ laid.reverse := by simp [order]
  obtain ⟨rfl, path⟩ := gives_assignRulings (scalar field there)
    (Setting.mem_of_decisive? decided)
  have small := lowerCase_of_mem_layer ((mem_layer_iff_of_reorders h).1 (List.mem_reverse.1 there))
  have last : laid.reverse.find? (·.1 = field.1) = some field := by
    refine List.find?_eq_some_iff_append.2 ⟨by simp, later, before, order, fun other ho => ?_⟩
    have differs : other.1 ≠ field.1 := fun same => by
      have decided := decisive?_of_pathOfKey other (scalar other (by simp [order, ho]))
        (same ▸ path : pathOfKey other.1 = [.field outer, .field name])
      rw [silent other ho] at decided
      cases decided
    simpa using differs
  rw [naming?_map_setting vars small path, ← find?_reverse_of_reorders h, last]
  rfl

end

/-- In every order, a variable that names a setting gives it its value, unless another one hides the
setting, opens it or edits it. -/
theorem names_of_reorders {vars : Variables} {laid : Layer} (h : laid.Reorders vars.layer) :
    vars.Names laid := by
  intro part name
  split
  · rename_i undecided
    exact naming?_eq_none_of_ruling? h undecided
  · rename_i v given
    exact naming?_of_ruling? h given
  · trivial

end Variables

end ActiveObjects

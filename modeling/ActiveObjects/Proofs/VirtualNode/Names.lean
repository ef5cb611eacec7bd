import ActiveObjects.Proofs.Text.Split
import ActiveObjects.Proofs.VirtualNode.Membership

/-!
# Keys of virtual nodes

A key has no slash. Read as a name in its turn it has itself as its key, unless it still ends with
the suffix: then its key is what stands before the suffix, which comes earlier in the order of keys.
-/

namespace ActiveObjects

namespace VirtualNode

open Text

variable {name : String}

theorem length_nameSuffix : nameSuffix.length = 3 := by decide

/-- The name has no slash, as keys have none. -/
def Bare (name : String) : Prop := '/' ∉ name.toList

/-- A key that has itself as its key. -/
def Plain (key : String) : Prop := VirtualNode.key key = key

instance (key : String) : Decidable (Plain key) := inferInstanceAs (Decidable (_ = _))

/-- What stands after the last slash loses the suffix if it has it, and is the key if not. -/
theorem key_cases (name : String) :
    ∃ last ∈ pieces (· == '/') name.toList,
      (∃ start, last = start ++ nameSuffix.toList ∧ key name = String.ofList start) ∨
        (¬ nameSuffix.toList <:+ last ∧ key name = String.ofList last) := by
  have hne := pieces_ne_nil (· == '/') name.toList
  refine ⟨_, List.getLast_mem hne, ?_⟩
  unfold key
  rw [List.getLast?_eq_some_getLast hne, Option.getD_some]
  generalize (pieces (· == '/') name.toList).getLast hne = last
  dsimp only
  cases ha : after? nameSuffix.toList.reverse last.reverse with
  | some rest =>
    rw [after?_eq_some_iff, List.reverse_eq_iff] at ha
    exact .inl ⟨rest.reverse, by simpa using ha, rfl⟩
  | none =>
    refine .inr ⟨?_, rfl⟩
    rintro ⟨start, rfl⟩
    have found : after? nameSuffix.toList.reverse (start ++ nameSuffix.toList).reverse =
        some start.reverse := after?_eq_some_iff.2 (by simp)
    rw [ha] at found
    cases found

theorem bare_key (name : String) : Bare (key name) := by
  obtain ⟨last, hm, ⟨start, rfl, hk⟩ | ⟨-, hk⟩⟩ := key_cases name <;>
    rw [Bare, hk, String.toList_ofList] <;> intro hs
  · exact not_isCut_of_mem_pieces hm '/' (List.mem_append_left _ hs) rfl
  · exact not_isCut_of_mem_pieces hm '/' hs rfl

theorem Bare.pieces_eq (h : Bare name) : pieces (· == '/') name.toList = [name.toList] := by
  refine pieces_eq_singleton fun c hc => ?_
  simp only [beq_iff_eq]
  rintro rfl
  exact h hc

theorem Bare.key_append (h : Bare name) : key (name ++ nameSuffix) = name := by
  have hb : Bare (name ++ nameSuffix) := by
    rw [Bare, String.toList_append, List.mem_append, not_or]
    exact ⟨h, by decide⟩
  obtain ⟨last, hm, hc⟩ := key_cases (name ++ nameSuffix)
  rw [hb.pieces_eq, List.mem_singleton, String.toList_append] at hm
  subst hm
  rcases hc with ⟨start, hs, hk⟩ | ⟨hn, -⟩
  · rw [hk, ← List.append_cancel_right hs, String.ofList_toList]
  · exact absurd (List.suffix_append _ _) hn

theorem Bare.eq_key_append (h : Bare name) (hp : ¬ Plain name) :
    name = key name ++ nameSuffix := by
  obtain ⟨last, hm, ⟨start, hs, hk⟩ | ⟨-, hk⟩⟩ := key_cases name <;>
    rw [h.pieces_eq, List.mem_singleton] at hm <;> subst hm
  · rw [hk, ← String.toList_inj, String.toList_append, String.toList_ofList, hs]
  · exact absurd (hk.trans (String.ofList_toList ..)) hp

/-- The names that are their own keys are those that do not end with the suffix. -/
theorem Bare.plain_iff (h : Bare name) : Plain name ↔ ∀ front, name ≠ front ++ nameSuffix := by
  constructor
  · rintro hp front rfl
    have hf : Bare front := by
      rw [Bare, String.toList_append, List.mem_append, not_or] at h
      exact h.1
    rw [Plain, hf.key_append] at hp
    have hlen := congrArg String.length hp
    rw [String.length_append, length_nameSuffix] at hlen
    omega
  · intro hn
    by_contra hp
    exact hn _ (h.eq_key_append hp)

/-- A name comes before the same name with the suffix. -/
theorem compare_append (name : String) : compare name (name ++ nameSuffix) = .lt := by
  show compareOfLessAndEq name (name ++ nameSuffix) = .lt
  rw [compareOfLessAndEq_eq_lt, String.lt_iff, String.toList_append]
  have later : name.toList ++ [] < name.toList ++ nameSuffix.toList :=
    List.append_left_lt (by decide)
  rwa [List.append_nil] at later

end VirtualNode

/-! ## Tracked groups -/

/-- Something holds of the keys and URLs of all groups, given the URL of the runtime. -/
def Runtime.EachGroup (Q : Url → String → Url → Prop) (runtime : Runtime) : Prop :=
  ∀ ⦃key : String⦄ ⦃group : VirtualNodeGroup⦄, runtime.groups[key]? = some group →
    Q runtime.url key group.url

variable {Q : Url → String → Url → Prop}

/-- Groups come of groups with the same URLs, or it holds of them anyway. -/
theorem Runtime.EachGroup.of_sources {runtime runtime' : Runtime} (h : runtime.EachGroup Q)
    (hu : runtime'.url = runtime.url)
    (hs : ∀ key group, runtime'.groups[key]? = some group →
      (∃ before, runtime.groups[key]? = some before ∧ before.url = group.url) ∨
        Q runtime.url key group.url) : runtime'.EachGroup Q := by
  intro key group hg
  rw [hu]
  rcases hs key group hg with ⟨before, hb, same⟩ | hq
  · exact same ▸ h hb
  · exact hq

theorem Touches.eachGroup {parts : List Part} {s s' : Site} (h : Touches parts s s')
    (hi : .identity ∉ parts) (hg : .groups ∉ parts) : Preserves (Runtime.EachGroup Q) s s' := by
  obtain ⟨-, -, hu, -⟩ := h .identity hi
  have groups : s'.runtime.groups = s.runtime.groups := h .groups hg
  exact fun he => he.of_sources hu fun key group hk => .inl ⟨group, groups ▸ hk, rfl⟩

/-- The URL of the runtime is the same when the group is enrolled as when its name was read. -/
theorem Runtime.registerVirtualNode_eachGroup {name : String}
    (hq : ∀ (runtime : Runtime) url, runtime.nodeUrl name = .ok url →
      Q runtime.url (VirtualNode.key name) url) (replaceIfBound : Bool) :
    Moves (Preserves (EachGroup Q)) (attempt (registerVirtualNode name replaceIfBound)) := by
  intro site he
  have quiet (s s' : Site) (h : Touches [.naming, .log, .events] s s') :
      Preserves (fun runtime => runtime.url = site.runtime.url ∧ runtime.EachGroup Q) s s' := by
    obtain ⟨-, -, hu, -⟩ := h .identity (by decide)
    rintro ⟨hs, he⟩
    exact ⟨hu.trans hs, h.eachGroup (by decide) (by decide) he⟩
  refine (registerVirtualNode_movesFrom quiet name replaceIfBound (fun url hname => ?_) ⟨rfl, he⟩).2
  refine .modify ?_
  rintro start ⟨hs, he⟩
  refine ⟨hs, he.of_sources rfl fun key group hg => ?_⟩
  have hg : (start.runtime.groups.enroll (VirtualNode.key name) url
      (site.runtime.nodes.taggedWith name))[key]? = some group := hg
  rw [GroupTable.getElem?_enroll] at hg
  split at hg
  · rename_i hk
    have hurl : group.url = url := by
      rw [← Option.some.inj hg]
      cases start.runtime.groups[key]? <;> simp
    rw [hs, ← hk, hurl]
    exact .inr (hq site.runtime url hname)
  · exact .inl ⟨group, hg, rfl⟩

/-- What holds of the groups that names stand for holds of all groups at any time. -/
theorem lasting_eachGroup (hq : ∀ (runtime : Runtime) name url, runtime.nodeUrl name = .ok url →
    Q runtime.url (VirtualNode.key name) url) : Lasting (Runtime.EachGroup Q) := by
  refine .of_tables (fun ht hi _ hg => ht.eachGroup hi hg) ?_ ?_ ?_ ?_
    (fun name => Runtime.registerVirtualNode_eachGroup fun runtime => hq runtime name) ?_
  · intro request runtime ho key group hg
    rw [(Runtime.ofRequest_fresh ho).2.2.2.1] at hg
    simp at hg
  · intro spec site
    refine Runtime.createLocalNode_movesFrom (fun _ _ h => h.eachGroup (by decide) (by decide))
      spec ?_
    intro node _ site h
    obtain ⟨-, -, hu, -⟩ := Node.install_touches node site .identity (by decide)
    refine h.of_sources hu fun key group hg => .inl ?_
    rw [(Node.install_tables node site).2, Node.getElem?_regroup] at hg
    obtain ⟨before, hb, rfl⟩ := Option.map_eq_some_iff.1 hg
    exact ⟨before, hb, (Node.url_regrouped ..).symm⟩
  · intro url site h
    obtain ⟨-, -, hu, -⟩ := Node.tearDown_touches url site .identity (by decide)
    refine h.of_sources hu fun key group hg => .inl ?_
    rw [(Node.tearDown_tables url site).2.1, GroupTable.getElem?_detach] at hg
    obtain ⟨before, hb, rfl⟩ := Option.map_eq_some_iff.1 hg
    exact ⟨before, hb, rfl⟩
  · intro tag site h
    obtain ⟨-, -, hu, -⟩ := Node.setDefaultTag_touches tag site .identity (by decide)
    refine h.of_sources hu fun key group hg => .inl ?_
    rw [(Node.setDefaultTag_tables tag site).2, GroupTable.getElem?_foldl_attach] at hg
    obtain ⟨before, hb, rfl⟩ := Option.map_eq_some_iff.1 hg
    refine ⟨before, hb, ?_⟩
    split <;> simp
  · intro key
    refine .modify fun site h => h.of_sources rfl fun other group hg => .inl ?_
    have hg : (Std.ExtTreeMap.erase site.runtime.groups key)[other]? = some group := hg
    rw [Std.ExtTreeMap.getElem?_erase] at hg
    split at hg
    · cases hg
    · exact ⟨group, hg, rfl⟩

/-- The keys of the groups that a runtime tracks have no slash. -/
def Runtime.BareKeys (runtime : Runtime) : Prop :=
  ∀ ⦃key : String⦄ ⦃group : VirtualNodeGroup⦄, runtime.groups[key]? = some group →
    VirtualNode.Bare key

theorem lasting_bareKeys : Lasting Runtime.BareKeys :=
  lasting_eachGroup (Q := fun _ key _ => VirtualNode.Bare key)
    fun _ name _ _ => VirtualNode.bare_key name

end ActiveObjects

import ActiveObjects.Proofs.Node.Tags
import ActiveObjects.Proofs.Url.Display

/-!
# Spellings of groups

All operations that take the name of a group go by its key. So a spelling addresses a group if its
key is that of the group. The key of a group does so with the suffix behind it, but alone only if it
does not end with the suffix already. The URL of a group does so only if the name in it has the key
of the text that it was read from.
-/

namespace ActiveObjects

open Site Text

namespace VirtualNode

/-! ## Keys of URLs -/

/-- What stands before the last slash does not count. -/
theorem Bare.key_eq {name text : String} (h : Bare name) {front : List Char}
    (ht : text.toList = front ++ '/' :: name.toList) : key text = key name := by
  have last : (pieces (· == '/') text.toList).getLast? =
      (pieces (· == '/') name.toList).getLast? := by
    rw [ht, pieces_append rfl, h.pieces_eq, List.getLast?_concat]
    rfl
  rw [key, key, last]

/-- The key of a URL is that of the name in it. -/
theorem key_display (url : Url) : key url.display = key url.name := by
  have bare : Bare url.name := url.slash_notMem_name
  have written : url.display.toList = (url.tag.toList ++ ':' :: '/' :: '/' ::
      (url.host.toList ++ ':' :: Url.digits url.port)) ++ '/' :: url.name.toList := by
    rw [Url.display, Url.toList_written]
    simp
  exact bare.key_eq written

end VirtualNode

/-- The name in the URL of the group has the key of the group. -/
def VirtualNodeGroup.Titled (group : VirtualNodeGroup) : Prop :=
  VirtualNode.key group.url.name = group.name

instance (group : VirtualNodeGroup) : Decidable group.Titled := inferInstanceAs (Decidable (_ = _))

/-- A name without a slash is the name in the URL that it stands for. -/
theorem Runtime.name_of_nodeUrl {runtime : Runtime} {name : String} {url : Url}
    (h : runtime.nodeUrl name = .ok url) (hb : VirtualNode.Bare name) : url.name = name := by
  have slash : ¬ name.toList.contains '/' := fun hs => hb (List.contains_iff_mem.1 hs)
  rw [nodeUrl, if_neg slash, mapError_eq_ok_iff] at h
  exact (Url.new_eq_ok_iff.1 h).2.2.2.symm

/-! ## Tags in a spelling -/

/-- A node that is put there is a member of the group that its tag stands for, and of no other. -/
theorem Node.Creates.mem_members_iff {spec : NodeSpec} {owner : RuntimeHandle} {site site' : Site}
    {node : Node} {spelling key : String} {url : Url} {group : VirtualNodeGroup}
    (h : Creates spec owner site (.ok node) site') (hg : site'.runtime.Grouped)
    (ht : spec.virtualNode.or site.runtime.defaultTag = some spelling)
    (hu : site.runtime.nodeUrl spec.name = .ok url)
    (hn : spec.replaceIfBound = false → url ∉ site.runtime.nodes)
    (hk : site.runtime.groups[key]? = some group) :
    ∃ group', site'.runtime.groups[key]? = some group' ∧
      (url ∈ group'.members ↔ key = VirtualNode.key spelling) := by
  cases h with
  | kept hurl hnode hkeep =>
    obtain rfl := Except.ok.inj (hu.symm.trans (Runtime.nodeUrl_of_entryUrl hurl))
    exact absurd (mem_iff_exists_getElem?.2 ⟨_, hnode⟩) (hn hkeep)
  | installed hurl _ _ _ nodes groups =>
    obtain rfl := Except.ok.inj (hu.symm.trans (Runtime.nodeUrl_of_entryUrl hurl))
    have there := Node.getElem?_regroup (.ofSpec spec url site.runtime) site.runtime.nodes[url]?
      site.runtime.groups key
    rw [hk, Option.map_some, ← groups] at there
    refine ⟨_, there, ?_⟩
    have own : (Node.ofSpec spec url site.runtime).url = url := rfl
    have tag : (Node.ofSpec spec url site.runtime).virtualNode = some spelling := ht
    rw [(hg.lists there).mem_iff, nodes]
    refine (NodeTable.tagged_insert (Node.ofSpec spec url site.runtime)).trans ?_
    rw [if_pos own, tag, Option.any_some, decide_eq_true_iff, eq_comm]

namespace Fleet

variable {fleet : Fleet} {steps : List Step} {place : RuntimeId} {runtime : Runtime} {key : String}
  {group : VirtualNodeGroup}

/-- Each group is under the URL of a name that has its key. -/
theorem exists_name_of_group
    (hr : (({} : Fleet).after steps).world.runtime? place = some runtime)
    (hg : runtime.groups[key]? = some group) :
    ∃ name, VirtualNode.key name = key ∧ runtime.nodeUrl name = .ok group.url := by
  have named : Lasting (Runtime.EachGroup fun own key url => ∀ runtime : Runtime,
      runtime.url = own → ∃ name, VirtualNode.key name = key ∧ runtime.nodeUrl name = .ok url) :=
    lasting_eachGroup fun _ name _ hu _ same =>
      ⟨name, rfl, (Runtime.nodeUrl_congr same name).trans hu⟩
  exact each_after named steps place runtime hr hg runtime rfl

/-! ## Operations that take the name of a group -/

/-- A spelling stands for the group of this key, and for no other, in all operations that take the
name of a group. -/
structure Addresses (fleet : Fleet) (place : RuntimeId) (runtime : Runtime)
    (spelling key : String) : Prop where
  found : runtime.groups.find? spelling = runtime.groups[key]?
  /-- The group goes unless its URL fails to be unbound. -/
  forgotten {after : Runtime}
    (ha : (fleet.next (.call place (.unregisterVirtualNode spelling))).world.runtime? place =
      some after) (other : String) (group : VirtualNodeGroup) :
    after.groups[other]? = some group ↔
      runtime.groups[other]? = some group ∧
        ¬ (other = key ∧ fleet.world.naming.LetsGo group.url)
  /-- A node that is put there with the spelling as its tag, be it as the default, is then a member
  of that group alone. -/
  tagged {spec : NodeSpec} {url : Url} {after : Runtime}
    (ht : spec.virtualNode.or runtime.defaultTag = some spelling)
    (hu : runtime.nodeUrl spec.name = .ok url)
    (hn : spec.replaceIfBound = false → url ∉ runtime.nodes)
    (hok : (fleet.outcome (.call place (.createLocalNode spec))).1 = .ok ())
    (ha : (fleet.next (.call place (.createLocalNode spec))).world.runtime? place = some after)
    {other : String} {group : VirtualNodeGroup} (hg : runtime.groups[other]? = some group) :
    ∃ group', after.groups[other]? = some group' ∧ (url ∈ group'.members ↔ other = key)
  /-- The nodes without a tag join that group when the spelling becomes the default. -/
  defaulted {after : Runtime}
    (hok : (fleet.outcome (.call place (.setDefaultTag spelling))).1 = .ok ())
    (ha : (fleet.next (.call place (.setDefaultTag spelling))).world.runtime? place = some after) :
    after.defaultTag = some spelling ∧ ∀ other : String,
      after.groups[other]? = runtime.groups[other]?.map fun group =>
        if other = key then (runtime.nodes.untagged.map (·.url)).foldl .join group else group

theorem addresses_key (hs : fleet.Sound) (hg : fleet.world.Each Runtime.Grouped)
    (hr : fleet.world.runtime? place = some runtime) (spelling : String) :
    fleet.Addresses place runtime spelling (VirtualNode.key spelling) where
  found := rfl
  forgotten := by
    intro after ha other group
    obtain ⟨site, rfl, hrun⟩ := exists_run_of_call hs.world hr ha
    have last : ((attempt (VirtualNode.unregister spelling)).run (fleet.world.site runtime)).2 =
        site := (run_attempt_discard _ _).symm.trans (congrArg Prod.snd hrun)
    have forgets : VirtualNode.Forgets spelling (fleet.world.site runtime) site :=
      last ▸ (VirtualNode.run_unregister rfl).2
    rw [forgets.groups, Runtime.getElem?_forget, eq_comm (b := other)]
    exact Iff.rfl
  tagged := by
    intro spec url after ht hu hn hok ha other group hgroup
    have grouped : after.Grouped := each_next lasting_grouped hg _ place after ha
    obtain ⟨site, rfl, hrun⟩ := exists_run_of_call hs.world hr ha
    rw [hok, Call.action, run_attempt_bind] at hrun
    rcases hc : (attempt (Runtime.createLocalNode spec)).run (fleet.world.site runtime) with
      ⟨_ | found, last⟩ <;> rw [hc] at hrun <;> cases hrun
    rcases Runtime.run_createLocalNode hc with ⟨-, he, -⟩ | ⟨-, _ | node, he, created⟩
    · cases he
    · cases he
    · exact created.mem_members_iff grouped ht hu hn hgroup
  defaulted := by
    intro after hok ha
    obtain ⟨site, rfl, hrun⟩ := exists_run_of_call hs.world hr ha
    have run : (attempt (Runtime.setDefaultTag spelling)).run (fleet.world.site runtime) =
        (.ok (), site) := hok ▸ hrun
    rw [Runtime.setDefaultTag, Runtime.run_ensureRunning] at run
    split at run
    · obtain rfl := congrArg Prod.snd run
      refine ⟨Node.setDefaultTag_defaultTag spelling _, fun other => ?_⟩
      have groups := (Node.setDefaultTag_tables spelling (fleet.world.site runtime)).2
      refine (congrArg (·[other]?) groups).trans ?_
      simp only [GroupTable.getElem?_foldl_attach, eq_comm (b := other)]
      rfl
    · cases run

/-- The group that a spelling addresses is that of its key. -/
theorem addresses_iff (hs : fleet.Sound) (hg : fleet.world.Each Runtime.Grouped)
    (hr : fleet.world.runtime? place = some runtime) (hgroup : runtime.groups[key]? = some group)
    {spelling : String} :
    fleet.Addresses place runtime spelling key ↔ VirtualNode.key spelling = key := by
  constructor
  · intro h
    have found : runtime.groups[VirtualNode.key spelling]? = some group := h.found.trans hgroup
    have grouped := hg place runtime hr
    exact (grouped.lists found).name.symm.trans (grouped.lists hgroup).name
  · rintro rfl
    exact addresses_key hs hg hr spelling

/-- After every run, a spelling addresses a group that is tracked if its key is the name of the
group. So the name with the suffix always does, the name alone unless it ends with the suffix, and
the URL of the group if the name in it has that key. This is so after a registration under a name
without a slash. Of the groups that share a URL at most one is addressed by it. -/
theorem spellings_of_group (hr : (({} : Fleet).after steps).world.runtime? place = some runtime)
    (hg : runtime.groups[key]? = some group) :
    group.name = key ∧
    (∀ spelling, (({} : Fleet).after steps).Addresses place runtime spelling group.name ↔
      VirtualNode.key spelling = group.name) ∧
    (({} : Fleet).after steps).Addresses place runtime (group.name ++ VirtualNode.nameSuffix)
      group.name ∧
    ((({} : Fleet).after steps).Addresses place runtime group.name group.name ↔
      ∀ front, group.name ≠ front ++ VirtualNode.nameSuffix) ∧
    ((({} : Fleet).after steps).Addresses place runtime group.url.display group.name ↔
      group.Titled) ∧
    (∃ name, VirtualNode.key name = group.name ∧ runtime.nodeUrl name = .ok group.url ∧
      (VirtualNode.Bare name → group.Titled)) ∧
    ∀ (other : String) (group' : VirtualNodeGroup), runtime.groups[other]? = some group' →
      group'.url = group.url → group.Titled → group'.Titled → other = key := by
  have grouped := each_after lasting_grouped steps
  have named {key : String} {group : VirtualNodeGroup}
      (hg : runtime.groups[key]? = some group) : group.name = key :=
    ((grouped place runtime hr).lists hg).name
  obtain rfl := named hg
  have bare : VirtualNode.Bare group.name := each_after lasting_bareKeys steps place runtime hr hg
  have addresses {spelling : String} :
      (({} : Fleet).after steps).Addresses place runtime spelling group.name ↔
        VirtualNode.key spelling = group.name :=
    addresses_iff (sound_after steps) grouped hr hg
  refine ⟨rfl, fun _ => addresses, addresses.2 bare.key_append, ?_, ?_, ?_, ?_⟩
  · rw [addresses]
    exact bare.plain_iff
  · rw [addresses, VirtualNode.key_display]
    rfl
  · obtain ⟨name, hk, hu⟩ := exists_name_of_group hr hg
    exact ⟨name, hk, hu, fun hb => (congrArg _ (Runtime.name_of_nodeUrl hu hb)).trans hk⟩
  · intro other group' hg' same titled titled'
    rw [← named hg', ← titled', same, titled]

/-- The key of the first group still ends with the suffix. The last name is read as the URL of the
second group, but has another key. -/
def respelling : List Step :=
  [opening 1 1099, .call 1 (.registerVirtualNode "g_VN_VN" true),
    .call 1 (.registerVirtualNode "g" true),
    .call 1 (.registerVirtualNode "pa://localhost:1099/%67" true)]

theorem spellings_of_group_respelling :
    ∃ runtime group, (({} : Fleet).after respelling).world.runtime? 1 = some runtime ∧
      runtime.groups["g"]? = some group ∧ group.url.display = "pa://localhost:1099/g" ∧
      ∀ spelling ∈ ["g", "g_VN", "pa://localhost:1099/g"],
        (({} : Fleet).after respelling).Addresses 1 runtime spelling "g" := by
  have h : ((({} : Fleet).after respelling).world.runtime? 1).any fun runtime =>
      runtime.groups["g"]?.any fun group =>
        group.url.display = "pa://localhost:1099/g" ∧ group.Titled := by decide +kernel
  obtain ⟨runtime, hr, h⟩ := (Option.any_eq_true _ _).1 h
  obtain ⟨group, hg, h⟩ := (Option.any_eq_true _ _).1 h
  obtain ⟨written, titled⟩ := of_decide_eq_true h
  obtain ⟨name, -, suffixed, bare, full, -⟩ := spellings_of_group hr hg
  rw [name] at suffixed bare full
  have slashless : '/' ∉ "g".toList := by decide
  have plain : VirtualNode.Plain "g" := by decide +kernel
  refine ⟨runtime, group, hr, hg, written, ?_⟩
  simp only [List.forall_mem_cons, List.not_mem_nil, false_imp_iff, implies_true, and_true]
  exact ⟨bare.2 ((VirtualNode.Bare.plain_iff slashless).1 plain), suffixed, written ▸ full.2 titled⟩

/-- The first group is not addressed by its name, nor the last one by its URL, which is that of the
second group too. -/
theorem misaddressed_after_respelling :
    ∃ runtime suffixed plain escaped,
      (({} : Fleet).after respelling).world.runtime? 1 = some runtime ∧
      runtime.groups["g_VN"]? = some suffixed ∧ runtime.groups["g"]? = some plain ∧
      runtime.groups["%67"]? = some escaped ∧
      runtime.groups.find? suffixed.name = some plain ∧ suffixed ≠ plain ∧
      escaped.url = plain.url ∧ runtime.groups.find? escaped.url.display = some plain ∧
      escaped ≠ plain := by
  have h : ((({} : Fleet).after respelling).world.runtime? 1).any fun runtime =>
      runtime.groups["g_VN"]?.any fun suffixed => runtime.groups["g"]?.any fun plain =>
        runtime.groups["%67"]?.any fun escaped =>
          runtime.groups.find? suffixed.name = some plain ∧ suffixed ≠ plain ∧
            escaped.url = plain.url ∧ runtime.groups.find? escaped.url.display = some plain ∧
              escaped ≠ plain := by decide +kernel
  obtain ⟨runtime, hr, h⟩ := (Option.any_eq_true _ _).1 h
  obtain ⟨suffixed, hs, h⟩ := (Option.any_eq_true _ _).1 h
  obtain ⟨plain, hp, h⟩ := (Option.any_eq_true _ _).1 h
  obtain ⟨escaped, he, h⟩ := (Option.any_eq_true _ _).1 h
  exact ⟨runtime, suffixed, plain, escaped, hr, hs, hp, he, of_decide_eq_true h⟩

end Fleet

end ActiveObjects

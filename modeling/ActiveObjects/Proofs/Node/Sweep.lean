import ActiveObjects.Proofs.Naming.Calls
import ActiveObjects.Proofs.Node.Tables
import ActiveObjects.Proofs.Table

/-!
# Killing nodes unbinds their URLs

A node that is killed goes together with the binding of its URL, whoever made that. It stays, and so
does the binding, when its URL fails to be unregistered.
-/

namespace ActiveObjects

/-- The URL of the node of a name, if there is such a node. -/
def Runtime.killUrls (runtime : Runtime) (name : String) : List Url :=
  match runtime.nodeUrl name with
  | .error _ => []
  | .ok url => if url ∈ runtime.nodes then [url] else []

theorem Runtime.nodup_killUrls (runtime : Runtime) (name : String) :
    (runtime.killUrls name).Nodup := by
  unfold killUrls
  split
  · exact List.nodup_nil
  · split
    · exact List.nodup_singleton _
    · exact List.nodup_nil

namespace Node

open Site

variable {urls : List Url} {url : Url} {site site' site'' : Site}

/-- What becomes of a site when the nodes at some URLs are killed in turn, as far as names are
concerned. -/
structure Kills (urls : List Url) (site site' : Site) : Prop where
  url : site'.runtime.url = site.runtime.url
  nodes (url : Url) (node : Node) :
    site'.runtime.nodes[url]? = some node ↔
      site.runtime.nodes[url]? = some node ∧ ¬ (url ∈ urls ∧ site.naming.LetsGo url)
  groups (key : String) :
    site'.runtime.groups[key]?.map (·.url) = site.runtime.groups[key]?.map (·.url)
  names : site'.naming = site.naming.releaseAll urls

namespace Kills

/-- Lines of the log do not matter. -/
theorem of_touches (h : Kills urls site site') (ht : Touches [.log] site' site'') :
    Kills urls site site'' := by
  have naming : site''.naming = site'.naming := ht .naming (by decide)
  have runtime : site''.runtime = site'.runtime := (ht.mono (by decide)).runtime_eq
  exact ⟨runtime ▸ h.url, runtime ▸ h.nodes, runtime ▸ h.groups, naming ▸ h.names⟩

/-- Nothing is killed. -/
theorem of_same (hn : site'.naming = site.naming) (hs : site'.runtime = site.runtime) :
    Kills [] site site' where
  url := by rw [hs]
  nodes url node := by simp [hs]
  groups key := by rw [hs]
  names := hn

theorem mem_nodes_iff (h : Kills urls site site') {url : Url} :
    url ∈ site'.runtime.nodes ↔
      url ∈ site.runtime.nodes ∧ ¬ (url ∈ urls ∧ site.naming.LetsGo url) := by
  simp only [mem_iff_exists_getElem?, h.nodes, exists_and_right]

/-- One more node. -/
theorem concat (h : Kills urls site site') (h' : Kills [url] site' site'') (hu : url ∉ urls) :
    Kills (urls ++ [url]) site site'' where
  url := h'.url.trans h.url
  nodes other node := by
    rw [h'.nodes, h.nodes, h.names, and_assoc]
    refine and_congr_right fun _ => ?_
    rw [← not_or, List.mem_append, or_and_right]
    refine not_congr (or_congr_right ?_)
    simp only [List.mem_singleton]
    refine and_congr_right ?_
    rintro rfl
    exact Naming.letsGo_releaseAll hu
  groups key := (h'.groups key).trans (h.groups key)
  names := by rw [h'.names, h.names, Naming.releaseAll_append]

end Kills

/-! ## One node -/

/-- A node whose URL is let go is torn down. -/
theorem kills_tearDown {middle : Site} (hn : middle.naming = site.naming.release url)
    (hs : middle.runtime = site.runtime) (hl : site.naming.LetsGo url) :
    Kills [url] site ((tearDown url).run middle).2 := by
  obtain ⟨nodes, groups, -⟩ := tearDown_tables url middle
  have touched := tearDown_touches url middle
  have naming : ((tearDown url).run middle).2.naming = middle.naming := touched .naming (by decide)
  obtain ⟨-, -, address, -⟩ := touched .identity (by decide)
  rw [hs] at nodes groups address
  constructor
  · exact address
  · intro other node
    rw [nodes, Std.ExtTreeMap.getElem?_erase]
    by_cases ho : url = other
    · subst ho
      simp [hl]
    · simp [ho, Ne.symm ho]
  · intro key
    rw [groups, GroupTable.getElem?_detach, Option.map_map]
    rfl
  · rw [naming, hn, Naming.releaseAll_singleton]

/-- A node whose URL fails to be unregistered stays. -/
theorem kills_refused (hn : site'.naming = site.naming.release url)
    (hs : site'.runtime = site.runtime) (hl : ¬ site.naming.LetsGo url) :
    Kills [url] site site' where
  url := by rw [hs]
  nodes other node := by
    rw [hs, List.mem_singleton]
    refine (and_iff_left ?_).symm
    rintro ⟨rfl, hlet⟩
    exact hl hlet
  groups key := by rw [hs]
  names := by rw [hn, Naming.releaseAll_singleton]

theorem kill_kills (name : String) (site : Site) :
    Kills (site.runtime.killUrls name) site ((attempt (kill name)).run site).2 := by
  rw [kill, run_attempt_bind, run_attempt_ask, Runtime.killUrls]
  cases hu : site.runtime.nodeUrl name with
  | error e => exact .of_same rfl rfl
  | ok url =>
    dsimp only
    rw [run_attempt_get_bind]
    cases hf : site.runtime.nodes[url]? with
    | none =>
      have absent : url ∉ site.runtime.nodes := by
        rw [mem_iff_exists_getElem?, hf]
        simp
      rw [if_neg absent]
      exact .of_same rfl rfl
    | some node =>
      rw [if_pos (mem_iff_exists_getElem?.2 ⟨node, hf⟩)]
      obtain ⟨middle, hn, hs, hrun⟩ :=
        Registry.run_unregister_bind url (tearDown url) (fun _ => some node) site
      dsimp only
      rw [hrun]
      dsimp only
      split <;> rename_i hl
      · exact kills_tearDown hn hs hl
      · exact kills_refused hn hs hl

/-! ## All nodes -/

theorem sweepOne_kills (report : SweepReport) (ht : url ∈ site.runtime.nodes) :
    Kills [url] site ((sweepOne report url).run site).2 := by
  obtain ⟨node, hf⟩ := mem_iff_exists_getElem?.1 ht
  rw [sweepOne, run_get_bind, hf]
  dsimp only
  rcases hr : (attempt (Registry.unregister url)).run site with ⟨result, middle⟩
  obtain ⟨hresult, hn, hs⟩ := Registry.run_unregister hr
  rw [StateT.run_bind, hr]
  rcases result with e | outcome
  · have hl : ¬ site.naming.LetsGo url := by
      rw [Naming.letsGo_iff, ← hresult]
      rintro ⟨outcome, ho⟩
      cases ho
    exact kills_refused hn hs hl
  · have hl : site.naming.LetsGo url := Naming.letsGo_iff.2 ⟨outcome, hresult.symm⟩
    cases outcome with
    | unbound =>
      have torn := kills_tearDown hn hs hl
      exact torn
    | wasAbsent =>
      -- The warning comes first.
      let warned : Site :=
        { middle with log := ⟨.warn, "Tracked node was not bound"⟩ :: middle.log }
      have torn := kills_tearDown (show warned.naming = _ from hn) hs hl
      exact torn

theorem killAll_kills (site : Site) :
    Kills site.runtime.nodes.keys site (killAll.run site).2 := by
  have swept : Kills site.runtime.nodes.keys site
      ((site.runtime.nodes.keys.foldlM sweepOne {}).run site).2 := by
    refine run_foldlM_induction (P := fun done _ last => Kills done site last) (.of_same rfl rfl) ?_
    intro done url rest report middle hd h
    have fresh : url ∉ done := by
      have distinct : site.runtime.nodes.keys.Nodup := Std.ExtTreeMap.nodup_keys
      rw [hd] at distinct
      exact fun hm => List.disjoint_of_nodup_append distinct hm List.mem_cons_self
    have tracked : url ∈ middle.runtime.nodes := by
      refine h.mem_nodes_iff.2 ⟨Std.ExtTreeMap.mem_keys.1 (by simp [hd]), fun hk => fresh hk.1⟩
    exact h.concat (sweepOne_kills report tracked) fresh
  have told (report : SweepReport) : Moves (Touches [.log]) (do
      if !report.isClean then logLine .warn "Node sweep finished with failures"
      return report : Work SweepReport) :=
    .ite (.bind (logLine_touches (by decide) _ _) fun _ => .pure _) (.pure _)
  exact swept.of_touches (told _ _)

end Node

end ActiveObjects

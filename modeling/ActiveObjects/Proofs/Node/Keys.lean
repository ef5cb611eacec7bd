import ActiveObjects.Proofs.Runtime.Operations

/-!
# Nodes under their own URLs

The table of a runtime holds each node under the URL of the node. Only four operations change the
table: they insert a node under its URL, drop one, or give tags to those that have none.
-/

namespace ActiveObjects

open Site

namespace NodeTable

/-- Each node is found under its own URL. -/
def Keyed (table : NodeTable) : Prop :=
  ∀ (url : Url) (node : Node), table[url]? = some node → node.url = url

theorem keyed_empty : Keyed ∅ := by
  intro url node h
  simp at h

theorem Keyed.insert {table : NodeTable} (h : Keyed table) (node : Node) :
    Keyed (Std.ExtTreeMap.insert table node.url node) := by
  intro url other ho
  rw [Std.ExtTreeMap.getElem?_insert] at ho
  split at ho
  · cases ho
    exact Std.LawfulEqOrd.eq_of_compare ‹_›
  · exact h url other ho

theorem Keyed.erase {table : NodeTable} (h : Keyed table) (url : Url) :
    Keyed (Std.ExtTreeMap.erase table url) := by
  intro other node ho
  rw [Std.ExtTreeMap.getElem?_erase] at ho
  split at ho
  · cases ho
  · exact h other node ho

theorem Keyed.tagUntagged {table : NodeTable} (h : Keyed table) (tag : String) :
    Keyed (tagUntagged table tag) := by
  intro url node ho
  rw [NodeTable.tagUntagged, Std.ExtTreeMap.getElem?_map] at ho
  obtain ⟨before, hb, rfl⟩ := Option.map_eq_some_iff.1 ho
  split
  · exact h url before hb
  · exact h url before hb

end NodeTable

/-- The nodes of a runtime are found under their own URLs. -/
def Runtime.NodesKeyed (runtime : Runtime) : Prop := runtime.nodes.Keyed

theorem Touches.nodesKeyed {parts : List Part} {s s' : Site} (h : Touches parts s s')
    (hn : .nodes ∉ parts) : Preserves Runtime.NodesKeyed s s' := by
  intro hk
  have hs : s'.runtime.nodes = s.runtime.nodes := h .nodes hn
  rw [Runtime.NodesKeyed, hs]
  exact hk

namespace Node

theorem install_nodesKeyed (node : Node) : Moves (Preserves Runtime.NodesKeyed) (install node) :=
  install_moves (fun _ _ h => h.nodesKeyed (by decide)) node (.modify fun _ h => h.insert node)

theorem tearDown_nodesKeyed (url : Url) :
    Moves (Preserves Runtime.NodesKeyed) (tearDown url) :=
  tearDown_moves (fun _ _ h => h.nodesKeyed (by decide)) url (.modify fun _ h => h.erase url)
    (.modify fun _ h => h)

theorem setDefaultTag_nodesKeyed (tag : String) :
    Moves (Preserves Runtime.NodesKeyed) (setDefaultTag tag) :=
  setDefaultTag_moves (fun _ _ h => h.nodesKeyed (by decide)) tag
    (.modify fun _ h => h.tagUntagged tag)

end Node

end ActiveObjects

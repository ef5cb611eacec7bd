import ActiveObjects.Proofs.Node.Tables
import ActiveObjects.Runtime.Operations

/-!
# The picture that an observer has

An observer can keep a picture of the nodes, groups and peers of a runtime, and change it with each
event. Changes of the tables of a runtime are changes of the picture of it.
-/

namespace ActiveObjects

/-- The job of each node, the URL of each group, and the names of the peers. -/
@[ext]
structure DirectoryView where
  jobs : Std.ExtTreeMap Url String := ∅
  groups : Std.ExtTreeMap String Url := ∅
  peers : Std.ExtTreeSet String := ∅

namespace DirectoryView

def apply (view : DirectoryView) : RuntimeEvent → DirectoryView
  | .nodeCreated _ url jobId _ => { view with jobs := view.jobs.insert url jobId }
  | .nodeKilled _ url => { view with jobs := view.jobs.erase url }
  | .virtualNodeRegistered _ name url => { view with groups := view.groups.insert name url }
  | .virtualNodeUnregistered _ name => { view with groups := view.groups.erase name }
  | .peerRegistered _ name => { view with peers := view.peers.insert name }
  | .peerUnregistered _ name => { view with peers := view.peers.erase name }
  | _ => view

/-- Applies events in the order in which they were published. -/
def replay (view : DirectoryView) (events : List RuntimeEvent) : DirectoryView :=
  events.foldl apply view

theorem replay_append (view : DirectoryView) (events later : List RuntimeEvent) :
    view.replay (events ++ later) = (view.replay events).replay later :=
  List.foldl_append

end DirectoryView

/-! ## Tables in the picture -/

namespace NodeTable

def jobs (table : NodeTable) : Std.ExtTreeMap Url String := table.map fun _ node => node.jobId

theorem jobs_insert (table : NodeTable) (url : Url) (node : Node) :
    jobs (table.insert url node) = table.jobs.insert url node.jobId := by
  ext1 other
  simp only [jobs, Std.ExtTreeMap.getElem?_map, Std.ExtTreeMap.getElem?_insert]
  split <;> rfl

theorem jobs_erase (table : NodeTable) (url : Url) :
    jobs (table.erase url) = table.jobs.erase url := by
  ext1 other
  simp only [jobs, Std.ExtTreeMap.getElem?_map, Std.ExtTreeMap.getElem?_erase]
  split <;> rfl

theorem jobs_tagUntagged (table : NodeTable) (tag : String) :
    (table.tagUntagged tag).jobs = table.jobs := by
  ext1 url
  simp only [jobs, tagUntagged, Std.ExtTreeMap.getElem?_map, Option.map_map]
  congr 1
  funext node
  simp only [Function.comp_apply]
  split <;> rfl

end NodeTable

namespace GroupTable

def urls (table : GroupTable) : Std.ExtTreeMap String Url := table.map fun _ group => group.url

/-- Work on the members of groups leaves the URLs. -/
theorem urls_eq_of_map {groups groups' : GroupTable}
    {f : String → VirtualNodeGroup → VirtualNodeGroup}
    (h : ∀ key, groups'[key]? = groups[key]?.map (f key))
    (hf : ∀ key group, (f key group).url = group.url) : groups'.urls = groups.urls := by
  ext1 key
  simp only [urls, Std.ExtTreeMap.getElem?_map, h, Option.map_map]
  congr 1
  funext group
  exact hf key group

theorem urls_detach (groups : GroupTable) (node : Url) : (groups.detach node).urls = groups.urls :=
  urls_eq_of_map (groups.getElem?_detach node) fun _ _ => rfl

theorem urls_regroup (node : Node) (previous : Option Node) (groups : GroupTable) :
    (Node.regroup node previous groups).urls = groups.urls := by
  apply urls_eq_of_map (Node.getElem?_regroup node previous groups)
  exact Node.url_regrouped node previous

theorem urls_foldl_attach (groups : GroupTable) (name : String) (nodes : List Url) :
    (nodes.foldl (·.attach name ·) groups).urls = groups.urls := by
  apply urls_eq_of_map (groups.getElem?_foldl_attach name nodes)
  intro key group
  split <;> simp

theorem urls_enroll (groups : GroupTable) (name : String) (url : Url) (members : List Url) :
    (groups.enroll name url members).urls = groups.urls.insert name url := by
  ext1 key
  simp only [urls, Std.ExtTreeMap.getElem?_map, Std.ExtTreeMap.getElem?_insert, getElem?_enroll]
  by_cases h : name = key
  · subst h
    cases hg : groups[name]? <;> simp
  · simp [h]

theorem urls_erase (groups : GroupTable) (key : String) :
    urls (groups.erase key) = groups.urls.erase key := by
  ext1 other
  simp only [urls, Std.ExtTreeMap.getElem?_map, Std.ExtTreeMap.getElem?_erase]
  split <;> rfl

end GroupTable

namespace AcquaintanceDirectory

def names (directory : AcquaintanceDirectory) : Std.ExtTreeSet String :=
  .ofList directory.peers.keys

theorem mem_names {directory : AcquaintanceDirectory} {name : String} :
    name ∈ directory.names ↔ name ∈ directory.peers := by
  simp [names]

theorem names_register (directory : AcquaintanceDirectory) (peer : PeerRuntime) :
    (directory.register peer).names = directory.names.insert peer.name := by
  ext name
  simp [mem_names, register]

theorem names_unregister (directory : AcquaintanceDirectory) (name : String) :
    (directory.unregister name).names = directory.names.erase name := by
  ext other
  simp [mem_names, unregister]

end AcquaintanceDirectory

/-- The picture of a runtime that is right. -/
def Runtime.view (runtime : Runtime) : DirectoryView where
  jobs := runtime.nodes.jobs
  groups := runtime.groups.urls
  peers := runtime.directory.names

end ActiveObjects

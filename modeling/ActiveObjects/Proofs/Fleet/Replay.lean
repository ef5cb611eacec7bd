import ActiveObjects.Proofs.Event.Replay
import ActiveObjects.Proofs.Fleet.Addresses
import ActiveObjects.Proofs.Fleet.Invariant

/-!
# Following a runtime over a run

Over any run, what a runtime publishes is all that an observer needs to keep the picture of its
nodes, groups and peers up to date. Who listens from the start needs no picture to begin with.
-/

namespace ActiveObjects

namespace World

variable {world : World} {place : RuntimeId} {runtime : Runtime}

/-- An observer of one runtime can follow what goes on at any runtime. -/
theorem act_followed {α : Type} {action : Action α} (hk : world.Keyed)
    (ha : Moves Replays (attempt action)) (actor : RuntimeId)
    (hr : world.runtime? place = some runtime) :
    ∃ runtime', ((act actor action).run world).2.runtime? place = some runtime' ∧
      runtime.FollowedBy runtime' := by
  rcases runtime?_act hk ha (fun _ replays => replays.id) place with
    same | ⟨before, site, hb, replays, hs⟩
  · exact ⟨runtime, same.trans hr, .refl runtime⟩
  · cases hb.symm.trans hr
    exact ⟨site.runtime, hs, replays⟩

end World

namespace Fleet

variable {fleet : Fleet} {place : RuntimeId} {runtime : Runtime}

theorem followed_next (hk : fleet.world.Keyed) (hr : fleet.world.runtime? place = some runtime)
    (step : Step) :
    ∃ runtime', (fleet.next step).world.runtime? place = some runtime' ∧
      runtime.FollowedBy runtime' := by
  have changed := fleet.change_next step
  generalize (fleet.next step).world = world at changed ⊢
  have unchanged : ∃ runtime', fleet.world.runtime? place = some runtime' ∧
      runtime.FollowedBy runtime' := ⟨runtime, hr, .refl runtime⟩
  cases changed with
  | idle step => exact unchanged
  | @started request hn =>
    have hp : request.id ≠ place := by
      rintro rfl
      cases hr.symm.trans hn
    rw [World.runtime?_start_of_ne hp]
    exact unchanged
  | naming naming => exact unchanged
  | registries registries => exact unchanged
  | called actor call => exact World.act_followed hk (call.action_replays _) actor hr
  | shipped source target id node =>
    exact World.act_followed hk (Runtime.beginMigration_replays id) source hr
  | delivered i target node body =>
    exact World.act_followed hk (Runtime.receiveBody_replays node body) target hr
  | settled i source id left target answer =>
    exact World.act_followed hk (Runtime.endMigration_replays id left target answer) source hr

/-- Whatever is done to a runtime and elsewhere, the events that the runtime publishes on the way
turn the picture of it at the start, one by one, into the picture of it at the end. -/
theorem view_after (hk : fleet.world.Keyed) (hr : fleet.world.runtime? place = some runtime)
    (steps : List Step) :
    ∃ runtime' later, (fleet.after steps).world.runtime? place = some runtime' ∧
      runtime'.events.published = runtime.events.published ++ later ∧
      runtime'.view = runtime.view.replay later := by
  have followed : ∃ runtime', (fleet.after steps).world.runtime? place = some runtime' ∧
      runtime.FollowedBy runtime' := by
    induction steps generalizing fleet runtime with
    | nil => exact ⟨runtime, hr, .refl runtime⟩
    | cons step steps ih =>
      obtain ⟨result, advance⟩ := next_advance hk step
      obtain ⟨middle, hm, first⟩ := followed_next hk hr step
      obtain ⟨last, hl, later⟩ := ih advance.keyed hm
      exact ⟨last, hl, first.trans later⟩
  obtain ⟨runtime', hr', -, later, hl, hv⟩ := followed
  exact ⟨runtime', later, hr', hl, hv⟩

def peerUrl : Url :=
  ⟨"pa", "localhost", 2099, "r", by decide +kernel, by decide +kernel, by decide +kernel⟩

/-- A node is replaced by one with another job. Then all names are lost, and the node `n` cannot be
unbound by the sweep and by the shutdown. -/
def eventful : List Step :=
  [.call 1 (.createLocalNode { name := "m", jobId := "first" }),
    .call 1 (.createLocalNode { name := "m", jobId := "second" }),
    .call 1 (.registerVirtualNode "g" true),
    .call 1 (.registerRuntime ⟨"p", ⟨2, peerUrl⟩, "", "", ""⟩),
    .naming { fault := fun call url =>
      if call = .unbind ∧ url.name = "n" then some (.transportFailure "down" none) else none },
    .call 1 .killAllNodes, .call 1 .kill]

/-- Seven events lead to the picture of a runtime that has the node `n` and a peer left. -/
theorem view_after_eventful :
    ∃ runtime runtime' later,
      (({} : Fleet).after [opening 1 1099]).world.runtime? 1 = some runtime ∧
      ((({} : Fleet).after [opening 1 1099]).after eventful).world.runtime? 1 = some runtime' ∧
      runtime'.events.published = runtime.events.published ++ later ∧
      runtime'.view = runtime.view.replay later ∧ later.length = 7 ∧
      runtime'.nodes.names = ["n"] ∧ runtime'.groups.isEmpty ∧
      runtime'.directory.peers.keys = ["p"] := by
  have h : (({} : Fleet).after [opening 1 1099]).world.runtime? 1 |>.any fun runtime =>
      (((({} : Fleet).after [opening 1 1099]).after eventful).world.runtime? 1).any fun runtime' =>
        runtime'.events.published.length = runtime.events.published.length + 7 ∧
        runtime'.nodes.names = ["n"] ∧ runtime'.groups.isEmpty ∧
        runtime'.directory.peers.keys = ["p"] := by decide +kernel
  obtain ⟨runtime, hr, h⟩ := (Option.any_eq_true _ _).1 h
  obtain ⟨runtime', hr', h⟩ := (Option.any_eq_true _ _).1 h
  obtain ⟨hlength, nodes, groups, peers⟩ := of_decide_eq_true h
  obtain ⟨last, later, hl, published, view⟩ :=
    view_after (sound_after [opening 1 1099]).world hr eventful
  cases hr'.symm.trans hl
  rw [published, List.length_append] at hlength
  have hseven : later.length = 7 := by omega
  exact ⟨runtime, runtime', later, hr, hr', published, view, hseven, nodes, groups, peers⟩

end Fleet

/-! ## From the start -/

/-- All that was ever published gives the picture. -/
def Runtime.Told (runtime : Runtime) : Prop :=
  runtime.view = ({} : DirectoryView).replay runtime.events.published

theorem Replays.told {s s' : Site} (h : Replays s s') : Preserves Runtime.Told s s' := by
  intro told
  obtain ⟨later, hl, hv⟩ := h.later
  rw [Runtime.Told, hv, hl, told, DirectoryView.replay_append]

theorem lasting_told : Lasting Runtime.Told where
  start h := by
    obtain ⟨-, -, nodes, groups, -, published, directory⟩ := Runtime.ofRequest_fresh h
    rw [Runtime.Told, Runtime.view, nodes, groups, directory, published]
    rfl
  boot config := (Runtime.boot_replays config).mono fun _ _ h => h.told
  call constructors call := (call.action_replays constructors).mono fun _ _ h => h.told
  beginMigration id := (Runtime.beginMigration_replays id).mono fun _ _ h => h.told
  receiveBody node body := (Runtime.receiveBody_replays node body).mono fun _ _ h => h.told
  endMigration id left target answer :=
    (Runtime.endMigration_replays id left target answer).mono fun _ _ h => h.told

/-- Who has heard all events of a runtime knows its nodes, groups and peers. -/
theorem Fleet.view_of_published (steps : List Step) {place : RuntimeId} {runtime : Runtime}
    (hr : (({} : Fleet).after steps).world.runtime? place = some runtime) :
    runtime.view = ({} : DirectoryView).replay runtime.events.published :=
  each_after lasting_told steps place runtime hr

end ActiveObjects

import ActiveObjects.Proofs.Fleet.Addresses
import ActiveObjects.Proofs.Migration.Whole
import ActiveObjects.Proofs.Runtime.Creation
import ActiveObjects.Proofs.Runtime.Roster
import ActiveObjects.Proofs.Url.Canonical
import ActiveObjects.Proofs.VirtualNode.Sweep

/-!
# Addressing nodes by their URLs

A name without a slash stands for a URL at the endpoint of the runtime, which is put together from
the settings as they are. A whole URL is read, and its host is then written anew. So a node can be
addressed by the URL under which it is tracked exactly if its endpoint is written as it is read.
-/

namespace ActiveObjects

namespace Url

/-! ## Endpoints that are read as they are written -/

/-- The host is written as it is when it was read, but in small letters, and the scheme is not that
of files. -/
def Regular (u : Url) : Prop :=
  u.tag ≠ "file" ∧ ∃ host, HostForm (SchemeKind.of u.tag).isSpecial host ∧ lowerCase host = u.host

variable {u v : Url}

/-- Exactly the regular URLs are read from their written forms. -/
theorem parse_display_iff : parse u.display = .ok u ↔ u.Regular := by
  refine ⟨fun h => ?_, fun ⟨hfile, _, hform, hhost⟩ => parse_display_of_form hfile hform hhost⟩
  obtain ⟨hfile, -, found, hread, hhost⟩ := of_parse_display h
  have hfault := (partsFault?_eq_none_iff.1 u.noFault).2.1
  have hform :=
    HostForm.of_readHost_self hread (host_ne_nil hfault) (hhost ▸ hfault) (by rw [hhost])
  exact ⟨hfile, found, hform, hhost⟩

instance (u : Url) : Decidable u.Regular :=
  decidable_of_iff ((parse u.display).toOption = some u)
    (toOption_eq_some_iff.trans parse_display_iff)

theorem sameEndpoint_iff :
    u.sameEndpoint v ↔ u.tag = v.tag ∧ u.host = v.host ∧ u.port = v.port := by
  simp [sameEndpoint, and_assoc]

/-- Whether a URL is regular is a matter of its endpoint. -/
theorem regular_congr (h : u.sameEndpoint v) : u.Regular ↔ v.Regular := by
  obtain ⟨ht, hh, -⟩ := sameEndpoint_iff.1 h
  rw [Regular, Regular, ht, hh]

/-- Under a scheme of its own a URL is regular unless it holds an IPv6 address in another spelling
than the one that addresses are written in. -/
theorem regular_iff_of_plain (h : SchemeKind.of u.tag = .plain) :
    u.Regular ↔ (u.host.toList.head? = some '[' → ∃ x : Ipv6, u.host = bracketed x) := by
  have hfile : u.tag ≠ "file" := by
    intro hf
    rw [hf] at h
    exact absurd h (by decide)
  rw [Regular, h, and_iff_right hfile]
  constructor
  · rintro ⟨host, hform, hhost⟩ hopen
    cases hform with
    | brackets x => exact ⟨x, hhost ▸ lowerCase_bracketed x⟩
    | @escaped text ne_nil noBracket =>
      rw [← hhost, toList_lowerCase, String.toList_ofList, List.head?_map] at hopen
      obtain ⟨c, hc, hl⟩ := Option.map_eq_some_iff.1 hopen
      exact absurd (toLower_eq_bracket_iff.1 hl ▸ hc) noBracket
  · intro hx
    by_cases hopen : u.host.toList.head? = some '['
    · obtain ⟨x, hx⟩ := hx hopen
      exact ⟨u.host, hx ▸ .brackets x, u.lowerCase_host⟩
    · have hne := host_ne_nil (partsFault?_eq_none_iff.1 u.noFault).2.1
      have hform : HostForm false (String.ofList u.host.toList) := .escaped hne hopen
      rw [String.ofList_toList] at hform
      exact ⟨u.host, hform, u.lowerCase_host⟩

end Url

open Site

namespace Runtime

variable {runtime : Runtime} {url : Url}

theorem nodeUrl_display_iff : runtime.nodeUrl url.display = .ok url ↔ url.Regular := by
  have slash : url.display.toList.contains '/' = true := by
    rw [Url.display, Url.toList_written]
    simp
  rw [nodeUrl, if_pos slash, mapError_eq_ok_iff, Url.parse_display_iff]

/-- The name of a URL stands for the URL if this is at the endpoint of the runtime. -/
theorem nodeUrl_name (h : url.sameEndpoint runtime.url) : runtime.nodeUrl url.name = .ok url := by
  obtain ⟨ht, hh, hp⟩ := Url.sameEndpoint_iff.1 h
  have slash : ¬ url.name.toList.contains '/' :=
    fun hs => url.slash_notMem_name (List.contains_iff_mem.1 hs)
  rw [nodeUrl, if_neg slash, Url.withName, ← ht, ← hh, ← hp, Url.new_self]
  rfl

/-- A name without a slash stays at the endpoint of the runtime, and the others are read. -/
theorem sameEndpoint_or_regular {name : String} (h : runtime.nodeUrl name = .ok url)
    (stands : url.DomainStands) : url.sameEndpoint runtime.url ∨ url.Regular := by
  rw [nodeUrl, mapError_eq_ok_iff] at h
  split at h
  · exact .inr (Url.parse_display_iff.1 (Url.parse_display_of_parse h stands))
  · left
    obtain ⟨ht, hh, hp, -⟩ := Url.new_eq_ok_iff.1 h
    rw [runtime.url.lowerCase_tag] at ht
    rw [runtime.url.lowerCase_host] at hh
    exact Url.sameEndpoint_iff.2 ⟨ht.symm, hh.symm, hp.symm⟩

/-! ## Operations on nodes -/

/-- The operations that take the name of a node. -/
inductive OnNode : {α : Type} → (String → Action α) → Prop where
  | create (spec : NodeSpec) : OnNode fun name => createLocalNode { spec with name }
  | kill : OnNode killNode
  | createBody (constructors : ConstructorRegistry) (fresh : BodyId) (call : ConstructorCall)
    (isLocal : Bool) : OnNode fun name => createBody constructors fresh name call isLocal
  | receiveBody (body : Body) : OnNode fun name => receiveBody name body
  | receiveCheckpoint (checkpoint : Checkpoint) (sequence : UInt64) :
    OnNode fun name => receiveCheckpoint name checkpoint sequence
  | activeObjects : OnNode activeObjects
  | activeObjectsOfClass (className : String) :
    OnNode fun name => activeObjectsOfClass name className
  | certificate : OnNode nodeCertificate
  | entities : OnNode entities
  /-- Job, tag and policy server are parts of the node. -/
  | tell {α : Type} (part : Node → α) :
    OnNode fun name => ask fun runtime => part <$> runtime.node name

/-- A question to the runtime counts for its answer only. -/
theorem run_ask_congr {α β : Type} (question question' : Runtime → Except RuntimeError α)
    {site : Site} (h : question site.runtime = question' site.runtime) (f : α → Action β) :
    (attempt (ask question >>= f)).run site = (attempt (ask question' >>= f)).run site := by
  rw [run_attempt_bind, run_attempt_bind, run_attempt_ask, run_attempt_ask, h]

/-- All of them use the name for the URL that it stands for, and for nothing else. -/
theorem OnNode.run_congr {α : Type} {operation : String → Action α} (h : OnNode operation)
    {site : Site} {name name' : String}
    (hn : site.runtime.nodeUrl name = site.runtime.nodeUrl name') :
    (attempt (operation name)).run site = (attempt (operation name')).run site := by
  have node : site.runtime.node name = site.runtime.node name' := by
    rw [Runtime.node, Runtime.node, hn]
  have hosted {β : Type} (f : Node → Action β) :
      (attempt (ensureRunning >>= fun _ => ask (·.node name) >>= f)).run site =
        (attempt (ensureRunning >>= fun _ => ask (·.node name') >>= f)).run site := by
    rw [run_ensureRunning, run_ensureRunning, run_ask_congr (·.node name) (·.node name') node]
  have told {β : Type} (part : Runtime → Node → β) :
      (attempt (ask fun runtime => part runtime <$> runtime.node name)).run site =
        (attempt (ask fun runtime => part runtime <$> runtime.node name')).run site := by
    rw [run_attempt_ask, run_attempt_ask, node]
  cases h with
  | create spec =>
    have created (owner : RuntimeHandle) :
        (attempt (Node.create { spec with name } owner)).run site =
          (attempt (Node.create { spec with name := name' } owner)).run site :=
      run_ask_congr (·.nodeUrl name) (·.nodeUrl name') hn _
    show (attempt (ensureRunning >>= fun _ => _)).run site =
      (attempt (ensureRunning >>= fun _ => _)).run site
    rw [run_ensureRunning, run_ensureRunning, run_attempt_get_bind, run_attempt_get_bind,
      run_attempt_bind, run_attempt_bind, created]
  | kill =>
    have killed : (attempt (Node.kill name)).run site = (attempt (Node.kill name')).run site :=
      run_ask_congr (·.nodeUrl name) (·.nodeUrl name') hn _
    rw [killNode, killNode, run_attempt_bind, run_attempt_bind, killed]
  | createBody constructors fresh call isLocal => exact hosted _
  | receiveBody body => exact hosted _
  | receiveCheckpoint checkpoint sequence => exact hosted _
  | activeObjects => exact told fun runtime node => runtime.bodies.activeObjects node.url
  | activeObjectsOfClass className =>
    exact told fun runtime node => runtime.bodies.activeObjectsOfClass node.url className
  | certificate => exact told fun runtime _ => runtime.security.certificate
  | entities => exact told nodeEntities
  | tell part => exact told fun _ => part

end Runtime

namespace World

variable {world : World} {place : RuntimeId} {runtime : Runtime} {name name' : String}

theorem act_congr {α : Type} {operation : String → Action α} (h : Runtime.OnNode operation)
    (hr : world.runtime? place = some runtime) (hn : runtime.nodeUrl name = runtime.nodeUrl name') :
    (act place (operation name)).run world = (act place (operation name')).run world := by
  have same : (attempt (operation name)).run (world.site runtime) =
      (attempt (operation name')).run (world.site runtime) := h.run_congr hn
  rw [act_run, act_run, perform, perform, hr, Option.map_some, Option.map_some, same]

/-- The same holds of a migration to a node of the runtime, which is still under its URL when the
body arrives. -/
theorem migrateBody_congr (hk : world.Keyed) {target : RuntimeHandle}
    (hr : world.runtime? target.id = some runtime)
    (hn : runtime.nodeUrl name = runtime.nodeUrl name') (source : RuntimeHandle) (id : BodyId) :
    (migrateBody source target id name).run world =
      (migrateBody source target id name').run world := by
  have there := url?_act hk source.id (Runtime.beginMigration_touches id) (by decide) target.id
  rw [migrateBody_run, migrateBody_run]
  generalize (act source.id (Runtime.beginMigration id)).run world = begun at there
  obtain ⟨_ | ⟨body, left⟩, world₁⟩ := begun
  · rfl
  rw [hr] at there
  obtain ⟨runtime₁, hr₁, hu⟩ := Option.map_eq_some_iff.1 there
  have hn₁ : runtime₁.nodeUrl name = runtime₁.nodeUrl name' := by
    rw [Runtime.nodeUrl_congr hu, Runtime.nodeUrl_congr hu, hn]
  dsimp only
  rw [act_congr (.receiveBody body) hr₁ hn₁]

end World

namespace Fleet

/-! ## URLs of nodes that are tracked -/

variable {steps : List Step} {place : RuntimeId} {runtime : Runtime} {url : Url} {node : Node}

/-- A node at another endpoint was created under a whole URL, which was read. So only the nodes at
the endpoint of the runtime depend on how this is written. -/
theorem regular_of_tracked
    (hr : (({} : Fleet).after steps).world.runtime? place = some runtime)
    (hn : runtime.nodes[url]? = some node) (other : ¬ url.sameEndpoint runtime.url)
    (stands : url.DomainStands) : url.Regular := by
  obtain ⟨name, hname⟩ := each_after lasting_addressed steps place runtime hr url
    (mem_iff_exists_getElem?.2 ⟨node, hn⟩)
  exact (Runtime.sameEndpoint_or_regular hname stands).resolve_left other

/-- After every run, the URL of a node that is tracked addresses the node exactly if it is written
as it is read. All nodes at other endpoints than that of their runtime have such URLs. At the
endpoint of the runtime the URLs are such if that of the runtime is; the bare name addresses the
node in any case, and then all operations do the same with both. -/
theorem addressed_by_url (hr : (({} : Fleet).after steps).world.runtime? place = some runtime)
    (hn : runtime.nodes[url]? = some node) :
    (runtime.nodeUrl url.display = .ok url ↔ url.Regular) ∧
    (runtime.node url.display = .ok node ↔ url.Regular) ∧
    (¬ url.sameEndpoint runtime.url → url.DomainStands → url.Regular) ∧
    (url.sameEndpoint runtime.url →
      (url.Regular ↔ runtime.url.Regular) ∧
      runtime.node url.name = .ok node ∧
      (runtime.url.Regular →
        (∀ {α : Type} {operation : String → Action α}, Runtime.OnNode operation →
          (World.act place (operation url.display)).run (({} : Fleet).after steps).world =
            (World.act place (operation url.name)).run (({} : Fleet).after steps).world) ∧
        ∀ (source : RuntimeHandle) (id : BodyId),
          (World.migrateBody source runtime.handle id url.display).run
              (({} : Fleet).after steps).world =
            (World.migrateBody source runtime.handle id url.name).run
              (({} : Fleet).after steps).world)) := by
  have address : runtime.nodeUrl url.display = .ok url ↔ url.Regular :=
    Runtime.nodeUrl_display_iff
  refine ⟨address, ?_, regular_of_tracked hr hn, fun same =>
    ⟨Url.regular_congr same, Runtime.node_eq (Runtime.nodeUrl_name same) hn, fun regular => ?_⟩⟩
  · rw [← address]
    refine ⟨fun h => ?_, fun h => Runtime.node_eq h hn⟩
    obtain ⟨found, hu, hf⟩ := Runtime.node_eq_ok_iff.1 h
    have keyed := each_after lasting_nodesKeyed steps place runtime hr
    rw [hu, ← keyed found node hf, keyed url node hn]
  · have both : runtime.nodeUrl url.display = runtime.nodeUrl url.name :=
      (address.2 ((Url.regular_congr same).2 regular)).trans (Runtime.nodeUrl_name same).symm
    have hk := (sound_after steps).world
    exact ⟨fun h => World.act_congr h hr both,
      World.migrateBody_congr hk ((congrArg _ (hk place runtime hr)).trans hr) both⟩

/-- Starts a runtime at a host, with a node of the name `n`. -/
def openingAt (host : String) : Step :=
  .start
    { id := 1
      config :=
        { runtime := { name := "r", host, transportTag := "PA" }
          nodes := [{ name := "n" }] }
      resolver := .literals }

/-- Capital letters in the address, and a name that is not in ASCII. -/
def capitals : List Step :=
  [openingAt "[2001:DB8::1]", .call 1 (.createLocalNode { name := "knoten-ä" })]

theorem addressed_by_url_capitals :
    ∃ (runtime : Runtime) (url : Url) (node : Node),
      (({} : Fleet).after capitals).world.runtime? 1 = some runtime ∧
      runtime.nodes[url]? = some node ∧
      url.display = "pa://[2001:db8::1]:1099/knoten-ä" ∧
      runtime.node url.display = .ok node ∧ runtime.node url.name = .ok node := by
  have h : ((({} : Fleet).after capitals).world.runtime? 1).any fun runtime =>
      runtime.url.Regular ∧ (runtime.nodeUrl "knoten-ä").toOption.any fun url =>
        url.sameEndpoint runtime.url ∧ url.display = "pa://[2001:db8::1]:1099/knoten-ä" ∧
          runtime.nodes[url]?.isSome := by decide +kernel
  obtain ⟨runtime, hr, h⟩ := (Option.any_eq_true _ _).1 h
  obtain ⟨regular, h⟩ := of_decide_eq_true h
  obtain ⟨url, -, h⟩ := (Option.any_eq_true _ _).1 h
  obtain ⟨same, written, h⟩ := of_decide_eq_true h
  obtain ⟨node, hn⟩ := Option.isSome_iff_exists.1 h
  obtain ⟨-, full, -, own⟩ := addressed_by_url hr hn
  obtain ⟨alike, bare, -⟩ := own same
  exact ⟨runtime, url, node, hr, hn, written, full.2 (alike.2 regular), bare⟩

/-- A loopback address with its zeros written out is kept as it is in the settings, but read from a
URL as the short form. So the node `n` is not found under its own URL. -/
theorem not_addressed_of_zeros :
    ∃ (runtime : Runtime) (url : Url),
      (({} : Fleet).after [openingAt "[0:0:0:0:0:0:0:1]"]).world.runtime? 1 = some runtime ∧
      url ∈ runtime.nodes ∧ url.sameEndpoint runtime.url ∧ (runtime.node url.name).isOk ∧
      runtime.nodeUrl url.display ≠ .ok url ∧
      runtime.node url.display = .error (.unknownNode "pa://[::1]:1099/n") := by
  have h : ((({} : Fleet).after [openingAt "[0:0:0:0:0:0:0:1]"]).world.runtime? 1).any
      fun runtime => (runtime.nodeUrl "n").toOption.any fun url =>
        url ∈ runtime.nodes ∧ url.sameEndpoint runtime.url ∧ (runtime.node url.name).isOk ∧
          (runtime.nodeUrl url.display).toOption ≠ some url ∧
          ((runtime.node url.display).map fun _ => ()) =
            .error (.unknownNode "pa://[::1]:1099/n") := by decide +kernel
  obtain ⟨runtime, hr, h⟩ := (Option.any_eq_true _ _).1 h
  obtain ⟨url, -, h⟩ := (Option.any_eq_true _ _).1 h
  obtain ⟨tracked, same, bare, other, unknown⟩ := of_decide_eq_true h
  exact ⟨runtime, url, hr, tracked, same, bare, fun hu => other (toOption_eq_some_iff.2 hu),
    map_eq_error_iff.1 unknown⟩

end Fleet

end ActiveObjects

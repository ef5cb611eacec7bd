import ActiveObjects.Proofs.Body.Identifier
import ActiveObjects.Proofs.Json.Records
import ActiveObjects.Proofs.Timestamp
import ActiveObjects.Proofs.Url.Canonical
import ActiveObjects.Wire.Body
import ActiveObjects.Wire.Event
import ActiveObjects.Wire.Node

/-!
# What comes back from JSON

Each type that is sent is written with all its fields, and read field by field. So a value comes
back if the values of its fields do. Of these only URLs may fail to, for not every URL is read from
its own text.
-/

namespace ActiveObjects

open Json Tree

/-! ## Fields -/

namespace Json.Tree

@[simp] theorem find_recordOf (fields : List (String × Json)) (key : String) :
    (recordOf fields).find key = (fields.lookup key).map ofValue := by
  induction fields with
  | nil => rfl
  | cons field fields ih =>
    obtain ⟨name, value⟩ := field
    have ih : (fieldTrees fields).lookup key = (fields.lookup key).map ofValue := ih
    show ((name, ofValue value) :: fieldTrees fields).lookup key = _
    rw [List.lookup_cons, List.lookup_cons, ih]
    cases key == name <;> rfl

end Json.Tree

/-- The value is written with numbers that are read back, and read back from its tree. -/
structure Restores {α : Type} (toJson : α → Json) (read? : Tree → Option α) (a : α) : Prop where
  exact : (toJson a).Exact
  read : read? (.ofValue (toJson a)) = some a

namespace Restores

variable {α β : Type} {toJson : α → Json} {read? : Tree → Option α} {a : α}
  {fields : List (String × Json)} {key : String}

/-- A field comes back, and reading goes on. -/
theorem required_bind (h : Restores toJson read? a) (hf : fields.lookup key = some (toJson a))
    {next : α → Option β} {b : β} (hn : next a = some b) :
    ((recordOf fields).required key read? >>= next) = some b := by
  rw [Record.required, find_recordOf, hf, Option.map_some, Option.bind_some, h.read]
  exact hn

/-- A field that may be absent comes back if its values are not written as null. -/
theorem optional_bind {found : Option α} (h : ∀ a ∈ found, Restores toJson read? a)
    (hnull : ∀ a, (ofValue (toJson a)).isNull = false)
    (hf : fields.lookup key = some (ofOption toJson found)) {next : Option α → Option β} {b : β}
    (hn : next found = some b) : ((recordOf fields).optional key read? >>= next) = some b := by
  rw [Record.optional, find_recordOf, hf, Option.map_some]
  cases found with
  | none => exact hn
  | some a =>
    have value : (recordOf fields).isNull (ofValue (toJson a)) = false := hnull a
    have read := (h a rfl).read
    simp only [ofOption, value, read, Bool.false_eq_true, if_false, Option.map_some]
    exact hn

end Restores

/-- The fields of a record are read one after the other. -/
theorem record?_bind {β : Type} {known : List String} {fields : List (String × Json)}
    (hk : fields.map (·.1) = known) (hd : known.Nodup) {next : Record Tree → Option β} {b : β}
    (hn : next (recordOf fields) = some b) :
    ((ofValue (.object fields)).record? known >>= next) = some b := by
  rw [record?_ofValue hk hd]
  exact hn

/-- The kind of a tagged record is read before its fields. -/
theorem tagged?_bind {β : Type} {tag kind : String} {fields : List (String × Json)} {room : Nat}
    (ht : tag ∉ fields.map (·.1)) (hf : ∀ field ∈ fields, isFlat field.2)
    {next : String × (List String → Option (Record Tree)) → Option β} {b : β}
    (hn : next (kind, (knownFields? · (fieldTrees fields))) = some b) :
    ((ofValue (.object ((tag, .string kind) :: fields))).tagged? tag (room + 1) >>= next) =
      some b := by
  rw [tagged?_ofValue ht hf]
  exact hn

theorem knownFields?_bind {β : Type} {known : List String} {fields : List (String × Json)}
    (hk : fields.map (·.1) = known) (hd : known.Nodup) {next : Record Tree → Option β} {b : β}
    (hn : next (recordOf fields) = some b) :
    (knownFields? known (fieldTrees fields) >>= next) = some b := by
  rw [knownFields?_fieldTrees hk hd]
  exact hn

theorem restores_text (s : String) : Restores Json.string Tree.text? s := ⟨.string s, rfl⟩

theorem restores_flag (b : Bool) : Restores Json.bool Tree.bool? b := ⟨.bool b, rfl⟩

theorem restores_octets (octets : List UInt8) : Restores ofOctets Tree.octets? octets :=
  ⟨exact_ofOctets octets, octets?_ofOctets octets⟩

theorem restores_word (n : UInt64) :
    Restores (fun n : UInt64 => Json.ofNat n.toNat) readWord? n := by
  have bound : n.toNat ≤ maxWord := by
    have small := n.toNat_lt
    rw [maxWord]
    omega
  refine ⟨.number bound, ?_⟩
  simp [readWord?, Json.ofNat, ofValue, Tree.nat?, bound]

theorem restores_list {α : Type} {toJson : α → Json} {read? : Tree → Option α} {items : List α}
    (h : ∀ item ∈ items, Restores toJson read? item) :
    Restores (ofList toJson) (Tree.list? read?) items :=
  ⟨exact_ofList fun item hi => (h item hi).exact, list?_ofList fun item hi => (h item hi).read⟩

/-- The URL is read from its own text. -/
def Url.Canonical (url : Url) : Prop := Url.parse url.display = .ok url

/-- A value that is written as a text comes back if it is read from the text. -/
theorem restores_of_text {α : Type} {display : α → String} {parse? : String → Option α} {a : α}
    (h : parse? (display a) = some a) :
    Restores (fun a => .string (display a)) (fun t => t.text?.bind parse?) a where
  exact := .string (display a)
  read := by
    have text : (ofValue (.string (display a))).text? = some (display a) := rfl
    rw [text, Option.bind_some, h]

theorem Url.Canonical.restores {url : Url} (h : url.Canonical) :
    Restores Url.toJson Url.read? url :=
  restores_of_text (by rw [h]; rfl)

theorem BodyId.restores (id : BodyId) : Restores BodyId.toJson BodyId.read? id :=
  restores_of_text id.parse?_hyphenated

theorem Timestamp.restores (t : Timestamp) : Restores Timestamp.toJson Timestamp.read? t :=
  restores_of_text t.parse?_render

/-! ## Bodies -/

theorem Body.restores (body : Body) : Restores Body.toJson Body.read? body where
  exact := by
    refine .object ?_
    simp [body.id.restores.exact, (restores_text body.className).exact,
      (restores_octets body.state).exact]
  read := by
    refine record?_bind (by rfl) (by decide) ?_
    refine body.id.restores.required_bind rfl ?_
    refine (restores_text body.className).required_bind rfl ?_
    exact (restores_octets body.state).required_bind rfl rfl

theorem Checkpoint.restores (checkpoint : Checkpoint) :
    Restores Checkpoint.toJson Checkpoint.read? checkpoint where
  exact := by
    refine .object ?_
    simp [checkpoint.bodyId.restores.exact, (restores_text checkpoint.className).exact,
      (restores_octets checkpoint.state).exact]
  read := by
    refine record?_bind (by rfl) (by decide) ?_
    refine checkpoint.bodyId.restores.required_bind rfl ?_
    refine (restores_text checkpoint.className).required_bind rfl ?_
    exact (restores_octets checkpoint.state).required_bind rfl rfl

theorem BodyHandle.restores {handle : BodyHandle} (h : handle.nodeUrl.Canonical) :
    Restores BodyHandle.toJson BodyHandle.read? handle where
  exact := by
    refine .object ?_
    simp [handle.id.restores.exact, h.restores.exact, (restores_flag handle.isLocal).exact]
  read := by
    refine record?_bind (by rfl) (by decide) ?_
    refine handle.id.restores.required_bind rfl ?_
    refine h.restores.required_bind rfl ?_
    exact (restores_flag handle.isLocal).required_bind rfl rfl

/-! ## Nodes and groups -/

theorem restores_texts (found : Option String) :
    ∀ s ∈ found, Restores Json.string Tree.text? s := fun s _ => restores_text s

theorem PolicyServerRef.restores (server : PolicyServerRef) :
    Restores PolicyServerRef.toJson PolicyServerRef.read? server where
  exact := by
    refine .object ?_
    simp [(restores_text server.name).exact]
  read := by
    refine record?_bind (by rfl) (by decide) ?_
    exact (restores_text server.name).required_bind rfl rfl

theorem NodeSpec.restores (spec : NodeSpec) : Restores NodeSpec.toJson NodeSpec.read? spec where
  exact := by
    refine .object ?_
    simp [(restores_text spec.name).exact, (restores_flag spec.replaceIfBound).exact,
      exact_ofOption (fun server => (PolicyServerRef.restores server).exact) spec.policyServer,
      exact_ofOption (fun tag => (restores_text tag).exact) spec.virtualNode,
      (restores_text spec.jobId).exact]
  read := by
    refine record?_bind (by rfl) (by decide) ?_
    refine (restores_text spec.name).required_bind rfl ?_
    refine (restores_flag spec.replaceIfBound).required_bind rfl ?_
    refine Restores.optional_bind (fun server _ => server.restores) (fun _ => rfl) rfl ?_
    refine Restores.optional_bind (restores_texts spec.virtualNode) (fun _ => rfl) rfl ?_
    exact (restores_text spec.jobId).required_bind rfl rfl

theorem NodeHandle.restores {handle : NodeHandle} (hu : handle.node.url.Canonical)
    (ho : handle.node.owner.Canonical) : Restores NodeHandle.toJson NodeHandle.read? handle where
  exact := by
    refine .object ?_
    simp [Node.fields, (restores_text handle.node.name).exact, hu.restores.exact,
      ho.restores.exact, (restores_text handle.node.jobId).exact,
      exact_ofOption (fun server => (PolicyServerRef.restores server).exact)
        handle.node.policyServer,
      exact_ofOption (fun tag => (restores_text tag).exact) handle.node.virtualNode,
      handle.createdAt.restores.exact]
  read := by
    refine record?_bind (by rfl) (by decide) ?_
    refine (restores_text handle.node.name).required_bind rfl ?_
    refine hu.restores.required_bind rfl ?_
    refine ho.restores.required_bind rfl ?_
    refine (restores_text handle.node.jobId).required_bind rfl ?_
    refine Restores.optional_bind (fun server _ => server.restores) (fun _ => rfl) rfl ?_
    refine Restores.optional_bind (restores_texts handle.node.virtualNode) (fun _ => rfl) rfl ?_
    exact handle.createdAt.restores.required_bind rfl rfl

theorem VirtualNodeGroup.restores {group : VirtualNodeGroup} (hu : group.url.Canonical)
    (hm : ∀ url ∈ group.members, url.Canonical) :
    Restores VirtualNodeGroup.toJson VirtualNodeGroup.read? group where
  exact := by
    have members := restores_list fun url h => (hm url h).restores
    refine .object ?_
    simp [(restores_text group.name).exact, hu.restores.exact, members.exact]
  read := by
    have members := restores_list fun url h => (hm url h).restores
    refine record?_bind (by rfl) (by decide) ?_
    refine (restores_text group.name).required_bind rfl ?_
    refine hu.restores.required_bind rfl ?_
    exact members.required_bind rfl rfl

/-! ## Security data -/

theorem ResolvedPolicy.restores (policy : ResolvedPolicy) :
    Restores ResolvedPolicy.toJson ResolvedPolicy.read? policy where
  exact := by
    refine .object ?_
    simp [Exact.bool]
  read := by
    refine record?_bind (by rfl) (by decide) ?_
    refine (restores_flag policy.communicationAllowed).required_bind rfl ?_
    refine (restores_flag policy.migrationAllowed).required_bind rfl ?_
    refine (restores_flag policy.authentication).required_bind rfl ?_
    refine (restores_flag policy.integrity).required_bind rfl ?_
    exact (restores_flag policy.confidentiality).required_bind rfl rfl

/-- The URLs in an entity. -/
def Entity.urls : Entity → List Url
  | .runtime url | .node url _ => [url]
  | .virtualNode _ => []

theorem Entity.restores {entity : Entity} (h : ∀ url ∈ entity.urls, url.Canonical) (room : Nat) :
    Restores Entity.toJson (Entity.readWithin? (room + 1)) entity := by
  cases entity with
  | runtime url =>
    have hu : url.Canonical := h url (List.mem_cons_self ..)
    constructor
    · refine .object ?_
      simp [Exact.string, hu.restores.exact]
    · refine tagged?_bind (by simp) (by simp [isFlat, Url.toJson]) ?_
      refine knownFields?_bind (by rfl) (by decide) ?_
      exact hu.restores.required_bind rfl rfl
  | virtualNode name =>
    constructor
    · refine .object ?_
      simp [Exact.string]
    · refine tagged?_bind (by simp) (by simp [isFlat]) ?_
      refine knownFields?_bind (by rfl) (by decide) ?_
      exact (restores_text name).required_bind rfl rfl
  | node url jobId =>
    have hu : url.Canonical := h url (List.mem_cons_self ..)
    constructor
    · refine .object ?_
      simp [Exact.string, hu.restores.exact]
    · refine tagged?_bind (by simp) (by simp [isFlat, Url.toJson]) ?_
      refine knownFields?_bind (by rfl) (by decide) ?_
      refine hu.restores.required_bind rfl ?_
      exact (restores_text jobId).required_bind rfl rfl

/-- The URLs in a security context. -/
def SecurityContext.urls (context : SecurityContext) : List Url :=
  context.sources.flatMap Entity.urls ++ context.targets.flatMap Entity.urls

theorem SecurityContext.restores {context : SecurityContext}
    (h : ∀ url ∈ context.urls, url.Canonical) :
    Restores SecurityContext.toJson SecurityContext.read? context := by
  simp only [urls, List.mem_append, List.mem_flatMap] at h
  have sources := restores_list fun (entity : Entity) (he : entity ∈ context.sources) =>
    Entity.restores (fun url hu => h url (.inl ⟨entity, he, hu⟩)) 124
  have targets := restores_list fun (entity : Entity) (he : entity ∈ context.targets) =>
    Entity.restores (fun url hu => h url (.inr ⟨entity, he, hu⟩)) 124
  constructor
  · refine .object ?_
    simp [sources.exact, targets.exact,
      exact_ofOption (fun policy => (ResolvedPolicy.restores policy).exact) context.policy]
  · refine record?_bind (by rfl) (by decide) ?_
    refine sources.required_bind rfl ?_
    refine targets.required_bind rfl ?_
    exact Restores.optional_bind (fun policy _ => policy.restores) (fun _ => rfl) rfl rfl

/-! ## Events -/

/-- The URLs in an event. -/
def RuntimeEvent.urls : RuntimeEvent → List Url
  | .runtimeStarted url | .runtimeStopped url | .peerRegistered url _ | .peerUnregistered url _
  | .virtualNodeUnregistered url _ | .bodyCreated _ url _ | .bodyMigrated _ url _
  | .checkpointApplied _ url _ => [url]
  | .nodeCreated url other _ _ | .nodeKilled url other | .virtualNodeRegistered url _ other =>
    [url, other]

theorem MigrationDirection.restores (direction : MigrationDirection) :
    Restores MigrationDirection.toJson
      (fun t => t.looseCase?.bind MigrationDirection.ofName?) direction := by
  cases direction <;> exact ⟨.string _, rfl⟩

theorem isFlat_ofOption_string (found : Option String) :
    isFlat (ofOption Json.string found) = true := by
  cases found <;> rfl

/-- The fields of an event come back by its kind. -/
theorem RuntimeEvent.ofFields?_kind {event : RuntimeEvent}
    (h : ∀ url ∈ event.urls, url.Canonical) :
    ofFields? event.kind (knownFields? · (fieldTrees event.fields)) = some event := by
  cases event with
  | runtimeStarted url | runtimeStopped url =>
    have hu : url.Canonical := h url (by simp [urls])
    refine knownFields?_bind (by rfl) (by decide) ?_
    exact hu.restores.required_bind rfl rfl
  | peerRegistered url name | peerUnregistered url name | virtualNodeUnregistered url name =>
    have hu : url.Canonical := h url (by simp [urls])
    refine knownFields?_bind (by rfl) (by decide) ?_
    refine hu.restores.required_bind rfl ?_
    exact (restores_text name).required_bind rfl rfl
  | nodeCreated url node jobId virtualNode =>
    have hu : url.Canonical := h url (by simp [urls])
    have hn : node.Canonical := h node (by simp [urls])
    refine knownFields?_bind (by rfl) (by decide) ?_
    refine hu.restores.required_bind rfl ?_
    refine hn.restores.required_bind rfl ?_
    refine (restores_text jobId).required_bind rfl ?_
    exact Restores.optional_bind (restores_texts virtualNode) (fun _ => rfl) rfl rfl
  | nodeKilled url node =>
    have hu : url.Canonical := h url (by simp [urls])
    have hn : node.Canonical := h node (by simp [urls])
    refine knownFields?_bind (by rfl) (by decide) ?_
    refine hu.restores.required_bind rfl ?_
    exact hn.restores.required_bind rfl rfl
  | virtualNodeRegistered url name group =>
    have hu : url.Canonical := h url (by simp [urls])
    have hg : group.Canonical := h group (by simp [urls])
    refine knownFields?_bind (by rfl) (by decide) ?_
    refine hu.restores.required_bind rfl ?_
    refine (restores_text name).required_bind rfl ?_
    exact hg.restores.required_bind rfl rfl
  | bodyCreated id node className =>
    have hn : node.Canonical := h node (by simp [urls])
    refine knownFields?_bind (by rfl) (by decide) ?_
    refine id.restores.required_bind rfl ?_
    refine hn.restores.required_bind rfl ?_
    exact (restores_text className).required_bind rfl rfl
  | bodyMigrated id node direction =>
    have hn : node.Canonical := h node (by simp [urls])
    refine knownFields?_bind (by rfl) (by decide) ?_
    refine id.restores.required_bind rfl ?_
    refine hn.restores.required_bind rfl ?_
    exact direction.restores.required_bind rfl rfl
  | checkpointApplied id node sequence =>
    have hn : node.Canonical := h node (by simp [urls])
    refine knownFields?_bind (by rfl) (by decide) ?_
    refine id.restores.required_bind rfl ?_
    refine hn.restores.required_bind rfl ?_
    exact (restores_word sequence).required_bind rfl rfl

/-- No field of an event holds other values, and numbers in them are words. -/
theorem RuntimeEvent.fields_spec (event : RuntimeEvent) :
    ∀ field ∈ event.fields, isFlat field.2 ∧ field.2.Exact := by
  have texts (s : String) : isFlat (.string s) ∧ (Json.string s).Exact := ⟨rfl, .string s⟩
  have tags (found : Option String) :
      isFlat (ofOption Json.string found) ∧ (ofOption Json.string found).Exact :=
    ⟨isFlat_ofOption_string found, exact_ofOption Exact.string found⟩
  have words (n : UInt64) : isFlat (Json.ofNat n.toNat) ∧ (Json.ofNat n.toNat).Exact :=
    ⟨rfl, (restores_word n).exact⟩
  cases event <;> simp [fields, Url.toJson, BodyId.toJson, MigrationDirection.toJson, texts, tags,
    words]

theorem RuntimeEvent.restores {event : RuntimeEvent} (h : ∀ url ∈ event.urls, url.Canonical) :
    Restores RuntimeEvent.toJson RuntimeEvent.read? event where
  exact := by
    refine .object ?_
    simpa [Exact.string] using fun key value hm => (event.fields_spec (key, value) hm).2
  read := by
    have untagged : "event" ∉ event.fields.map (·.1) := by
      cases event <;> simp [fields]
    refine tagged?_bind untagged (fun field hm => (event.fields_spec field hm).1) ?_
    exact ofFields?_kind h

end ActiveObjects

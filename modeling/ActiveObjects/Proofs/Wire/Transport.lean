import ActiveObjects.Proofs.Except
import ActiveObjects.Proofs.Wire.Restoring

/-!
# Values go through JSON

Whatever is read from a text has URLs that are read from their own texts, for reading makes them
so, if domains with encoded labels stand for themselves. Therefore writing and reading gives back
every value with such URLs, and every value that was read from a text, however it was written there.
-/

namespace ActiveObjects

open Json Tree

/-! ## What is read -/

/-- A URL that is read from some text. -/
def Url.FromText (url : Url) : Prop := ∃ text, parse text = .ok url

theorem Url.FromText.canonical {url : Url} (h : url.FromText) (stands : url.DomainStands) :
    url.Canonical := by
  obtain ⟨text, h⟩ := h
  exact parse_display_of_parse h stands

theorem Url.fromText_of_read? {t : Tree} {url : Url} (h : read? t = some url) :
    url.FromText := by
  obtain ⟨text, -, h⟩ := Option.bind_eq_some_iff.1 h
  exact ⟨text, toOption_eq_some_iff.1 h⟩

theorem Url.fromText_of_required {r : Record Tree} {key : String} {url : Url}
    (h : r.required key Url.read? = some url) : url.FromText := by
  obtain ⟨t, -, h⟩ := Option.bind_eq_some_iff.1 h
  exact fromText_of_read? h

/-- What holds of all values that are read holds of all items of a list that is read. -/
theorem forall_of_mapM {α : Type} {read? : Tree → Option α} {P : α → Prop}
    (h : ∀ t a, read? t = some a → P a) {trees : List Tree} {items : List α}
    (hm : trees.mapM read? = some items) : ∀ item ∈ items, P item := by
  induction trees generalizing items with
  | nil =>
    cases hm
    exact fun item hi => nomatch hi
  | cons t trees ih =>
    rw [List.mapM_cons] at hm
    obtain ⟨first, hfirst, hm⟩ := Option.bind_eq_some_iff.1 hm
    obtain ⟨more, hmore, hm⟩ := Option.bind_eq_some_iff.1 hm
    cases hm
    intro item hi
    rcases List.mem_cons.1 hi with rfl | hi
    · exact h t item hfirst
    · exact ih hmore item hi

theorem forall_of_list? {α : Type} {read? : Tree → Option α} {P : α → Prop}
    (h : ∀ t a, read? t = some a → P a) {r : Record Tree} {key : String} {items : List α}
    (hr : r.required key (list? read?) = some items) : ∀ item ∈ items, P item := by
  obtain ⟨t, -, hr⟩ := Option.bind_eq_some_iff.1 hr
  cases t with
  | array trees => exact forall_of_mapM h hr
  | _ => cases hr

theorem BodyHandle.fromText_of_read? {t : Tree} {handle : BodyHandle}
    (h : read? t = some handle) : handle.nodeUrl.FromText := by
  obtain ⟨r, -, h⟩ := Option.bind_eq_some_iff.1 h
  obtain ⟨id, -, h⟩ := Option.bind_eq_some_iff.1 h
  obtain ⟨url, hu, h⟩ := Option.bind_eq_some_iff.1 h
  obtain ⟨isLocal, -, h⟩ := Option.bind_eq_some_iff.1 h
  cases h
  exact Url.fromText_of_required hu

theorem NodeHandle.fromText_of_read? {t : Tree} {handle : NodeHandle}
    (h : read? t = some handle) :
    handle.node.url.FromText ∧ handle.node.owner.FromText := by
  simp only [read?, Option.bind_eq_bind, Option.bind_eq_some_iff] at h
  obtain ⟨r, -, name, -, url, hu, owner, ho, jobId, -, server, -, tag, -, createdAt, -, h⟩ := h
  cases h
  exact ⟨Url.fromText_of_required hu, Url.fromText_of_required ho⟩

theorem VirtualNodeGroup.fromText_of_read? {t : Tree} {group : VirtualNodeGroup}
    (h : read? t = some group) :
    group.url.FromText ∧ ∀ url ∈ group.members, url.FromText := by
  simp only [read?, Option.bind_eq_bind, Option.bind_eq_some_iff] at h
  obtain ⟨r, -, name, -, url, hu, members, hm, h⟩ := h
  cases h
  exact ⟨Url.fromText_of_required hu, forall_of_list? (fun _ _ => Url.fromText_of_read?) hm⟩

theorem Entity.fromText_of_read? {room : Nat} {t : Tree} {entity : Entity}
    (h : readWithin? room t = some entity) : ∀ url ∈ entity.urls, url.FromText := by
  obtain ⟨⟨kind, fields?⟩, -, h⟩ := Option.bind_eq_some_iff.1 h
  dsimp only at h
  split at h
  · simp only [Option.bind_eq_bind, Option.bind_eq_some_iff] at h
    obtain ⟨r, -, url, hu, h⟩ := h
    cases h
    simpa [urls] using Url.fromText_of_required hu
  · simp only [Option.bind_eq_bind, Option.bind_eq_some_iff] at h
    obtain ⟨r, -, name, -, h⟩ := h
    cases h
    simp [urls]
  · simp only [Option.bind_eq_bind, Option.bind_eq_some_iff] at h
    obtain ⟨r, -, url, hu, jobId, -, h⟩ := h
    cases h
    simpa [urls] using Url.fromText_of_required hu
  · cases h

theorem SecurityContext.fromText_of_read? {t : Tree} {context : SecurityContext}
    (h : read? t = some context) : ∀ url ∈ context.urls, url.FromText := by
  simp only [read?, Option.bind_eq_bind, Option.bind_eq_some_iff] at h
  obtain ⟨r, -, sources, hs, targets, ht, policy, -, h⟩ := h
  cases h
  have read (t : Tree) (entity : Entity) :=
    @Entity.fromText_of_read? (maxDepth - 2) t entity
  intro url hu
  simp only [urls, List.mem_append, List.mem_flatMap] at hu
  rcases hu with ⟨entity, he, hu⟩ | ⟨entity, he, hu⟩
  · exact forall_of_list? read hs entity he url hu
  · exact forall_of_list? read ht entity he url hu

theorem RuntimeEvent.fromText_of_ofFields? {kind : String}
    {fields? : List String → Option (Record Tree)} {event : RuntimeEvent}
    (h : ofFields? kind fields? = some event) : ∀ url ∈ event.urls, url.FromText := by
  unfold ofFields? at h
  split at h
  all_goals simp only [Option.bind_eq_bind, Option.bind_eq_some_iff, reduceCtorEq] at h
  · obtain ⟨r, -, url, hu, h⟩ := h
    cases h
    simpa [urls] using Url.fromText_of_required hu
  · obtain ⟨r, -, url, hu, h⟩ := h
    cases h
    simpa [urls] using Url.fromText_of_required hu
  · obtain ⟨r, -, url, hu, name, -, h⟩ := h
    cases h
    simpa [urls] using Url.fromText_of_required hu
  · obtain ⟨r, -, url, hu, name, -, h⟩ := h
    cases h
    simpa [urls] using Url.fromText_of_required hu
  · obtain ⟨r, -, url, hu, node, hn, jobId, -, tag, -, h⟩ := h
    cases h
    simpa [urls] using And.intro (Url.fromText_of_required hu) (Url.fromText_of_required hn)
  · obtain ⟨r, -, url, hu, node, hn, h⟩ := h
    cases h
    simpa [urls] using And.intro (Url.fromText_of_required hu) (Url.fromText_of_required hn)
  · obtain ⟨r, -, url, hu, name, -, group, hg, h⟩ := h
    cases h
    simpa [urls] using And.intro (Url.fromText_of_required hu) (Url.fromText_of_required hg)
  · obtain ⟨r, -, url, hu, name, -, h⟩ := h
    cases h
    simpa [urls] using Url.fromText_of_required hu
  · obtain ⟨r, -, id, -, node, hn, className, -, h⟩ := h
    cases h
    simpa [urls] using Url.fromText_of_required hn
  · obtain ⟨r, -, id, -, node, hn, direction, -, h⟩ := h
    cases h
    simpa [urls] using Url.fromText_of_required hn
  · obtain ⟨r, -, id, -, node, hn, sequence, -, h⟩ := h
    cases h
    simpa [urls] using Url.fromText_of_required hn

theorem RuntimeEvent.fromText_of_read? {t : Tree} {event : RuntimeEvent}
    (h : read? t = some event) : ∀ url ∈ event.urls, url.FromText := by
  obtain ⟨⟨kind, fields?⟩, -, h⟩ := Option.bind_eq_some_iff.1 h
  exact fromText_of_ofFields? h

/-! ## There and back -/

/-- The value that a text is read as. -/
def decode? {α : Type} (read? : Tree → Option α) (text : String) : Option α :=
  (Tree.parse? text).bind read?

/-- Writing and reading gives back every value whose URLs are read from their own texts, and every
value that is read from a text. Of the domains in its URLs it is only assumed that the tables map
encoded labels to themselves. -/
structure Transports {α : Type} (toJson : α → Json) (read? : Tree → Option α)
    (urls : α → List Url) : Prop where
  restored (a : α) : (∀ url ∈ urls a, Url.parse url.display = .ok url) →
    decode? read? (toJson a).render = some a
  stable (text : String) (a : α) : decode? read? text = some a →
    (∀ url ∈ urls a, url.DomainStands) → decode? read? (toJson a).render = some a

theorem Restores.decode?_render {α : Type} {toJson : α → Json} {read? : Tree → Option α} {a : α}
    (h : Restores toJson read? a) : decode? read? (toJson a).render = some a := by
  rw [decode?, Tree.parse?_render h.exact, Option.bind_some, h.read]

/-- It is enough that the values with such URLs come back, and that others are not read. -/
theorem Transports.of_restores {α : Type} {toJson : α → Json} {read? : Tree → Option α}
    {urls : α → List Url}
    (hr : ∀ a, (∀ url ∈ urls a, url.Canonical) → Restores toJson read? a)
    (hc : ∀ t a, read? t = some a → ∀ url ∈ urls a, url.FromText) :
    Transports toJson read? urls where
  restored a h := (hr a h).decode?_render
  stable text a h stands := by
    obtain ⟨t, -, h⟩ := Option.bind_eq_some_iff.1 h
    exact (hr a fun url hu => (hc t a h url hu).canonical (stands url hu)).decode?_render

/-- All types that are sent go through JSON. -/
theorem transports_all :
    Transports RuntimeEvent.toJson RuntimeEvent.read? RuntimeEvent.urls ∧
      Transports Entity.toJson Entity.read? Entity.urls ∧
      Transports SecurityContext.toJson SecurityContext.read? SecurityContext.urls ∧
      Transports NodeSpec.toJson NodeSpec.read? (fun _ => []) ∧
      Transports NodeHandle.toJson NodeHandle.read? (fun handle =>
        [handle.node.url, handle.node.owner]) ∧
      Transports VirtualNodeGroup.toJson VirtualNodeGroup.read? (fun group =>
        group.url :: group.members) ∧
      Transports BodyHandle.toJson BodyHandle.read? (fun handle => [handle.nodeUrl]) ∧
      Transports Body.toJson Body.read? (fun _ => []) ∧
      Transports Checkpoint.toJson Checkpoint.read? (fun _ => []) := by
  refine ⟨?_, ?_, ?_, ?_, ?_, ?_, ?_, ?_, ?_⟩
  · exact .of_restores (fun _ => RuntimeEvent.restores) fun _ _ => RuntimeEvent.fromText_of_read?
  · exact .of_restores (fun _ h => Entity.restores h _) fun _ _ => Entity.fromText_of_read?
  · exact .of_restores (fun _ => SecurityContext.restores)
      fun _ _ => SecurityContext.fromText_of_read?
  · exact .of_restores (fun spec _ => spec.restores) fun _ _ _ _ hu => nomatch hu
  · refine .of_restores (fun handle h => ?_) fun t handle h => ?_
    · exact NodeHandle.restores (h _ (by simp)) (h _ (by simp))
    · simpa using NodeHandle.fromText_of_read? h
  · refine .of_restores (fun group h => ?_) fun t group h => ?_
    · exact VirtualNodeGroup.restores (h _ (List.mem_cons_self ..))
        fun url hu => h url (List.mem_cons_of_mem _ hu)
    · simpa using VirtualNodeGroup.fromText_of_read? h
  · refine .of_restores (fun handle h => ?_) fun t handle h => ?_
    · exact BodyHandle.restores (h _ (by simp))
    · simpa using BodyHandle.fromText_of_read? h
  · exact .of_restores (fun body _ => body.restores) fun _ _ _ _ hu => nomatch hu
  · exact .of_restores (fun checkpoint _ => checkpoint.restores) fun _ _ _ _ hu => nomatch hu

/-- The text of an event whose kind stands last, with an escape and another spelling of a URL. -/
def registeredText : String :=
  "\x7b\"peer_name\":\"\\u00e4\",\"runtime_url\":\"HTTP:///0x7F.1/n\"," ++
    "\"event\":\"peer_registered\"\x7d"

/-- The event is written in another way than it was read, and comes back all the same. -/
theorem transports_all_registered :
    ∃ event, decode? RuntimeEvent.read? registeredText = some event ∧
      event.toJson.render ≠ registeredText ∧
      (∀ url ∈ event.urls, Url.parse url.display = .ok url) ∧
      (∀ url ∈ event.urls, url.DomainStands) ∧
      decode? RuntimeEvent.read? event.toJson.render = some event := by
  have h : (decode? RuntimeEvent.read? registeredText).any fun event =>
      event.toJson.render ≠ registeredText ∧ ∀ url ∈ event.urls, url.DomainStands := by
    decide +kernel
  obtain ⟨event, he, h⟩ := (Option.any_eq_true _ _).1 h
  obtain ⟨other, stands⟩ := of_decide_eq_true h
  obtain ⟨t, -, read⟩ := Option.bind_eq_some_iff.1 he
  have canonical : ∀ url ∈ event.urls, Url.parse url.display = .ok url := fun url hu =>
    (RuntimeEvent.fromText_of_read? read url hu).canonical (stands url hu)
  exact ⟨event, he, other, canonical, stands, transports_all.1.stable _ event he stands⟩

end ActiveObjects

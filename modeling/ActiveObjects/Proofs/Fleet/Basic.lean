import Mathlib.Control.Monad.Basic
import ActiveObjects.Proofs.World

/-!
# Fleets

A fleet is a world together with the migrations that were begun in it and the record of what was
done. A migration takes three steps: the body is shipped at its source, delivered at the target or
lost on the way, and settled at the source. Any steps may come between them, also of other
migrations of the same body.
-/

namespace ActiveObjects

/-- The operations that change a runtime, with their arguments. -/
inductive Call where
  | register (url : Url) (replaceIfBound : Bool)
  | unregister (url : Url)
  | createLocalNode (spec : NodeSpec)
  | killNode (name : String)
  | killAllNodes
  | setDefaultTag (tag : String)
  | registerVirtualNode (name : String) (replaceIfBound : Bool)
  | unregisterVirtualNode (name : String)
  | unregisterAllVirtualNodes
  | registerRuntime (peer : PeerRuntime)
  | unregisterRuntime (name : String)
  | addAcquaintance (name : String)
  | removeAcquaintance (name : String)
  | setParent (parent : Url)
  | setSecurityManager (evaluator : PolicyEvaluator)
  | createBody (fresh : BodyId) (node : String) (call : ConstructorCall) (isLocal : Bool)
  | receiveBody (node : String) (body : Body)
  | receiveCheckpoint (node : String) (checkpoint : Checkpoint) (sequence : UInt64)
  | kill

/-- The operation that a call asks for, up to its result. -/
def Call.action (constructors : ConstructorRegistry) : Call → Action Unit
  | register url replaceIfBound => do let _ ← Runtime.register url replaceIfBound
  | unregister url => do let _ ← Runtime.unregister url
  | createLocalNode spec => do let _ ← Runtime.createLocalNode spec
  | killNode name => Runtime.killNode name
  | killAllNodes => do let _ ← Node.killAll
  | setDefaultTag tag => Runtime.setDefaultTag tag
  | registerVirtualNode name replaceIfBound => do
    let _ ← Runtime.registerVirtualNode name replaceIfBound
  | unregisterVirtualNode name => Runtime.unregisterVirtualNode name
  | unregisterAllVirtualNodes => do let _ ← VirtualNode.unregisterAll
  | registerRuntime peer => Runtime.registerRuntime peer
  | unregisterRuntime name => Runtime.unregisterRuntime name
  | addAcquaintance name => do let _ ← Runtime.addAcquaintance name
  | removeAcquaintance name => do let _ ← Runtime.removeAcquaintance name
  | setParent parent => Runtime.setParent parent
  | setSecurityManager evaluator => Runtime.setSecurityManager evaluator
  | createBody fresh node call isLocal => do
    let _ ← Runtime.createBody constructors fresh node call isLocal
  | receiveBody node body => do let _ ← Runtime.receiveBody node body
  | receiveCheckpoint node checkpoint sequence => do
    let _ ← Runtime.receiveCheckpoint node checkpoint sequence
  | kill => do let _ ← Runtime.kill

/-! ## Migrations -/

/-- How far a migration has come. -/
inductive Passage where
  /-- The copy is on its way to the target. -/
  | underway
  /-- The target answered, or was not reached. -/
  | answered (answer : Except RuntimeError BodyHandle)
  /-- The source took note of the answer. -/
  | settled

/-- A migration that was begun. -/
structure Shipment where
  source : RuntimeId
  target : RuntimeHandle
  node : String
  id : BodyId
  body : Body
  left : Url
  passage : Passage := .underway

def Shipment.isOver (shipment : Shipment) : Bool :=
  match shipment.passage with
  | .settled => true
  | _ => false

/-- What can happen in a fleet. Migrations are known by their place in the list of those begun. -/
inductive Step where
  | start (request : StartRequest)
  /-- Others bind and unbind names, or calls of the naming facility begin or cease to fail. -/
  | naming (naming : Naming)
  /-- Constructors are added or replaced. -/
  | registries (registries : Std.ExtTreeMap RegistryId ConstructorRegistry)
  | call (runtime : RuntimeId) (call : Call)
  | ship (source target : RuntimeId) (id : BodyId) (node : String)
  | deliver (shipment : Nat)
  /-- The target is not reached, and the source is told why. -/
  | lose (shipment : Nat) (error : RuntimeError)
  | settle (shipment : Nat)

structure Fleet where
  world : World := {}
  shipments : List Shipment := []
  /-- All steps with their results, oldest first. -/
  history : List (Step × Except RuntimeError Unit) := []

namespace Fleet

/-- What a step results in. A step that is not possible at the moment is refused and changes
nothing. -/
def outcome (fleet : Fleet) : Step → Except RuntimeError Unit × World × List Shipment
  | .start request =>
    match fleet.world.runtime? request.id with
    | some _ => (.error World.unreachable, fleet.world, fleet.shipments)
    | none =>
      let (result, world) := fleet.world.start request
      (result.map fun _ => (), world, fleet.shipments)
  | .naming naming => (.ok (), { fleet.world with naming }, fleet.shipments)
  | .registries registries => (.ok (), { fleet.world with registries }, fleet.shipments)
  | .call runtime call =>
    let (result, world) :=
      (World.act runtime (call.action (fleet.world.constructors runtime))).run fleet.world
    (result, world, fleet.shipments)
  | .ship source target id node =>
    match fleet.world.runtime? target with
    | none => (.error World.unreachable, fleet.world, fleet.shipments)
    | some peer =>
      let (result, world) := (World.act source (Runtime.beginMigration id)).run fleet.world
      match result with
      | .error e => (.error e, world, fleet.shipments)
      | .ok (body, left) =>
        (.ok (), world, fleet.shipments ++ [⟨source, peer.handle, node, id, body, left, .underway⟩])
  | .deliver i =>
    match fleet.shipments[i]? with
    | some shipment@{ passage := .underway, .. } =>
      let (answer, world) :=
        (World.act shipment.target.id (Runtime.receiveBody shipment.node shipment.body)).run
          fleet.world
      (answer.map fun _ => (), world,
        fleet.shipments.set i { shipment with passage := .answered answer })
    | _ => (.error World.unreachable, fleet.world, fleet.shipments)
  | .lose i e =>
    match fleet.shipments[i]? with
    | some shipment@{ passage := .underway, .. } =>
      (.ok (), fleet.world, fleet.shipments.set i { shipment with passage := .answered (.error e) })
    | _ => (.error World.unreachable, fleet.world, fleet.shipments)
  | .settle i =>
    match fleet.shipments[i]? with
    | some shipment@{ passage := .answered answer, .. } =>
      let (result, world) :=
        (World.act shipment.source
          (Runtime.endMigration shipment.id shipment.left shipment.target.url answer)).run
          fleet.world
      (result.map fun _ => (), world, fleet.shipments.set i { shipment with passage := .settled })
    | _ => (.error World.unreachable, fleet.world, fleet.shipments)

/-- The fleet after a step. -/
def next (fleet : Fleet) (step : Step) : Fleet :=
  let (result, world, shipments) := fleet.outcome step
  ⟨world, shipments, fleet.history ++ [(step, result)]⟩

/-- The fleet after a run. -/
def after (fleet : Fleet) (steps : List Step) : Fleet := steps.foldl next fleet

/-- Each step of a run follows a rule at the moment when it is taken. -/
def Obeys (rule : Fleet → Step → Prop) : Fleet → List Step → Prop
  | _, [] => True
  | fleet, step :: steps => rule fleet step ∧ Obeys rule (fleet.next step) steps

instance Obeys.decidable (rule : Fleet → Step → Prop) [DecidableRel rule] :
    (fleet : Fleet) → (steps : List Step) → Decidable (Obeys rule fleet steps)
  | _, [] => isTrue trivial
  | fleet, step :: steps =>
    have := Obeys.decidable rule (fleet.next step) steps
    inferInstanceAs (Decidable (rule fleet step ∧ Obeys rule (fleet.next step) steps))

/-! ## Views -/

def bodies (fleet : Fleet) (runtime : RuntimeId) : BodyTable := fleet.world.bodies runtime

def status? (fleet : Fleet) (runtime : RuntimeId) (id : BodyId) : Option BodyStatus :=
  (fleet.bodies runtime).status? id

def url? (fleet : Fleet) (runtime : RuntimeId) : Option Url :=
  (fleet.world.runtime? runtime).map (·.url)

/-- No migration is in progress. -/
def Quiet (fleet : Fleet) : Prop := ∀ shipment ∈ fleet.shipments, shipment.isOver

instance (fleet : Fleet) : Decidable fleet.Quiet := inferInstanceAs (Decidable (∀ _ ∈ _, _))

/-- The body that an entry of the history created. -/
def created? : Step × Except RuntimeError Unit → Option BodyId
  | (.call _ (.createBody fresh _ _ _), .ok ()) => some fresh
  | _ => none

/-- The bodies that were created, in order. -/
def created (fleet : Fleet) : List BodyId := fleet.history.filterMap created?

/-- The checkpoint that an entry of the history applied, with the runtime that applied it. -/
def applied? : Step × Except RuntimeError Unit → Option (RuntimeId × Checkpoint × UInt64)
  | (.call runtime (.receiveCheckpoint _ checkpoint sequence), .ok ()) =>
    some (runtime, checkpoint, sequence)
  | _ => none

/-- The checkpoints that were applied, in order. -/
def applied (fleet : Fleet) : List (RuntimeId × Checkpoint × UInt64) :=
  fleet.history.filterMap applied?

/-- The sequence numbers of the checkpoints of a body that a runtime applied, in order. -/
def appliedAt (fleet : Fleet) (runtime : RuntimeId) (id : BodyId) : List UInt64 :=
  fleet.applied.filterMap fun (place, checkpoint, sequence) =>
    if place = runtime ∧ checkpoint.bodyId = id then some sequence else none

/-- The sequence numbers of the checkpoints of a body that any runtime applied, in order. -/
def appliedTo (fleet : Fleet) (id : BodyId) : List UInt64 :=
  fleet.applied.filterMap fun (_, checkpoint, sequence) =>
    if checkpoint.bodyId = id then some sequence else none

end Fleet

end ActiveObjects

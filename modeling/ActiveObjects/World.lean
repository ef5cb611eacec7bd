import ActiveObjects.Runtime.Startup

/-!
# Many runtimes

A world is a naming facility with the runtimes that share it. Each operation takes place at one
runtime; a migration takes three, of which the second is at the target, so that other operations
may come between them.
-/

namespace ActiveObjects

structure World where
  naming : Naming := {}
  runtimes : Std.ExtTreeMap RuntimeId Runtime := ∅
  registries : Std.ExtTreeMap RegistryId ConstructorRegistry := ∅
  /-- Newest first. -/
  log : List LogLine := []

namespace World

def runtime? (world : World) (id : RuntimeId) : Option Runtime := world.runtimes[id]?

/-- The site of a runtime. -/
def site (world : World) (runtime : Runtime) : Site := ⟨world.naming, runtime, world.log⟩

/-- Takes over what an operation made of a site. -/
def absorb (world : World) (site : Site) : World :=
  { world with
    naming := site.naming
    runtimes := world.runtimes.insert site.runtime.id site.runtime
    log := site.log }

/-- Performs an operation at a runtime; `none` if there is no such runtime. -/
def perform {α : Type} (world : World) (id : RuntimeId) (task : Work α) : Option (α × World) :=
  (world.runtime? id).map fun runtime =>
    let (result, site) := task.run (world.site runtime)
    (result, world.absorb site)

/-- Starts a runtime. One that fails half way stays in the world, for what it bound stays bound. -/
def start (world : World) (request : StartRequest) : Except RuntimeError Runtime × World :=
  match Runtime.ofRequest request with
  | .error e => (.error e, world)
  | .ok runtime =>
    let (result, site) := (attempt (Runtime.boot request.config)).run (world.site runtime)
    (result.map fun () => site.runtime, world.absorb site)

/-- The answer of a runtime that is not there. -/
def unreachable : RuntimeError := .transportFailure "no such runtime" none

/-- Performs an action at a runtime. -/
def act {α : Type} (id : RuntimeId) (action : Action α) : StateM World (Except RuntimeError α) :=
  fun world =>
    match world.perform id (attempt action) with
    | none => (.error unreachable, world)
    | some found => found

/-! ## Constructors -/

/-- The constructors of a registry; an unknown registry has none. -/
def registry (world : World) (id : RegistryId) : ConstructorRegistry :=
  (world.registries[id]?).getD ∅

/-- The constructors that a runtime builds bodies with. -/
def constructors (world : World) (id : RuntimeId) : ConstructorRegistry :=
  match world.runtime? id with
  | none => ∅
  | some runtime => world.registry runtime.constructors

/-- Adds a constructor to the registry that a runtime uses. -/
def registerConstructor (world : World) (id : RuntimeId) (className : String)
    (constructor : BodyConstructor) : World :=
  match world.runtime? id with
  | none => world
  | some runtime =>
    let extended := (world.registry runtime.constructors).insert className constructor
    { world with registries := world.registries.insert runtime.constructors extended }

/-- Builds a body under a fresh identifier. -/
def createBody (id : RuntimeId) (fresh : BodyId) (node : String) (call : ConstructorCall)
    (isLocal : Bool) : StateM World (Except RuntimeError BodyHandle) := do
  act id (Runtime.createBody ((← get).constructors id) fresh node call isLocal)

/-! ## Migration -/

/-- Migrates a body to a node of another runtime, with nothing in between. -/
def migrateBody (source target : RuntimeHandle) (id : BodyId) (node : String) :
    StateM World (Except RuntimeError BodyHandle) := do
  match ← act source.id (Runtime.beginMigration id) with
  | .error e => return .error e
  | .ok (body, left) =>
    let answer ← act target.id (Runtime.receiveBody node body)
    act source.id (Runtime.endMigration id left target.url answer)

end World

end ActiveObjects

import ActiveObjects.Log
import ActiveObjects.Runtime.Basic

/-!
# Operations at a runtime

An operation works on a site: one runtime, the naming facility it shares with others, and the log.
A piece of `Work` always ends with a result; an `Action` may end with an error instead.
-/

namespace ActiveObjects

structure Site where
  naming : Naming
  runtime : Runtime
  /-- Newest first. -/
  log : List LogLine := []

abbrev Work := StateM Site

abbrev Action := ExceptT RuntimeError Work

/-- Runs an action for its result, be it an error. -/
def attempt {α : Type} (action : Action α) : Work (Except RuntimeError α) := action.run

/-- As `attempt`, within an action. -/
def outcomeOf {α : Type} (action : Action α) : Action (Except RuntimeError α) :=
  ExceptT.lift (attempt action)

namespace Site

def logLine (level : LogLevel) (message : String) : Work Unit :=
  modify fun site => { site with log := ⟨level, message⟩ :: site.log }

def modifyRuntime (f : Runtime → Runtime) : Work Unit :=
  modify fun site => { site with runtime := f site.runtime }

/-- Publishes an event on the bus of the runtime. Without a receiver this is noted in the log. -/
def publish (event : RuntimeEvent) : Work Unit := do
  if (← get).runtime.events.subscriberCount = 0 then logLine .trace "No event subscribers"
  modifyRuntime fun runtime => { runtime with events := runtime.events.publish event }

/-- A question to the runtime that may be refused. -/
def ask {α : Type} (question : Runtime → Except RuntimeError α) : Action α := do
  ExceptT.mk (return question (← get).runtime)

/-- A change of the node table. -/
def modifyNodes (f : NodeTable → NodeTable) : Work Unit :=
  modifyRuntime fun runtime => { runtime with nodes := f runtime.nodes }

/-- A change of the table of virtual nodes. -/
def modifyGroups (f : GroupTable → GroupTable) : Work Unit :=
  modifyRuntime fun runtime => { runtime with groups := f runtime.groups }

/-- A change of the body table. -/
def modifyBodies (f : BodyTable → BodyTable) : Work Unit :=
  modifyRuntime fun runtime => { runtime with bodies := f runtime.bodies }

/-- A change of the body table that may be refused. -/
def changeBodies {α : Type} (f : BodyTable → Except RuntimeError (α × BodyTable)) : Action α := do
  let (result, bodies) ← ask fun runtime => f runtime.bodies
  modifyBodies fun _ => bodies
  return result

end Site

end ActiveObjects

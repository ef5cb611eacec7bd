import ActiveObjects.BodyId
import ActiveObjects.Url.Basic

/-!
# Events

What observers of a runtime are told. Events identify what they are about and carry nothing else.
-/

namespace ActiveObjects

/-- The direction of a migration as the publishing runtime sees it. -/
inductive MigrationDirection where
  | inbound
  | outbound
deriving DecidableEq, Repr

inductive RuntimeEvent where
  | runtimeStarted (runtimeUrl : Url)
  | runtimeStopped (runtimeUrl : Url)
  | peerRegistered (runtimeUrl : Url) (peerName : String)
  | peerUnregistered (runtimeUrl : Url) (peerName : String)
  | nodeCreated (runtimeUrl nodeUrl : Url) (jobId : String) (virtualNode : Option String)
  | nodeKilled (runtimeUrl nodeUrl : Url)
  | virtualNodeRegistered (runtimeUrl : Url) (name : String) (url : Url)
  | virtualNodeUnregistered (runtimeUrl : Url) (name : String)
  | bodyCreated (bodyId : BodyId) (nodeUrl : Url) (className : String)
  | bodyMigrated (bodyId : BodyId) (nodeUrl : Url) (direction : MigrationDirection)
  | checkpointApplied (bodyId : BodyId) (nodeUrl : Url) (sequence : UInt64)
deriving DecidableEq

end ActiveObjects

import ActiveObjects.BodyId
import ActiveObjects.Url.Basic

/-!
# Errors

Why an operation of the protocol was refused. The wording is in `RuntimeError.message` only.
-/

namespace ActiveObjects

inductive RuntimeError where
  /-- The URL has a binding already. -/
  | nameConflict (url : String)
  /-- The URL has no binding. -/
  | notBound (url : String)
  | hostResolution (url message : String)
  | constructionFailed (className source : String)
  | unknownNode (node : String)
  | unknownBody (id : BodyId)
  | migrationInProgress (id : BodyId)
  | staleCheckpoint (id : BodyId) (received lastApplied : UInt64)
  | securityUnavailable (message : String)
  | securityRejected (message : String)
  | invalidUrl (url reason : String)
  | config (message : String)
  | shutDown (url : String)
  /-- The naming facility or a peer could not be reached; `source` is the text of the cause. -/
  | transportFailure (message : String) (source : Option String)
deriving DecidableEq

namespace RuntimeError

def ofInvalid (e : Url.Invalid) : RuntimeError := .invalidUrl e.url e.fault.reason

def message : RuntimeError → String
  | nameConflict url => s!"Name conflict: {url} is already bound"
  | notBound url => s!"Not bound: {url}"
  | hostResolution url message => s!"Host unknown in {url}: {message}"
  | constructionFailed className source => s!"Construction of '{className}' failed: {source}"
  | unknownNode node => s!"Unknown node: {node}"
  | unknownBody id => s!"Unknown body: {id}"
  | migrationInProgress id => s!"Body {id} is already migrating"
  | staleCheckpoint id received lastApplied =>
    s!"Stale checkpoint for {id}: sequence {received} <= last applied {lastApplied}"
  | securityUnavailable message => s!"Security not available: {message}"
  | securityRejected message => s!"Security policy rejected request: {message}"
  | invalidUrl url reason => s!"Invalid URL '{url}': {reason}"
  | config message => s!"Configuration error: {message}"
  | shutDown url => s!"Runtime {url} is shut down"
  | transportFailure message _ => s!"Transport failure: {message}"

/-- The text of the cause behind an error, if it has one. -/
def source? : RuntimeError → Option String
  | constructionFailed _ source => some source
  | transportFailure _ source => source
  | _ => none

def isNotBound : RuntimeError → Bool
  | notBound _ => true
  | _ => false

def isNameConflict : RuntimeError → Bool
  | nameConflict _ => true
  | _ => false

def isTransportFailure : RuntimeError → Bool
  | transportFailure _ _ => true
  | _ => false

/-- The caller may go on without, or try elsewhere. -/
def isRecoverable : RuntimeError → Bool
  | nameConflict _ | notBound _ | securityUnavailable _ | staleCheckpoint _ _ _ => true
  | _ => false

end RuntimeError

end ActiveObjects

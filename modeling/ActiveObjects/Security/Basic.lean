import ActiveObjects.Error

/-!
# Security

The runtime decides no policy: it hands questions to an evaluator, if it has one.
-/

namespace ActiveObjects

/-- A certificate in its binary form. -/
structure Certificate where
  subject : String
  issuer : String
  der : List UInt8
deriving DecidableEq

structure PolicyServerRef where
  name : String
deriving DecidableEq, Repr

/-- A party to an interaction. -/
inductive Entity where
  | runtime (url : Url)
  | virtualNode (name : String)
  | node (url : Url) (jobId : String)
deriving DecidableEq

/-- What was agreed for an interaction. -/
structure ResolvedPolicy where
  communicationAllowed : Bool := false
  migrationAllowed : Bool := false
  authentication : Bool := false
  integrity : Bool := false
  confidentiality : Bool := false
deriving DecidableEq, Repr

/-- A question to an evaluator; the answer is the same with the policy filled in. -/
structure SecurityContext where
  sources : List Entity := []
  targets : List Entity := []
  policy : Option ResolvedPolicy := none
deriving DecidableEq

/-- Answers questions, or refuses with a text. -/
structure PolicyEvaluator where
  resolve : SecurityContext → Except String SecurityContext
  certificate : Option Certificate := none
  policyServer : Option PolicyServerRef := none

namespace PolicyEvaluator

/-- Refuses everything. -/
def denying (reason : String) (certificate : Option Certificate)
    (policyServer : Option PolicyServerRef) : PolicyEvaluator :=
  ⟨fun _ => .error reason, certificate, policyServer⟩

/-- Gives the same policy to every question. -/
def granting (policy : Option ResolvedPolicy) (certificate : Option Certificate)
    (policyServer : Option PolicyServerRef) : PolicyEvaluator :=
  ⟨fun context => .ok { context with policy }, certificate, policyServer⟩

/-- Gives every question back as it is. -/
def unchanged : PolicyEvaluator := { resolve := .ok }

end PolicyEvaluator

/-- Where a runtime takes its security answers from. What the runtime was started with comes
before what its evaluator has. -/
structure SecurityRelay where
  evaluator : Option PolicyEvaluator := none
  creatorCertificate : Option Certificate := none
  configuredServer : Option PolicyServerRef := none

namespace SecurityRelay

def isAvailable (relay : SecurityRelay) : Bool := relay.evaluator.isSome

def getPolicy (relay : SecurityRelay) (context : SecurityContext) :
    Except RuntimeError SecurityContext :=
  match relay.evaluator with
  | none => .error (.securityUnavailable "no security manager configured")
  | some evaluator => (evaluator.resolve context).mapError .securityRejected

def certificate (relay : SecurityRelay) : Option Certificate :=
  relay.creatorCertificate.or (relay.evaluator.bind (·.certificate))

def policyServer (relay : SecurityRelay) : Option PolicyServerRef :=
  relay.configuredServer.or (relay.evaluator.bind (·.policyServer))

end SecurityRelay

end ActiveObjects

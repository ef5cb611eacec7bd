import ActiveObjects.Runtime.Site

/-!
# Registration

A runtime binds and unbinds its names in the naming facility. A conflict is tolerated unless the
runtime is strict, and so is a name that is not bound when it should be unbound.
-/

namespace ActiveObjects

/-- How a registration that did not fail went. -/
inductive RegisterOutcome where
  | bound
  | rebound
  /-- The URL was bound and stays as it is. -/
  | alreadyBound
deriving DecidableEq, Repr

def RegisterOutcome.name : RegisterOutcome → String
  | bound => "Bound"
  | rebound => "Rebound"
  | alreadyBound => "AlreadyBound"

/-- How an unregistration that did not fail went. -/
inductive UnregisterOutcome where
  | unbound
  | wasAbsent
deriving DecidableEq, Repr

def UnregisterOutcome.name : UnregisterOutcome → String
  | unbound => "Unbound"
  | wasAbsent => "WasAbsent"

namespace Registry

open Site

/-! ## Calls of the naming facility -/

/-- A call of the naming facility. Calls that get through are traced. -/
def callNaming (call : NamingCall) (url : Url) (trace : String) (traced : Naming → Bool)
    (change : Naming → Except RuntimeError Naming) : Action Unit := do
  let naming := (← get).naming
  if (naming.failure? call url 0).isNone && traced naming then logLine .trace trace
  match change naming with
  | .error e =>
    modify fun site => { site with naming := naming.spend call url }
    throw e
  | .ok changed => modify fun site => { site with naming := changed.spend call url }

def bind (url : Url) (handle : RuntimeHandle) : Action Unit :=
  callNaming .bind url "bind" (!·.contains url) (·.bind url handle)

def rebind (url : Url) (handle : RuntimeHandle) : Action Unit :=
  callNaming .rebind url "rebind" (fun _ => true) (·.rebind url handle)

def unbind (url : Url) : Action Unit :=
  callNaming .unbind url "unbind" (fun _ => true) (·.unbind url)

/-! ## Registration -/

/-- Names of processes start like this unless they are chosen. -/
def generatedStart : String := "PA_JVM"

/-- Bindings of process names are of little interest. -/
def isInternal (url : Url) : Bool := generatedStart.toList.isPrefixOf url.name.toList

/-- An error of the naming facility as a failure of transport. -/
def wrapTransport (e : RuntimeError) (what : String) (url : Url) : RuntimeError :=
  if e.isTransportFailure then e else .transportFailure s!"{what} at {url}" (some e.message)

/-- Binds a URL to a runtime, in place of another binding if `replaceIfBound`. -/
def register (url : Url) (handle : RuntimeHandle) (replaceIfBound : Bool) :
    Action RegisterOutcome := do
  let called ← outcomeOf (if replaceIfBound then rebind url handle else bind url handle)
  match called with
  | .ok () =>
    if isInternal url then logLine .debug "Bound in registry"
    else logLine .info s!"{url} successfully bound in registry"
    return if replaceIfBound then .rebound else .bound
  | .error e =>
    if e.isNameConflict then
      if (← get).runtime.strict then throw e
      logLine .warn s!"{url} already bound in registry"
      return .alreadyBound
    else throw (wrapTransport e "cannot bind in registry" url)

/-- Removes the binding of a URL. -/
def unregister (url : Url) : Action UnregisterOutcome := do
  match ← outcomeOf (unbind url) with
  | .ok () =>
    if isInternal url then logLine .debug "Unbound from registry"
    else logLine .info s!"{url} unbound in registry"
    return .unbound
  | .error e =>
    if e.isNotBound then
      logLine .info s!"{url} is not bound in the registry"
      return .wasAbsent
    else throw (wrapTransport e "cannot unbind in registry" url)

end Registry

end ActiveObjects

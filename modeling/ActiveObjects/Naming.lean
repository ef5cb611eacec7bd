import ActiveObjects.Error

/-!
# The naming facility

A directory that all runtimes share. It maps URLs to the runtimes that serve them. Each call may
fail before it gets to the bindings, however other calls at the same URL end.
-/

namespace ActiveObjects

/-- Identifies a runtime among all runtimes of a world. -/
abbrev RuntimeId := Nat

/-- A runtime as others see it. -/
structure RuntimeHandle where
  id : RuntimeId
  url : Url
deriving DecidableEq

/-- The calls that change bindings. -/
inductive NamingCall where
  | bind
  | rebind
  | unbind
deriving DecidableEq, Repr

/-- The bindings, and the failures of the calls to come. -/
structure Naming where
  bindings : Std.ExtTreeMap Url RuntimeHandle := ∅
  /-- The failures, if any, of the next calls of a kind at a URL. Each is used up by one call. -/
  ahead : NamingCall → Url → List (Option RuntimeError) := fun _ _ => []
  /-- The failure, if any, of the calls after these. -/
  fault : NamingCall → Url → Option RuntimeError := fun _ _ => none

namespace Naming

/-- The failure, if any, of a call of this kind at a URL that comes after so many others. -/
def failure? (naming : Naming) (call : NamingCall) (url : Url) (earlier : Nat) :
    Option RuntimeError :=
  (naming.ahead call url)[earlier]?.getD (naming.fault call url)

/-- A call uses up what is ahead of it, whether it fails or not. -/
def spend (naming : Naming) (call : NamingCall) (url : Url) : Naming :=
  match naming.ahead call url with
  | [] => naming
  | _ :: later =>
    { naming with
      ahead := fun other address =>
        if other = call ∧ address = url then later else naming.ahead other address }

def contains (naming : Naming) (url : Url) : Bool := naming.bindings.contains url

def size (naming : Naming) : Nat := naming.bindings.size

/-- All bound URLs in order. -/
def list (naming : Naming) : List Url := naming.bindings.keys

def resolve (naming : Naming) (url : Url) : Except RuntimeError RuntimeHandle :=
  match naming.bindings[url]? with
  | some handle => .ok handle
  | none => .error (.notBound url.display)

/-- Binds a URL that is free. -/
def bind (naming : Naming) (url : Url) (handle : RuntimeHandle) : Except RuntimeError Naming :=
  match naming.failure? .bind url 0 with
  | some e => .error e
  | none =>
    if naming.contains url then .error (.nameConflict url.display)
    else .ok { naming with bindings := naming.bindings.insert url handle }

/-- Binds a URL whether it is free or not. -/
def rebind (naming : Naming) (url : Url) (handle : RuntimeHandle) : Except RuntimeError Naming :=
  match naming.failure? .rebind url 0 with
  | some e => .error e
  | none => .ok { naming with bindings := naming.bindings.insert url handle }

/-- Frees a URL that is bound. -/
def unbind (naming : Naming) (url : Url) : Except RuntimeError Naming :=
  match naming.failure? .unbind url 0 with
  | some e => .error e
  | none =>
    if naming.contains url then .ok { naming with bindings := naming.bindings.erase url }
    else .error (.notBound url.display)

/-- Text for inspection, which does not tell the bindings. -/
def inspect : String := "InMemoryNaming \x7b .. \x7d"

end Naming

end ActiveObjects

import Std.Data.ExtTreeMap
import ActiveObjects.Text.Case
import ActiveObjects.Url.Name

/-!
# Canonical URLs

Runtimes, nodes and virtual nodes share one form of address, `tag://host:port/name`. A value of
`Url` is canonical by construction: its tag and host are in lower case and all its parts are valid.
-/

namespace ActiveObjects

/-- The address of a runtime, node or virtual node. -/
structure Url where
  tag : String
  host : String
  port : UInt16
  name : String
  lowerCase_tag : lowerCase tag = tag
  lowerCase_host : lowerCase host = host
  noFault : Url.partsFault? tag host name = none
deriving DecidableEq

namespace Url

/-- A text that is no canonical URL, and why. -/
structure Invalid where
  url : String
  fault : Fault
deriving DecidableEq, Repr

/-- The written form of the given parts. -/
def written (tag host : String) (port : UInt16) (name : String) : String :=
  s!"{tag}://{host}:{port.toNat}/{name}"

/-- Builds a URL from its parts; tag and host may be in any letter case. -/
def new (tag host : String) (port : UInt16) (name : String) : Except Invalid Url :=
  match h : partsFault? (lowerCase tag) (lowerCase host) name with
  | some fault => .error ⟨written (lowerCase tag) (lowerCase host) port name, fault⟩
  | none =>
    .ok ⟨lowerCase tag, lowerCase host, port, name, lowerCase_lowerCase _, lowerCase_lowerCase _, h⟩

/-- The written form of a URL. -/
def display (u : Url) : String := written u.tag u.host u.port u.name

instance : ToString Url := ⟨display⟩

/-- Host and port. -/
def authority (u : Url) : String := s!"{u.host}:{u.port.toNat}"

/-- The URL of another name at the same endpoint. -/
def withName (u : Url) (name : String) : Except Invalid Url := new u.tag u.host u.port name

/-- Two URLs are served by the same naming endpoint. -/
def sameEndpoint (u v : Url) : Bool := u.tag = v.tag && u.host = v.host && u.port = v.port

/-- URLs are ordered by tag, host, port and name. -/
instance : Ord Url :=
  ⟨compareLex (compareOn tag) (compareLex (compareOn host)
    (compareLex (compareOn port) (compareOn name)))⟩

theorem compare_eq (u v : Url) :
    compare u v = compareLex (compareOn tag) (compareLex (compareOn host)
      (compareLex (compareOn port) (compareOn name))) u v := rfl

instance : Std.TransOrd Url :=
  inferInstanceAs (Std.TransCmp (compareLex (compareOn tag) (compareLex (compareOn host)
    (compareLex (compareOn port) (compareOn name)))))

instance : Std.LawfulEqOrd Url where
  compare_self := Std.ReflCmp.compare_self
  eq_of_compare {u v} h := by
    rw [compare_eq, compareLex_eq_eq] at h
    obtain ⟨h1, h⟩ := h
    rw [compareLex_eq_eq] at h
    obtain ⟨h2, h⟩ := h
    rw [compareLex_eq_eq] at h
    obtain ⟨h3, h4⟩ := h
    have e1 : u.tag = v.tag := Std.LawfulEqOrd.eq_of_compare h1
    have e2 : u.host = v.host := Std.LawfulEqOrd.eq_of_compare h2
    have e3 : u.port = v.port := Std.LawfulEqOrd.eq_of_compare h3
    have e4 : u.name = v.name := Std.LawfulEqOrd.eq_of_compare h4
    cases u; cases v; simp_all

end Url

end ActiveObjects

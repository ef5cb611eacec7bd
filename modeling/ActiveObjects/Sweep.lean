import ActiveObjects.Error

/-!
# Sweeps

A bulk operation visits every element; what fails on one does not stop the rest.
-/

namespace ActiveObjects

/-- An element that could not be cleaned up. -/
structure SweepFailure where
  target : String
  cause : RuntimeError
deriving DecidableEq

structure SweepReport where
  attempted : Nat := 0
  succeeded : List String := []
  failures : List SweepFailure := []
deriving DecidableEq

namespace SweepReport

def recordSuccess (report : SweepReport) (target : String) : SweepReport :=
  { report with attempted := report.attempted + 1, succeeded := report.succeeded ++ [target] }

def recordFailure (report : SweepReport) (target : String) (cause : RuntimeError) : SweepReport :=
  { report with
    attempted := report.attempted + 1
    failures := report.failures ++ [⟨target, cause⟩] }

def isClean (report : SweepReport) : Bool := report.failures.isEmpty

def failureCount (report : SweepReport) : Nat := report.failures.length

def display (report : SweepReport) : String :=
  let succeeded := report.succeeded.length
  let failed := report.failures.length
  s!"{report.attempted} attempted, {succeeded} succeeded, {failed} failed"

end SweepReport

end ActiveObjects

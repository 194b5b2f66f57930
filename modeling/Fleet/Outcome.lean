import Fleet.Repository
import Fleet.Markers

namespace Fleet

/-! # Outcomes

A run ends for each repository in one of three ways, and a summary counts them.
-/

/-- How a run ended for one repository. -/
inductive Outcome where
  /-- There was no working copy, and nothing was run. -/
  | skipped
  | succeeded
  | failed
  deriving DecidableEq, Repr, Inhabited

/-- The two outcomes that a result set keeps. -/
inductive Bucket where
  | successful
  | failed
  deriving DecidableEq, Repr

/-- The name of the directory of a bucket. -/
def Bucket.name : Bucket → String
  | successful => "successful"
  | failed => "failed"

/-- The bucket that an outcome is kept in. -/
def Outcome.bucket? : Outcome → Option Bucket
  | skipped => none
  | succeeded => some .successful
  | failed => some .failed

/-- What happened to one repository, and what was written meanwhile. -/
structure Result where
  repo : Repository
  outcome : Outcome
  log : String
  deriving DecidableEq, Repr

/-- How many repositories ended in each way. -/
structure Summary where
  done : Nat := 0
  skipped : Nat := 0
  errored : Nat := 0
  deriving DecidableEq, Repr, Inhabited

namespace Summary

/-- Counts one more outcome. -/
def add (s : Summary) : Outcome → Summary
  | .succeeded => { s with done := s.done + 1 }
  | .skipped => { s with skipped := s.skipped + 1 }
  | .failed => { s with errored := s.errored + 1 }

def hasErrors (s : Summary) : Bool := 0 < s.errored

def tone (s : Summary) : Tone := if s.hasErrors then .warning else .success

/-- The line that tells a summary. -/
def line (s : Summary) (activity : String) (m : Markers) : String :=
  m.marker s.tone ++ " fleetrun " ++ activity ++ " " ++
    (if s.hasErrors then "completed with errors" else "completed") ++
    " (" ++ toString s.done ++ " OK, " ++ toString s.skipped ++ " skipped, " ++
    toString s.errored ++ " errored)"

end Summary

end Fleet

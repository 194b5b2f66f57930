import Fleet.Path

namespace Fleet

/-! # Repositories

A repository is named by an organisation and a name, and perhaps by the host it is on.  It is
written `org/name` or `host/org/name`, where no part is empty, `.` or `..`; so the parts can stand
in a path without leading anywhere else.
-/

/-- One repository. -/
structure Repository where
  host : Option String
  org : String
  name : String
  deriving DecidableEq, Repr, Inhabited

namespace Repository

/-- A part of a written repository that may not be. -/
def isForbidden (segment : List Char) : Bool :=
  segment.isEmpty || segment == ['.'] || segment == ['.', '.']

/-- The repository made of the given parts. -/
def ofSegments? (segments : List (List Char)) : Option Repository :=
  if segments.any isForbidden then none
  else match segments with
    | [org, name] => some ⟨none, String.ofList org, String.ofList name⟩
    | [host, org, name] => some ⟨some (String.ofList host), String.ofList org, String.ofList name⟩
    | _ => none

/-- Reads a repository. -/
def parse? (entry : List Char) : Option Repository := ofSegments? (Text.splitOn '/' entry)

/-- A repository as it is written. -/
def fullName (r : Repository) : String :=
  match r.host with
  | none => r.org ++ "/" ++ r.name
  | some host => host ++ "/" ++ r.org ++ "/" ++ r.name

/-- Where the working copy of a repository is: below the organisation, under its name. -/
def workDir (r : Repository) (workRoot : Path) : Path := workRoot / r.org / r.name

/-- Where a repository is cloned from; `defaultHost` is the host if it names none. -/
def cloneUrl (r : Repository) (defaultHost : String) : String :=
  "https://" ++ r.host.getD defaultHost ++ "/" ++ r.org ++ "/" ++ r.name ++ ".git"

end Repository

end Fleet

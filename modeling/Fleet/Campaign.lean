import Fleet.Description
import Fleet.Error
import Fleet.FileSystem.Operations
import Fleet.RepositoryList

namespace Fleet

/-! # Campaigns

A campaign is a list of repositories and the pull request that is to be raised against each of
them.  It is named after the directory that holds the description of the pull request.
-/

/-- A list of repositories and a pull request. -/
structure Campaign where
  name : String
  repos : List Repository
  description : Description
  deriving DecidableEq, Repr, Inhabited

/-- Reads a text file of a campaign. -/
def FileSystem.openText (fs : FileSystem) (p : Path) : Except Error String :=
  match fs.readText p with
  | .ok text => .ok text
  | .error e => .error (.cannotOpen p e)

/-- Reads a file that holds a list of repositories. -/
def RepositoryList.load (fs : FileSystem) (p : Path) : Except Error (List Repository) := do
  match parse (← fs.openText p) with
  | .ok repos => .ok repos
  | .error bad => .error (.badList p bad.number bad.line)

namespace Campaign

/-- The directory of a file; the current directory if its path names none. -/
def directoryOf (p : Path) : Path :=
  match p.parent? with
  | some dir => if dir.text.isEmpty then ⟨"."⟩ else dir
  | none => ⟨"."⟩

/-- The name of the campaign with the given description. -/
def nameOf (fs : FileSystem) (description : Path) : String :=
  match fs.canonical (directoryOf description) with
  | .ok dir => dir.fileName?.getD "campaign"
  | .error _ => "campaign"

/-- Reads a campaign from its list of repositories and its description. -/
def load (fs : FileSystem) (repoList description : Path) : Except Error Campaign := do
  let repos ← RepositoryList.load fs repoList
  let text ← fs.openText description
  return ⟨nameOf fs description, repos, Description.parse text⟩

end Campaign

end Fleet

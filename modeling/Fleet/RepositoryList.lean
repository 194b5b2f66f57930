import Fleet.Repository
import Fleet.Text.Blank
import Fleet.Text.Lines

namespace Fleet

/-! # Lists of repositories

A list has one repository a line.  White space around it does not count, blank lines and lines that
begin with `#` are passed over, and a repository that was listed before is not listed again.  The
first line that is none of this makes the whole list unreadable.
-/

/-- A line that is no repository: its number, from one on, and the line as it stands. -/
structure BadLine where
  number : Nat
  line : String
  deriving DecidableEq, Repr

namespace RepositoryList

/-- A trimmed line that has to be a repository. -/
def isEntry (trimmed : List Char) : Bool :=
  match trimmed with
  | [] => false
  | c :: _ => c != '#'

/-- Reads lines, each with its number.  `seen` are the repositories of the lines before. -/
def collect (seen : List Repository) : List (List Char × Nat) → Except BadLine (List Repository)
  | [] => .ok []
  | (line, number) :: rest =>
    let trimmed := Text.trim line
    if isEntry trimmed then
      match Repository.parse? trimmed with
      | none => .error ⟨number, String.ofList line⟩
      | some repo =>
        if seen.contains repo then collect seen rest
        else do return repo :: (← collect (repo :: seen) rest)
    else collect seen rest

/-- Reads a list of repositories. -/
def parse (text : String) : Except BadLine (List Repository) :=
  collect [] ((Text.lines text.toList).zipIdx 1)

/-- Writes a list of repositories, one a line, without an end to the last. -/
def render (repos : List Repository) : String := "\n".intercalate (repos.map Repository.fullName)

end RepositoryList

end Fleet

import Fleet.Executor
import Fleet.Text.Blank
import Fleet.Text.Lines
import Fleet.Workshop

namespace Fleet

/-! # Git

The four things that are asked of the `git` program.  Nothing that a user has written is ever taken
for an option: a URL comes after `--`, a branch that looks like one is refused, and a message has an
option of its own in front of it.
-/

namespace Git

variable {σ : Type}

/-- Runs `git` in a directory. -/
def execute (x : Executor σ) (dir : Path) (args : List String) (w : Workshop σ) :
    Workshop σ × Except Error Unit :=
  let ((result, executor, files), display) :=
    (x.execute ⟨dir, "git", args⟩ w.executor w.files).on w.display
  ({ w with display, files, executor }, result)

/-- Clones `url` into a directory `name` below `dir`. -/
def clone (x : Executor σ) (dir : Path) (url name : String) :
    Workshop σ → Workshop σ × Except Error Unit :=
  execute x dir ["clone", "--", url, name]

/-- A name that `git` would read as an option, or none at all. -/
def isBadBranch (branch : String) : Bool := branch.isEmpty || branch.toList.head? == some '-'

/-- Makes a branch and switches to it. -/
def checkoutNew (x : Executor σ) (dir : Path) (branch : String) (w : Workshop σ) :
    Workshop σ × Except Error Unit :=
  if isBadBranch branch then (w, .error (.usage ("invalid branch name '" ++ branch ++ "'")))
  else execute x dir ["checkout", "-b", branch] w

/-- Commits every change of a file that is tracked. -/
def commitAll (x : Executor σ) (dir : Path) (message : String) :
    Workshop σ → Workshop σ × Except Error Unit :=
  execute x dir ["commit", "--all", "--message", message]

/-- The output of `git status` tells of a change: some line of it is not blank. -/
def tellsChange (status : String) : Bool :=
  (Text.lines status.toList).any fun line => !Text.allBlank line

/-- There are changes in a working copy. -/
def isChanged (x : Executor σ) (dir : Path) (w : Workshop σ) : Workshop σ × Except Error Bool :=
  let ((result, executor, files), display) :=
    (x.capture ⟨dir, "git", ["status", "--porcelain"]⟩ w.executor w.files).on w.display
  ({ w with display, files, executor }, result.map tellsChange)

end Git

end Fleet

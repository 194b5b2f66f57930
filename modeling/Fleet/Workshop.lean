import Fleet.Display
import Fleet.FileSystem.Walk
import Fleet.Outcome

namespace Fleet

/-! # Taking repositories one by one

Cloning and committing take the repositories of a campaign one after the other, tell what they do
and count what came of each.  No failure keeps them from going on.
-/

/-- The display, the files and what the executor remembers, while repositories are taken. -/
structure Workshop (σ : Type) where
  display : Sink
  files : FileSystem
  executor : σ
  summary : Summary := {}

namespace Workshop

variable {σ : Type}

/-- Writes a line, whether the display takes it or not. -/
def say (w : Workshop σ) (line : String) : Workshop σ :=
  { w with display := w.display.sayLine line }

/-- Takes the repositories of a list one after the other, and counts what came of each. -/
def forEach (take : Workshop σ → Repository → Workshop σ × Outcome) (repos : List Repository)
    (w : Workshop σ) : Workshop σ :=
  repos.foldl (fun w repo =>
    let (w, outcome) := take w repo
    { w with summary := w.summary.add outcome }) w

end Workshop

end Fleet

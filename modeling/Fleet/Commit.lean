import Fleet.Git
import Fleet.Run

namespace Fleet

/-! # Committing a campaign

In each working copy of a campaign that has changes, they are committed.  Working copies that are
missing or have none are passed over.
-/

namespace Workshop

variable {σ : Type}

/-- Commits the changes in a working copy, if there is one and it has any. -/
def commitOne (x : Executor σ) (workRoot : Path) (message : String) (w : Workshop σ)
    (repo : Repository) : Workshop σ × Outcome :=
  let dir := repo.workDir workRoot
  if w.files.isPresent dir then
    match Git.isChanged x dir (w.say (Run.heading repo)) with
    | (w, .error e) =>
      (w.say ("Error when checking for changes in " ++ repo.fullName ++ ": " ++ e.message), .failed)
    | (w, .ok false) =>
      (w.say ("No changes in " ++ repo.fullName ++ " - skipping commit"), .skipped)
    | (w, .ok true) =>
      match Git.commitAll x dir message (w.say ("Committing changes in " ++ repo.fullName)) with
      | (w, .ok ()) => (w, .succeeded)
      | (w, .error e) =>
        (w.say ("Error when committing changes in " ++ repo.fullName ++ ": " ++ e.message), .failed)
  else (w.say (Run.absence "Not committing in " repo dir), .skipped)

/-- Commits the changes in the working copies of a list. -/
def commit (x : Executor σ) (repos : List Repository) (workRoot : Path) (message : String) :
    Workshop σ → Workshop σ :=
  forEach (commitOne x workRoot message) repos

end Workshop

end Fleet

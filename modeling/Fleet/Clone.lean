import Fleet.FileSystem.Operations
import Fleet.Git

namespace Fleet

/-! # Cloning a campaign

Each repository of a campaign is cloned into its place below the directory of working copies, and
the branch of the campaign is made in it.  A working copy that exists is left alone.
-/

namespace Workshop

variable {σ : Type}

/-- Clones a repository and makes the branch of the campaign in it. -/
def cloneAndBranch (x : Executor σ) (campaign : String) (workRoot : Path) (defaultHost : String)
    (repo : Repository) (w : Workshop σ) : Workshop σ × Except Error Unit :=
  match Git.clone x (workRoot / repo.org) (repo.cloneUrl defaultHost) repo.name w with
  | (w, .error e) => (w, .error e)
  | (w, .ok ()) => Git.checkoutNew x (repo.workDir workRoot) campaign w

/-- Clones a repository, unless its working copy exists. -/
def cloneOne (x : Executor σ) (campaign : String) (workRoot : Path) (defaultHost : String)
    (w : Workshop σ) (repo : Repository) : Workshop σ × Outcome :=
  let dir := repo.workDir workRoot
  let orgDir := workRoot / repo.org
  if w.files.isPresent dir then
    (w.say ("Skipping " ++ repo.fullName ++ ": " ++ dir.text ++ " already exists"), .skipped)
  else
    let w := w.say ("== Cloning " ++ repo.fullName ++ " into " ++ dir.text ++ " =>")
    match w.files.makeDirectories orgDir with
    | (files, .error e) =>
      ({ w with files }.say ("Unable to create " ++ orgDir.text ++ ": " ++ e.text), .failed)
    | (files, .ok ()) =>
      match cloneAndBranch x campaign workRoot defaultHost repo { w with files } with
      | (w, .ok ()) => (w, .succeeded)
      | (w, .error e) =>
        (w.say ("Error when cloning " ++ repo.fullName ++ ": " ++ e.message), .failed)

/-- Clones the repositories of a campaign. -/
def clone (x : Executor σ) (campaign : String) (repos : List Repository) (workRoot : Path)
    (defaultHost : String) : Workshop σ → Workshop σ :=
  forEach (cloneOne x campaign workRoot defaultHost) repos

end Workshop

end Fleet

import Fleet.Executor
import Fleet.ResultSet

namespace Fleet

/-! # Runs

A run takes the repositories of a list one after the other.  If a repository has no working copy, it
is skipped; else the command is run there.  What came of it is recorded and counted before the next
repository has its turn, and nothing that happens with one repository stops the run.

The display may break at any time: what is written for a repository goes to a copy of its own, which
becomes its log.
-/

/-- What keeps the results of a run; `ρ` is what it has kept. -/
structure Recorder (ρ : Type) where
  record : Result → ρ → FileSystem → ρ × FileSystem

namespace Recorder

/-- Keeps the results themselves, latest first. -/
def collecting : Recorder (List Result) where
  record result kept fs := (result :: kept, fs)

/-- Writes a result set, and keeps the warnings about what could not be written, latest first. -/
def toSet (set : ResultSet) : Recorder (List String) where
  record result warnings fs :=
    match set.record result fs with
    | (fs, .ok ()) => (warnings, fs)
    | (fs, .error e) => (ResultSet.warning result.repo e :: warnings, fs)

end Recorder

/-- What a run does in each repository. -/
structure Job where
  workRoot : Path
  command : String
  args : List String
  deriving DecidableEq, Repr

/-- A run between two repositories. -/
structure Progress (σ ρ : Type) where
  display : Sink
  files : FileSystem
  executor : σ
  records : ρ
  summary : Summary := {}

namespace Run

variable {σ ρ : Type}

/-- The line about a repository without a working copy. -/
def absence (verb : String) (repo : Repository) (dir : Path) : String :=
  verb ++ repo.fullName ++ " as the directory " ++ dir.text ++
    " does not exist - has it been cloned?"

/-- The line in front of what is done in a repository. -/
def heading (repo : Repository) : String := "== " ++ repo.fullName ++ " =>"

/-- The line about a command that failed. -/
def complaint (repo : Repository) (e : Error) : String :=
  "Error when executing command in " ++ repo.fullName ++ ": " ++ e.message

/-- Runs the command in a working copy. -/
def execute (x : Executor σ) (job : Job) (repo : Repository) (p : Progress σ ρ) :
    Result × Progress σ ρ :=
  let request : Request := ⟨repo.workDir job.workRoot, job.command, job.args⟩
  let display := p.display.sayLine (heading repo)
  let ((result, executor, files), tee) :=
    (x.execute request p.executor p.files).teed { sink := display }
  match result with
  | .ok () => (⟨repo, .succeeded, tee.log⟩, { p with display := tee.sink, files, executor })
  | .error e =>
    let tee := tee.say (Text.encode (complaint repo e ++ "\n"))
    (⟨repo, .failed, tee.log⟩, { p with display := tee.sink, files, executor })

/-- What comes of one repository. -/
def visit (x : Executor σ) (job : Job) (repo : Repository) (p : Progress σ ρ) :
    Result × Progress σ ρ :=
  let dir := repo.workDir job.workRoot
  if p.files.isPresent dir then execute x job repo p
  else
    (⟨repo, .skipped, ""⟩,
      { p with display := p.display.sayLine (absence "Not running against " repo dir) })

/-- Takes one repository: visits it, records and counts what came of it. -/
def step (x : Executor σ) (r : Recorder ρ) (job : Job) (p : Progress σ ρ) (repo : Repository) :
    Progress σ ρ :=
  let (result, p) := visit x job repo p
  let (records, files) := r.record result p.records p.files
  { p with records, files, summary := p.summary.add result.outcome }

/-- Takes all repositories of a list. -/
def run (x : Executor σ) (r : Recorder ρ) (job : Job) (repos : List Repository)
    (p : Progress σ ρ) : Progress σ ρ :=
  repos.foldl (step x r job) p

end Run

end Fleet

import Fleet.Run
import Mathlib.Data.List.Nodup

namespace Fleet

/-! # The results of a run

A run makes one result for each repository it takes, in order (`Run.results`), and a run over one
list and then another is a run over both (`run_append`).  Its summary counts the results
(`summary_run`).
-/

/-- The outcome that is kept in a bucket. -/
def Bucket.outcome : Bucket → Outcome
  | .successful => .succeeded
  | .failed => .failed

theorem Outcome.bucket?_eq_some {o : Outcome} {b : Bucket} :
    o.bucket? = some b ↔ o = b.outcome := by
  cases o <;> cases b <;> simp [bucket?, Bucket.outcome]

/-- No count goes down. -/
theorem Summary.le_add (s : Summary) (o : Outcome) :
    s.done ≤ (s.add o).done ∧ s.skipped ≤ (s.add o).skipped ∧ s.errored ≤ (s.add o).errored := by
  cases o <;> simp [add]

/-! ## Talking to a copy -/

namespace Talk

variable {α : Type}

/-- What a computation comes to if every write is taken, and nothing refuses to be flushed. -/
def heard : Talk α → α
  | done a => a
  | say _ next => (next (.ok ())).heard
  | flush next => (next (.ok ())).heard

/-- A copy takes every write, whatever becomes of the display behind it. -/
theorem teed_fst (talk : Talk α) (tee : Tee) : (talk.teed tee).1 = talk.heard := by
  induction talk generalizing tee with
  | done a => rfl
  | say bytes next ih => exact ih (.ok ()) _
  | flush next ih => exact ih (.ok ()) _

end Talk

namespace Run

variable {σ ρ : Type} {x : Executor σ} {r : Recorder ρ} {job : Job} {p : Progress σ ρ}

/-- The request that is made in the working copy of a repository. -/
def request (job : Job) (repo : Repository) : Request :=
  ⟨repo.workDir job.workRoot, job.command, job.args⟩

/-! ## One repository -/

theorem execute_cases (x : Executor σ) (job : Job) (repo : Repository) (p : Progress σ ρ) :
    ∃ result p', execute x job repo p = (result, p') ∧ result.repo = repo ∧
      result.outcome ≠ .skipped ∧ p'.records = p.records ∧ p'.summary = p.summary ∧
      (p'.executor, p'.files) = (x.execute (request job repo) p.executor p.files).heard.2 := by
  have hheard := Talk.teed_fst (x.execute (request job repo) p.executor p.files)
    { sink := p.display.sayLine (heading repo) }
  rcases htold : (x.execute (request job repo) p.executor p.files).teed
    { sink := p.display.sayLine (heading repo) } with ⟨⟨done, executor, files⟩, tee⟩
  rw [htold] at hheard
  rw [request] at htold
  simp only [execute, htold, ← hheard]
  cases done with
  | ok _ => exact ⟨_, _, rfl, rfl, by simp, rfl, rfl, rfl⟩
  | error e => exact ⟨_, _, rfl, rfl, by simp, rfl, rfl, rfl⟩

/-- Visiting a repository calls the executor in its working copy, and does nothing else to the
files. -/
theorem visit_cases (x : Executor σ) (job : Job) (repo : Repository) (p : Progress σ ρ) :
    ∃ result p', visit x job repo p = (result, p') ∧ result.repo = repo ∧
      p'.records = p.records ∧ p'.summary = p.summary ∧
      ((p.files.isPresent (repo.workDir job.workRoot) = false ∧ result.outcome = .skipped ∧
          p'.files = p.files ∧ p'.executor = p.executor) ∨
        (p.files.isPresent (repo.workDir job.workRoot) = true ∧ result.outcome ≠ .skipped ∧
          (p'.executor, p'.files) =
            (x.execute (request job repo) p.executor p.files).heard.2)) := by
  simp only [visit]
  split
  · next hthere =>
    obtain ⟨result, p', hexecute, hrepo, houtcome, hrecords, hsummary, hheard⟩ :=
      execute_cases x job repo p
    exact ⟨result, p', hexecute, hrepo, hrecords, hsummary, .inr ⟨hthere, houtcome, hheard⟩⟩
  · next hthere =>
    exact ⟨_, _, rfl, rfl, rfl, rfl, .inl ⟨Bool.eq_false_iff.2 hthere, rfl, rfl, rfl⟩⟩

/-- When a repository has been visited, what came of it is recorded. -/
theorem step_files (s : ResultSet) (repo : Repository) (p : Progress σ (List String)) :
    (step x (.toSet s) job p repo).files =
      (s.record (visit x job repo p).1 (visit x job repo p).2.files).1 := by
  simp only [step, Recorder.toSet]
  rcases s.record (visit x job repo p).1 (visit x job repo p).2.files with ⟨files, e | ⟨⟩⟩
  · rfl
  · rfl

/-! ## All repositories -/

/-- What came of the repositories of a list, in order. -/
def results (x : Executor σ) (r : Recorder ρ) (job : Job) :
    List Repository → Progress σ ρ → List Result
  | [], _ => []
  | repo :: rest, p => (visit x job repo p).1 :: results x r job rest (step x r job p repo)

@[simp] theorem run_nil : run x r job [] p = p := rfl

@[simp] theorem run_cons (repo : Repository) (rest : List Repository) :
    run x r job (repo :: rest) p = run x r job rest (step x r job p repo) := by
  rw [run, List.foldl_cons, run]

theorem run_append (repos more : List Repository) :
    run x r job (repos ++ more) p = run x r job more (run x r job repos p) :=
  List.foldl_append

/-- There is one result for each repository. -/
theorem map_repo_results (repos : List Repository) :
    (results x r job repos p).map (·.repo) = repos := by
  induction repos generalizing p with
  | nil => rfl
  | cons repo rest ih =>
    obtain ⟨result, p', hvisit, hrepo, -⟩ := visit_cases x job repo p
    simp [results, ih, hvisit, hrepo]

theorem length_results (repos : List Repository) :
    (results x r job repos p).length = repos.length := by
  rw [← List.length_map (f := (·.repo)), map_repo_results]

/-! ## Counting -/

/-- The repositories with an outcome, in order. -/
def reposWith (o : Outcome) (results : List Result) : List Repository :=
  (results.filter (·.outcome = o)).map (·.repo)

theorem reposWith_append (o : Outcome) (rs more : List Result) :
    reposWith o (rs ++ more) = reposWith o rs ++ reposWith o more := by
  simp [reposWith]

theorem mem_repos_of_mem_reposWith {o : Outcome} {rs : List Result} {repo : Repository}
    (h : repo ∈ reposWith o rs) : repo ∈ rs.map (·.repo) := by
  obtain ⟨result, hresult, rfl⟩ := List.mem_map.1 h
  exact List.mem_map_of_mem (List.mem_of_mem_filter hresult)

theorem step_summary (repo : Repository) :
    (step x r job p repo).summary = p.summary.add (visit x job repo p).1.outcome := by
  obtain ⟨result, p', hvisit, -, -, hsummary, -⟩ := visit_cases x job repo p
  simp [step, hvisit, hsummary]

/-- The summary of a run counts its results. -/
theorem summary_run (repos : List Repository) :
    (run x r job repos p).summary =
      { done := p.summary.done + (reposWith .succeeded (results x r job repos p)).length
        skipped := p.summary.skipped + (reposWith .skipped (results x r job repos p)).length
        errored := p.summary.errored + (reposWith .failed (results x r job repos p)).length } := by
  induction repos generalizing p with
  | nil => rfl
  | cons repo rest ih =>
    rw [run_cons, ih, step_summary, results]
    -- the first result counts in front of those of the rest, under its own outcome
    cases ho : (visit x job repo p).1.outcome <;>
      simp [Summary.add, reposWith, ho, Nat.add_assoc, Nat.add_comm]

/-- Every result has one of the three outcomes. -/
theorem length_reposWith (rs : List Result) :
    (reposWith .succeeded rs).length + (reposWith .skipped rs).length +
      (reposWith .failed rs).length = rs.length := by
  induction rs with
  | nil => rfl
  | cons result rs ih =>
    simp only [reposWith, List.length_map] at ih ⊢
    cases ho : result.outcome <;> simp [ho] <;> omega

/-- A repository that occurs once has one outcome. -/
theorem disjoint_reposWith {rs : List Result} (h : (rs.map (·.repo)).Nodup) {o o' : Outcome}
    (hne : o ≠ o') {repo : Repository} (hrepo : repo ∈ reposWith o rs) :
    repo ∉ reposWith o' rs := by
  intro hrepo'
  obtain ⟨result, hresult, rfl⟩ := List.mem_map.1 hrepo
  obtain ⟨result', hresult', hsame⟩ := List.mem_map.1 hrepo'
  obtain ⟨hmem, ho⟩ := List.mem_filter.1 hresult
  obtain ⟨hmem', ho'⟩ := List.mem_filter.1 hresult'
  obtain rfl := List.inj_on_of_nodup_map h hmem' hmem hsame
  exact hne ((of_decide_eq_true ho).symm.trans (of_decide_eq_true ho'))

end Run

end Fleet

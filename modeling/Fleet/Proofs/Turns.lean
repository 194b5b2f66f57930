import Fleet.Proofs.Display

namespace Fleet

/-! # The turns of a run

In its turn a repository is looked for; if its working copy is there, the command is called in it,
once; then the result is recorded, and then it is counted (`Run.Turn`).  Each of these meets the
files as the one before has left them, so whether a command is called depends on what all earlier
turns have made of the files.

One step of a run is a turn (`Run.turn_step`), so a run is one turn after the other, and from the
states in which the turns begin all its calls can be told (`Run.calls_exactly`).
-/

/-- How a repository ends whose command came to an answer. -/
def Outcome.ofAnswer : Except Error Unit → Outcome
  | .ok () => .succeeded
  | .error _ => .failed

namespace Run

variable {σ ρ : Type} {x : Executor σ} {r : Recorder ρ} {job : Job}

/-! ## One turn -/

/-- A result is given to the recorder, with the files as they are by then, and is counted. -/
structure Settles (r : Recorder ρ) (result : Result) (files : FileSystem)
    (p p' : Progress σ (ρ × List Result)) : Prop where
  recorded : (p'.records.1, p'.files) = r.record result p.records.1 files
  given : p'.records.2 = result :: p.records.2
  counted : p'.summary = p.summary.add result.outcome

/-- What a turn makes of a run whose calls and results are remembered, latest first. -/
inductive Turn (x : Executor σ) (r : Recorder ρ) (job : Job) (repo : Repository)
    (p p' : Progress (σ × List Call) (ρ × List Result)) : Prop where
  /-- There is no working copy: nothing is called. -/
  | skips (habsent : p.files.isPresent (repo.workDir job.workRoot) = false)
      (hidle : p'.executor = p.executor)
      (hsettles : Settles r ⟨repo, .skipped, ""⟩ p.files p p')
  /-- There is a working copy: the command is called in it once, and comes to an answer. -/
  | calls (hthere : p.files.isPresent (repo.workDir job.workRoot) = true)
      (answer : Except Error Unit) (files : FileSystem) (log : String)
      (hanswer : (x.execute (request job repo) p.executor.1 p.files).heard =
        (answer, p'.executor.1, files))
      (hcalled : p'.executor.2 = ⟨.execute, request job repo⟩ :: p.executor.2)
      (hsettles : Settles r ⟨repo, .ofAnswer answer, log⟩ files p p')

theorem resultOf_eq (repo : Repository) (said : List UInt8) (answer : Except Error Unit) :
    ∃ log, resultOf repo said answer = ⟨repo, .ofAnswer answer, log⟩ := by
  cases answer with
  | ok _ => exact ⟨_, rfl⟩
  | error e => exact ⟨_, rfl⟩

theorem visit_of_absent (x : Executor σ) {repo : Repository} {p : Progress σ ρ}
    (h : p.files.isPresent (repo.workDir job.workRoot) = false) :
    visit x job repo p = (⟨repo, .skipped, ""⟩, { p with
      display := p.display.sayLine
        (absence "Not running against " repo (repo.workDir job.workRoot)) }) := by
  simp [visit, h]

theorem visit_of_present (x : Executor σ) {repo : Repository} {p : Progress σ ρ}
    (h : p.files.isPresent (repo.workDir job.workRoot) = true) :
    visit x job repo p = execute x job repo p := by
  simp [visit, h]

/-- What is recorded is what came of the visit. -/
theorem settles_step (x : Executor σ) (r : Recorder ρ) (job : Job) (repo : Repository)
    (p : Progress σ (ρ × List Result)) :
    Settles r (visit x job repo p).1 (visit x job repo p).2.files p
      (step x r.logged job p repo) := by
  obtain ⟨result, p', hvisit, -, hrecords, hsummary, -⟩ := visit_cases x job repo p
  rw [hvisit]
  refine ⟨?_, ?_, ?_⟩ <;> simp [step, Recorder.logged, hvisit, hrecords, hsummary]

/-- A step of a run is a turn. -/
theorem turn_step (x : Executor σ) (r : Recorder ρ) (job : Job) (repo : Repository)
    (p : Progress (σ × List Call) (ρ × List Result)) :
    Turn x r job repo p (step x.logged r.logged job p repo) := by
  have hsettles := settles_step x.logged r job repo p
  have hexecutor : (step x.logged r.logged job p repo).executor =
      (visit x.logged job repo p).2.executor := rfl
  cases hthere : p.files.isPresent (repo.workDir job.workRoot) with
  | false =>
    rw [visit_of_absent x.logged hthere] at hsettles hexecutor
    exact .skips hthere hexecutor hsettles
  | true =>
    obtain ⟨hresult, hstate, hfiles, -, -⟩ := execute_result x.logged job repo p
    rw [visit_of_present x.logged hthere] at hsettles hexecutor
    rw [hresult, hfiles] at hsettles
    rw [hstate] at hexecutor
    -- remembering a call changes nothing of the answer
    have hlogged : (x.logged.execute (request job repo) p.executor p.files).heard =
        ((x.execute (request job repo) p.executor.1 p.files).heard.1,
          ((x.execute (request job repo) p.executor.1 p.files).heard.2.1,
            ⟨.execute, request job repo⟩ :: p.executor.2),
          (x.execute (request job repo) p.executor.1 p.files).heard.2.2) := by
      simp [Executor.logged, Talk.heard_bind]
    rw [hlogged] at hsettles hexecutor
    obtain ⟨log, hlog⟩ := resultOf_eq repo
      (x.logged.execute (request job repo) p.executor p.files).said
      (x.execute (request job repo) p.executor.1 p.files).heard.1
    rw [hlog] at hsettles
    refine .calls hthere _ _ log ?_ ?_ hsettles
    · rw [hexecutor]
    · rw [hexecutor]

/-! ## One turn after the other -/

/-- Before its turn a repository finds the run as those before it have left it. -/
theorem run_take_succ (repos : List Repository) (p : Progress σ ρ) {k : Nat}
    (hk : k < repos.length) :
    run x r job (repos.take (k + 1)) p = step x r job (run x r job (repos.take k) p) repos[k] := by
  rw [List.take_succ_eq_append_getElem hk, run_append]
  rfl

/-- The results of a run, each from the state in which its turn begins. -/
theorem results_eq (x : Executor σ) (r : Recorder ρ) (job : Job) (repos : List Repository)
    (p : Progress σ ρ) : results x r job repos p =
      repos.zipIdx.map fun t => (visit x job t.1 (run x r job (repos.take t.2) p)).1 := by
  induction repos generalizing p with
  | nil => rfl
  | cons repo rest ih =>
    rw [results, ih, List.zipIdx_cons', List.map_cons, List.map_map]
    rfl

/-- Exactly those repositories are called for whose working copy is there when their turn comes. -/
theorem callsOf_results (x : Executor σ) (r : Recorder ρ) (job : Job) (repos : List Repository)
    (p : Progress σ ρ) : callsOf job (results x r job repos p) =
      (repos.zipIdx.filter fun t =>
        (run x r job (repos.take t.2) p).files.isPresent (t.1.workDir job.workRoot)).map
        fun t => ⟨.execute, request job t.1⟩ := by
  have hvisit : ∀ repo (p : Progress σ ρ), (visit x job repo p).1.repo = repo ∧
      decide ((visit x job repo p).1.outcome ≠ .skipped) =
        p.files.isPresent (repo.workDir job.workRoot) := by
    intro repo p
    obtain ⟨result, p', hvisit, hrepo, -, -, hcases⟩ := visit_cases x job repo p
    rw [hvisit]
    rcases hcases with ⟨habsent, hskipped, -⟩ | ⟨hthere, hcalled, -⟩
    · exact ⟨hrepo, by simp [habsent, hskipped]⟩
    · exact ⟨hrepo, by simp [hthere, hcalled]⟩
  rw [callsOf, results_eq, List.filter_map, List.map_map]
  simp only [Function.comp_def, (hvisit _ _).1, (hvisit _ _).2]

/-- The calls of a run are, in the order of the list, one call of the unchanged command in the
working copy of each repository that is there in the state left by all repositories before it, and
no others.  Every repository is recorded once, in order, and the summary counts the results.  Each
repository has its turn in the state that the turns before it have left. -/
theorem calls_exactly (x : Executor σ) (r : Recorder ρ) (job : Job) (repos : List Repository)
    (files : FileSystem) (state : σ) (kept : ρ) (display : Sink) :
    let start : Progress (σ × List Call) (ρ × List Result) :=
      { display, files, executor := (state, []), records := (kept, []) }
    let before (k : Nat) := run x.logged r.logged job (repos.take k) start
    let stop := run x.logged r.logged job repos start
    let results := stop.records.2.reverse
    stop.executor.2.reverse =
        (repos.zipIdx.filter fun t =>
          (before t.2).files.isPresent (t.1.workDir job.workRoot)).map
          (fun t => ⟨.execute, ⟨t.1.workDir job.workRoot, job.command, job.args⟩⟩) ∧
      results.map (·.repo) = repos ∧
      stop.summary = ⟨(reposWith .succeeded results).length, (reposWith .skipped results).length,
        (reposWith .failed results).length⟩ ∧
      before 0 = start ∧ before repos.length = stop ∧
      ∀ k, (hk : k < repos.length) → Turn x r job repos[k] (before k) (before (k + 1)) := by
  intro start before stop results
  have hcalls := calls_run x r.logged job repos start
  have hrecords := records_run x.logged r job repos start
  have hresults : results = Run.results x.logged r.logged job repos start := by
    simpa [start, results, stop] using congrArg List.reverse hrecords
  refine ⟨?_, ?_, ?_, rfl, ?_, ?_⟩
  · rw [callsOf_results] at hcalls
    simpa [start, stop, before, request] using congrArg List.reverse hcalls
  · rw [hresults, map_repo_results]
  · have hsummary : stop.summary = _ := summary_run repos
    rw [hresults]
    simpa [start] using hsummary
  · simp only [before, List.take_length]
    rfl
  · intro k hk
    have hstep : before (k + 1) = step x.logged r.logged job (before k) repos[k] :=
      run_take_succ repos start hk
    rw [hstep]
    exact turn_step x r job repos[k] (before k)

end Run

end Fleet

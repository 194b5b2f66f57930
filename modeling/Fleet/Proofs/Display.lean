import Fleet.Proofs.Run

namespace Fleet

/-! # A run and its display

What a run does for a repository goes to a copy that takes everything, so nothing but the display
itself depends on how much of it the display takes.  Two runs that differ only in the display
(`Progress.Alike`) stay so with every repository (`Run.step_alike`), so they make the same results
and the same calls and leave the same files (`Run.run_alike`).
-/

namespace Talk

variable {α β : Type}

/-- What a computation writes if every write is taken, and nothing refuses to be flushed. -/
def said : Talk α → List UInt8
  | done _ => []
  | say bytes next => bytes ++ (next (.ok ())).said
  | flush next => (next (.ok ())).said

/-- A copy takes every write. -/
theorem teed_copy (talk : Talk α) (tee : Tee) :
    (talk.teed tee).2.copy.toList = tee.copy.toList ++ talk.said := by
  induction talk generalizing tee with
  | done a => simp [teed, said]
  | say bytes next ih =>
    rw [teed, ih (.ok ()), said]
    simp [Tee.say]
  | flush next ih => exact ih (.ok ()) tee

@[simp] theorem heard_pure (a : α) : (pure a : Talk α).heard = a := rfl

theorem heard_bind (talk : Talk α) (f : α → Talk β) :
    (talk >>= f).heard = (f talk.heard).heard := by
  induction talk with
  | done a => rfl
  | say bytes next ih => exact ih (.ok ())
  | flush next ih => exact ih (.ok ())

end Talk

namespace Recorder

variable {ρ : Type}

/-- The same recorder, which also remembers every result, latest first. -/
def logged (r : Recorder ρ) : Recorder (ρ × List Result) where
  record result kept fs :=
    let (records, fs) := r.record result kept.1 fs
    ((records, result :: kept.2), fs)

end Recorder

/-- Two runs between two repositories that differ at most in what their displays have taken. -/
structure Progress.Alike {σ ρ : Type} (p p' : Progress σ ρ) : Prop where
  files : p.files = p'.files
  executor : p.executor = p'.executor
  records : p.records = p'.records
  summary : p.summary = p'.summary

namespace Run

variable {σ ρ : Type} {x : Executor σ} {r : Recorder ρ} {job : Job} {p p' : Progress σ ρ}

/-! ## The same with any display -/

/-- What is made of what a command came to and wrote. -/
def resultOf (repo : Repository) (said : List UInt8) : Except Error Unit → Result
  | .ok () => ⟨repo, .succeeded, String.ofList (Text.decodeLossy said)⟩
  | .error e =>
    ⟨repo, .failed,
      String.ofList (Text.decodeLossy (said ++ Text.encode (complaint repo e ++ "\n")))⟩

/-- A command is run with a copy of its own, so its result is made of what it came to and wrote when
every write was taken. -/
theorem execute_result (x : Executor σ) (job : Job) (repo : Repository) (p : Progress σ ρ) :
    let talk := x.execute (request job repo) p.executor p.files
    (execute x job repo p).1 = resultOf repo talk.said talk.heard.1 ∧
      (execute x job repo p).2.executor = talk.heard.2.1 ∧
      (execute x job repo p).2.files = talk.heard.2.2 ∧
      (execute x job repo p).2.records = p.records ∧
      (execute x job repo p).2.summary = p.summary := by
  intro talk
  have hheard := Talk.teed_fst talk { sink := p.display.sayLine (heading repo) }
  have hsaid := Talk.teed_copy talk { sink := p.display.sayLine (heading repo) }
  rcases htold : talk.teed { sink := p.display.sayLine (heading repo) } with
    ⟨⟨answer, executor, files⟩, tee⟩
  rw [htold] at hheard hsaid
  simp only [List.nil_append] at hsaid
  simp only [talk, request] at htold
  simp only [execute, htold, ← hheard, ← hsaid]
  cases answer with
  | ok _ => exact ⟨rfl, rfl, rfl, rfl, rfl⟩
  | error e => exact ⟨by simp [resultOf, Talk.Tee.log, Talk.Tee.say], rfl, rfl, rfl, rfl⟩

theorem execute_alike (h : p.Alike p') (repo : Repository) :
    (execute x job repo p).1 = (execute x job repo p').1 ∧
      (execute x job repo p).2.Alike (execute x job repo p').2 := by
  obtain ⟨hresult, hexecutor, hfiles, hrecords, hsummary⟩ := execute_result x job repo p
  obtain ⟨hresult', hexecutor', hfiles', hrecords', hsummary'⟩ := execute_result x job repo p'
  rw [← h.executor, ← h.files] at hresult' hexecutor' hfiles'
  rw [← h.records] at hrecords'
  rw [← h.summary] at hsummary'
  exact ⟨hresult.trans hresult'.symm, hfiles.trans hfiles'.symm, hexecutor.trans hexecutor'.symm,
    hrecords.trans hrecords'.symm, hsummary.trans hsummary'.symm⟩

theorem visit_alike (x : Executor σ) (job : Job) (h : p.Alike p') (repo : Repository) :
    (visit x job repo p).1 = (visit x job repo p').1 ∧
      (visit x job repo p).2.Alike (visit x job repo p').2 := by
  simp only [visit, ← h.files]
  split
  · exact execute_alike h repo
  · exact ⟨rfl, rfl, h.executor, h.records, h.summary⟩

theorem step_alike (h : p.Alike p') (repo : Repository) :
    (step x r job p repo).Alike (step x r job p' repo) := by
  obtain ⟨hresult, hafter⟩ := visit_alike x job h repo
  constructor <;>
    simp only [step, hresult, hafter.files, hafter.executor, hafter.records, hafter.summary]

/-- Two runs that differ only in the display make the same results and go on to do so. -/
theorem run_alike (x : Executor σ) (r : Recorder ρ) (job : Job) (h : p.Alike p')
    (repos : List Repository) :
    (run x r job repos p).Alike (run x r job repos p') ∧
      results x r job repos p = results x r job repos p' := by
  induction repos generalizing p p' with
  | nil => exact ⟨h, rfl⟩
  | cons repo rest ih =>
    obtain ⟨hstop, hrest⟩ := ih (step_alike h repo)
    exact ⟨hstop, congrArg₂ List.cons (visit_alike x job h repo).1 hrest⟩

/-! ## What is called and what is recorded -/

/-- The calls that results tell of: one for each repository that was not skipped. -/
def callsOf (job : Job) (results : List Result) : List Call :=
  (results.filter (·.outcome ≠ .skipped)).map fun result => ⟨.execute, request job result.repo⟩

theorem callsOf_cons (result : Result) (rest : List Result) :
    callsOf job (result :: rest) = callsOf job [result] ++ callsOf job rest := by
  cases ho : result.outcome <;> simp [callsOf, ho]

/-- The executor is called once for a repository that is not skipped, and not for one that is. -/
theorem visit_logged (repo : Repository) (p : Progress (σ × List Call) ρ) :
    (visit x.logged job repo p).2.executor.2 =
      (callsOf job [(visit x.logged job repo p).1]).reverse ++ p.executor.2 := by
  obtain ⟨result, p', hvisit, rfl, -, -, hcases⟩ := visit_cases x.logged job repo p
  rw [hvisit]
  rcases hcases with ⟨-, hskipped, -, hexecutor⟩ | ⟨-, hcalled, hheard⟩
  · simp [callsOf, hskipped, hexecutor]
  · have hexecutor := congrArg (fun state => state.1.2) hheard
    simp only [Executor.logged, Talk.heard_bind] at hexecutor
    simpa [callsOf, hcalled] using hexecutor

/-- The calls of a run are those that its results tell of, in order. -/
theorem calls_run (x : Executor σ) (r : Recorder ρ) (job : Job) (repos : List Repository)
    (p : Progress (σ × List Call) ρ) :
    (run x.logged r job repos p).executor.2 =
      (callsOf job (results x.logged r job repos p)).reverse ++ p.executor.2 := by
  induction repos generalizing p with
  | nil => rfl
  | cons repo rest ih =>
    have hstep : (step x.logged r job p repo).executor = (visit x.logged job repo p).2.executor :=
      rfl
    rw [run_cons, ih, hstep, visit_logged, results,
      callsOf_cons (visit x.logged job repo p).1 (results _ _ _ _ _), List.reverse_append,
      List.append_assoc]

/-- What a recorder is given in a run are the results, in order. -/
theorem records_run (x : Executor σ) (r : Recorder ρ) (job : Job) (repos : List Repository)
    (p : Progress σ (ρ × List Result)) :
    (run x r.logged job repos p).records.2 =
      (results x r.logged job repos p).reverse ++ p.records.2 := by
  induction repos generalizing p with
  | nil => rfl
  | cons repo rest ih =>
    obtain ⟨result, p', hvisit, -, hrecords, -⟩ := visit_cases x job repo p
    have hstep : (step x r.logged job p repo).records.2 =
        (visit x job repo p).1 :: p.records.2 := by
      simp [step, Recorder.logged, hvisit, hrecords]
    rw [run_cons, ih, hstep, results]
    simp

/-- Whatever becomes of the display, a run comes to the same summary, makes the same calls in the
same order, gives the recorder the same results with the same logs, and leaves the same files.
There is one result for each repository, and one call for each that is not skipped. -/
theorem run_eq_on_displays (x : Executor σ) (r : Recorder ρ) (job : Job) (repos : List Repository)
    (files : FileSystem) (state : σ) (kept : ρ) (d d' : Sink) :
    let start (display : Sink) : Progress (σ × List Call) (ρ × List Result) :=
      { display, files, executor := (state, []), records := (kept, []) }
    let stop := run x.logged r.logged job repos (start d)
    let stop' := run x.logged r.logged job repos (start d')
    stop.summary = stop'.summary ∧ stop.executor.2 = stop'.executor.2 ∧
      stop.records.2 = stop'.records.2 ∧ stop.files = stop'.files ∧
      stop.records.2.reverse.map (·.repo) = repos ∧
      stop.executor.2.reverse = callsOf job stop.records.2.reverse := by
  intro start stop stop'
  have hstart : (start d).Alike (start d') := ⟨rfl, rfl, rfl, rfl⟩
  obtain ⟨hstop, -⟩ := run_alike x.logged r.logged job hstart repos
  have hrecords : stop.records.2 = (results x.logged r.logged job repos (start d)).reverse := by
    simpa [start] using records_run x.logged r job repos (start d)
  have hcalls : stop.executor.2 =
      (callsOf job (results x.logged r.logged job repos (start d))).reverse := by
    simpa [start] using calls_run x r.logged job repos (start d)
  refine ⟨hstop.summary, congrArg Prod.snd hstop.executor, congrArg Prod.snd hstop.records,
    hstop.files, ?_, ?_⟩
  · rw [hrecords, List.reverse_reverse, map_repo_results]
  · rw [hcalls, hrecords, List.reverse_reverse, List.reverse_reverse]

end Run

end Fleet

import Fleet.Proofs.CloneAgain
import Fleet.Proofs.Display

namespace Fleet

/-! # A clone without errors is complete

When a campaign has been cloned and nothing was counted as an error, every working copy is there
(`Workshop.present_of_clean`): it was there at its turn or was made then, and no turn takes any
away.  So a second clone runs nothing and skips every repository, and a run takes every repository
(`Workshop.clone_completes`).

What is relied on of those who run commands is `Executor.Spares`, that a working copy which is there
stays, and of `git` also `Git.MakesCopies`.  A result set spares whatever is there
(`Recorder.toSet_spares`).
-/

namespace Talk

variable {α : Type}

/-- A display that takes everything hears all of it. -/
theorem on_unbroken (talk : Talk α) (sink : Sink) (hroom : sink.room = none)
    (hstuck : sink.stuck = false) : (talk.on sink).1 = talk.heard := by
  induction talk generalizing sink with
  | done a => rfl
  | say bytes next ih =>
    simp only [on, Sink.write, hroom]
    exact ih _ _ rfl hstuck
  | flush next ih =>
    simp only [on, Sink.flush, hstuck]
    exact ih _ _ hroom hstuck

end Talk

/-! ## What stays -/

namespace Executor

variable {σ : Type} {x : Executor σ} {asked : Request → Prop} {p : Path}

/-- Of the commands that are asked for, none takes away what is there at a path. -/
def Spares (x : Executor σ) (asked : Request → Prop) (p : Path) : Prop :=
  ∀ request state fs sink, asked request → fs.isPresent p = true →
    ((x.execute request state fs).on sink).1.2.2.isPresent p = true

theorem Spares.heard (hx : x.Spares asked p) {request : Request} (hasked : asked request)
    (state : σ) {fs : FileSystem} (h : fs.isPresent p = true) :
    (x.execute request state fs).heard.2.2.isPresent p = true := by
  rw [← Talk.on_unbroken _ {} rfl rfl]
  exact hx request state fs {} hasked h

theorem Spares.logged (hx : x.Spares asked p) : x.logged.Spares asked p := by
  intro request state fs sink hasked h
  simp only [Executor.logged, Talk.on_bind]
  exact hx request state.1 fs sink hasked h

end Executor

namespace Recorder

variable {ρ : Type}

/-- Recording takes nothing away that is there at a path. -/
def Spares (r : Recorder ρ) (p : Path) : Prop :=
  ∀ result kept fs, fs.isPresent p = true → (r.record result kept fs).2.isPresent p = true

/-- A result set takes nothing away, whatever it is that is recorded. -/
theorem toSet_spares (set : ResultSet) (p : Path) : (toSet set).Spares p := by
  intro result warnings fs h
  have hstays := FileSystem.isPresent_within (set.record_within result fs) h
  simp only [toSet]
  rcases hrecord : set.record result fs with ⟨fs', e | ⟨⟩⟩ <;> rw [hrecord] at hstays <;>
    exact hstays

end Recorder

namespace Git

variable {σ : Type} {x : Executor σ}

/-- A clone that succeeds makes what it is to make. -/
def MakesCopies (x : Executor σ) : Prop :=
  ∀ dir url name (w w' : Workshop σ), clone x dir url name w = (w', .ok ()) →
    w'.files.isPresent (dir / name) = true

/-- The command of a request is `git`. -/
def IsGit (request : Request) : Prop := request.command = "git"

variable {p : Path} {w w' : Workshop σ} {result : Except Error Unit}

theorem isPresent_of_execute (hx : x.Spares IsGit p) {dir : Path} {args : List String}
    (h : execute x dir args w = (w', result)) (hp : w.files.isPresent p = true) :
    w'.files.isPresent p = true := by
  rw [← (Prod.mk.inj h).1]
  exact hx _ w.executor w.files w.display rfl hp

theorem isPresent_of_checkoutNew (hx : x.Spares IsGit p) {dir : Path} {branch : String}
    (h : checkoutNew x dir branch w = (w', result)) (hp : w.files.isPresent p = true) :
    w'.files.isPresent p = true := by
  rw [checkoutNew] at h
  split at h
  · rwa [← (Prod.mk.inj h).1]
  · exact isPresent_of_execute hx h hp

end Git

namespace Workshop

variable {σ : Type} {x : Executor σ} {campaign : String} {root : Path} {host : String}
  {w : Workshop σ} {r : Repository} {repos : List Repository} {how : CloneEnd} {s : σ}
  {files : FileSystem} {p : Path}

/-- What is there stays in every turn. -/
theorem CloneTurn.isPresent_stays (hx : x.Spares Git.IsGit p)
    (h : CloneTurn x campaign root host w r how s files) (hp : w.files.isPresent p = true) :
    files.isPresent p = true := by
  have hplaced : ∀ {files result}, w.files.makeDirectories (root / r.org) = (files, result) →
      files.isPresent p = true := fun h =>
    FileSystem.isPresent_within (FileSystem.makeDirectories_eq_adds h).extends.within hp
  cases h with
  | present _ => exact hp
  | noPlace _ hplace => exact hplaced hplace
  | notCloned _ hplace hclone => exact Git.isPresent_of_execute hx hclone (hplaced hplace)
  | noBranch _ hplace hclone hbranch | cloned _ hplace hclone hbranch =>
    exact Git.isPresent_of_checkoutNew hx hbranch
      (Git.isPresent_of_execute hx hclone (hplaced hplace))

/-- A turn that is not counted as an error leaves a working copy. -/
theorem CloneTurn.isPresent_of_ok (hx : Git.MakesCopies x)
    (hspares : x.Spares Git.IsGit (r.workDir root))
    (h : CloneTurn x campaign root host w r how s files) (hok : how.outcome ≠ .failed) :
    files.isPresent (r.workDir root) = true := by
  cases h with
  | present hthere => exact hthere
  | noPlace _ _ | notCloned _ _ _ | noBranch _ _ _ _ => exact absurd rfl hok
  | cloned _ _ hclone hbranch =>
    exact Git.isPresent_of_checkoutNew hspares hbranch (hx _ _ _ _ _ hclone)

/-! ## After a clone without errors -/

theorem errored_le_clone (x : Executor σ) (campaign : String) (root : Path) (host : String)
    (repos : List Repository) (w : Workshop σ) :
    w.summary.errored ≤ (clone x campaign repos root host w).summary.errored := by
  induction repos generalizing w with
  | nil => exact le_refl _
  | cons r rest ih =>
    rw [clone_cons]
    refine le_trans ?_ (ih _)
    rw [cloneStep_summary]
    exact (Summary.le_add _ _).2.2

/-- If nothing was counted as an error, every working copy is there. -/
theorem present_of_clean (hx : Git.MakesCopies x)
    (hspares : ∀ q ∈ repos, x.Spares Git.IsGit (q.workDir root))
    (hclean : (clone x campaign repos root host w).summary.errored = 0) :
    ∀ q ∈ repos, (clone x campaign repos root host w).files.isPresent (q.workDir root) = true := by
  induction repos generalizing w with
  | nil => simp
  | cons r rest ih =>
    rw [List.forall_mem_cons] at hspares ⊢
    rw [clone_cons] at hclean ⊢
    refine ⟨?_, ih hspares.2 hclean⟩
    -- the first turn is no error, and the others leave its working copy where it is
    obtain ⟨hturn, houtcome⟩ := cloneOne_turn x campaign root host w r
    have hok : (cloneOne x campaign root host w r).2 ≠ .failed := by
      intro hfailed
      have hle := errored_le_clone x campaign root host rest (cloneStep x campaign root host w r)
      rw [hclean, cloneStep_summary, hfailed] at hle
      exact absurd hle (by simp [Summary.add])
    exact clone_induction (P := fun fs => fs.isPresent (r.workDir root) = true)
      (fun q _ w' hp => (cloneOne_turn x campaign root host w' q).1.isPresent_stays hspares.1 hp)
      (hturn.isPresent_of_ok hx hspares.1 (houtcome ▸ hok))

/-- Where every working copy is there, a clone runs nothing and skips every repository. -/
theorem clone_of_present (x : Executor σ) (campaign host : String)
    (h : ∀ q ∈ repos, w.files.isPresent (q.workDir root) = true) :
    (clone x campaign repos root host w).executor = w.executor ∧
      (clone x campaign repos root host w).files = w.files ∧
      (clone x campaign repos root host w).summary =
        { w.summary with skipped := w.summary.skipped + repos.length } := by
  induction repos generalizing w with
  | nil => exact ⟨rfl, rfl, rfl⟩
  | cons r rest ih =>
    rw [List.forall_mem_cons] at h
    have hskip : cloneOne x campaign root host w r = (w.say ("Skipping " ++ r.fullName ++ ": " ++
        (r.workDir root).text ++ " already exists"), .skipped) := by
      rw [cloneOne, if_pos h.1]
    rw [clone_cons, cloneStep, hskip]
    obtain ⟨hexecutor, hfiles, hsummary⟩ := ih (w := cloneStep x campaign root host w r)
      (by rw [cloneStep, hskip]; exact h.2)
    rw [cloneStep, hskip] at hexecutor hfiles hsummary
    refine ⟨hexecutor, hfiles, hsummary.trans ?_⟩
    simp [Summary.add, say, Nat.add_assoc, Nat.add_comm 1]

end Workshop

/-! ## A run where every working copy is there -/

namespace Run

variable {σ ρ : Type} {x : Executor σ} {r : Recorder ρ} {job : Job} {repo : Repository}
  {repos : List Repository} {p : Progress σ ρ}

theorem isPresent_step {there : Path} (hx : x.Spares (· = request job repo) there)
    (hr : r.Spares there) (h : p.files.isPresent there = true) :
    (step x r job p repo).files.isPresent there = true := by
  obtain ⟨result, p', hvisit, -, -, -, hcases⟩ := visit_cases x job repo p
  simp only [step, hvisit]
  refine hr _ _ _ ?_
  rcases hcases with ⟨-, -, hfiles, -⟩ | ⟨-, -, hheard⟩
  · rwa [hfiles]
  · rw [show p'.files = (p'.executor, p'.files).2 from rfl, hheard]
    exact hx.heard rfl _ h

/-- No repository is skipped if every working copy is there and stays. -/
theorem outcome_ne_skipped {all : List Repository} (hsub : ∀ q ∈ repos, q ∈ all)
    (hx : ∀ q ∈ all, ∀ q' ∈ all, x.Spares (· = request job q') (q.workDir job.workRoot))
    (hr : ∀ q ∈ all, r.Spares (q.workDir job.workRoot))
    (h : ∀ q ∈ all, p.files.isPresent (q.workDir job.workRoot) = true) :
    ∀ result ∈ results x r job repos p, result.outcome ≠ .skipped := by
  induction repos generalizing p with
  | nil => simp [results]
  | cons q rest ih =>
    rw [List.forall_mem_cons] at hsub
    rw [results, List.forall_mem_cons]
    constructor
    · obtain ⟨result, p', hvisit, -, -, -, hcases⟩ := visit_cases x job q p
      rw [hvisit]
      rcases hcases with ⟨habsent, -⟩ | ⟨-, hcalled, -⟩
      · rw [h q hsub.1] at habsent
        cases habsent
      · exact hcalled
    · exact ih hsub.2 fun q' hq' => isPresent_step (hx q' hq' q hsub.1) (hr q' hq') (h q' hq')

/-- A run where every working copy is there, and stays, calls the executor once for each
repository. -/
theorem run_of_present
    (hx : ∀ q ∈ repos, ∀ q' ∈ repos, x.Spares (· = request job q') (q.workDir job.workRoot))
    (hr : ∀ q ∈ repos, r.Spares (q.workDir job.workRoot)) {p : Progress (σ × List Call) ρ}
    (h : ∀ q ∈ repos, p.files.isPresent (q.workDir job.workRoot) = true) :
    (run x.logged r job repos p).summary.skipped = p.summary.skipped ∧
      (run x.logged r job repos p).executor.2 =
        (repos.map fun q => ⟨.execute, request job q⟩).reverse ++ p.executor.2 := by
  have hcalled := outcome_ne_skipped (fun q hq => hq) (fun q hq q' hq' => (hx q hq q' hq').logged)
    hr h
  constructor
  · have hnone : reposWith .skipped (results x.logged r job repos p) = [] := by
      rw [reposWith, List.filter_eq_nil_iff.2 (by simpa using hcalled), List.map_nil]
    rw [summary_run, hnone]
    rfl
  · rw [calls_run, callsOf, List.filter_eq_self.2 (by simpa using hcalled)]
    -- there is one result for each repository
    have hrepos : (results x.logged r job repos p).map (·.repo) = repos := map_repo_results repos
    conv_rhs => rw [← hrepos, List.map_map]
    rfl

end Run

namespace Workshop

variable {σ : Type} {x : Executor σ} {campaign : String} {root : Path} {host : String}
  {repos : List Repository} {w : Workshop σ}

/-- If a clone of a campaign counts no error, then on the files that it leaves

* a clone of the same repositories below the same directory runs nothing, changes nothing, and
  counts every repository as skipped;
* a run over them skips no repository and calls its executor once for each, in order, provided that
  neither its commands nor its recorder take a working copy away.

A result set takes nothing away. -/
theorem clone_completes (hx : Git.MakesCopies x)
    (hspares : ∀ q ∈ repos, x.Spares Git.IsGit (q.workDir root))
    (hclean : (clone x campaign repos root host w).summary.errored = 0) :
    let files := (clone x campaign repos root host w).files
    (∀ {τ : Type} (y : Executor τ) (state : τ) (campaign host : String) (display : Sink),
        let again := clone y.logged campaign repos root host
          { display, files, executor := (state, []) }
        again.executor.2 = [] ∧ again.files = files ∧
          again.summary = { done := 0, skipped := repos.length, errored := 0 }) ∧
      (∀ {τ ρ : Type} (y : Executor τ) (r : Recorder ρ) (job : Job) (state : τ) (records : ρ)
          (display : Sink), job.workRoot = root →
        (∀ q ∈ repos, ∀ q' ∈ repos, y.Spares (· = Run.request job q') (q.workDir root)) →
        (∀ q ∈ repos, r.Spares (q.workDir root)) →
        let stop := Run.run y.logged r job repos
          { display, files, executor := (state, []), records }
        stop.summary.skipped = 0 ∧
          stop.executor.2.reverse = repos.map fun q => ⟨.execute, Run.request job q⟩) ∧
      ∀ (set : ResultSet) (p : Path), (Recorder.toSet set).Spares p := by
  intro files
  have hthere : ∀ q ∈ repos, files.isPresent (q.workDir root) = true :=
    present_of_clean hx hspares hclean
  refine ⟨fun y state campaign host display => ?_, ?_, Recorder.toSet_spares⟩
  · obtain ⟨hexecutor, hfiles, hsummary⟩ :=
      clone_of_present (w := { display, files, executor := (state, []) }) y.logged campaign host
        hthere
    exact ⟨congrArg Prod.snd hexecutor, hfiles, hsummary.trans (by simp)⟩
  · rintro τ ρ y r job state records display rfl hy hr
    obtain ⟨hskipped, hcalls⟩ :=
      Run.run_of_present (p := ⟨display, files, (state, []), records, {}⟩) hy hr hthere
    exact ⟨hskipped, by rw [hcalls]; simp⟩

/-- With a working copy that was there, one that is made, and an entry that has its place in common
with another: the second clone skips all three, and a run takes all three. -/
theorem clone_completes_sample :
    let x := Git.plain (fun _ => false) fun _ => false
    let repos : List Repository :=
      [⟨none, "org", "a"⟩, ⟨none, "org", "b"⟩, ⟨some "other", "org", "b"⟩]
    let fs : FileSystem :=
      { root := [("work", .directory [("org", .directory [("a", .directory [])])])] }
    let left := clone x "topic" repos ⟨"work"⟩ "host" { display := {}, files := fs, executor := () }
    let job : Job := ⟨⟨"work"⟩, "make", ["all"]⟩
    left.summary = { done := 1, skipped := 2, errored := 0 } ∧
      (clone x.logged "topic" repos ⟨"work"⟩ "host"
        { display := {}, files := left.files, executor := ((), []) }).executor.2 = [] ∧
      (Run.run x.logged (.toSet ⟨⟨"/results"⟩⟩) job repos
        { display := {}, files := left.files, executor := ((), []), records := [] }
        ).executor.2.reverse = repos.map fun q => ⟨.execute, Run.request job q⟩ := by
  intro x repos fs
  have hx : Git.MakesCopies x := fun _ _ _ _ _ h =>
    FileSystem.isPresent_of_isDirectory (Git.isDirectory_of_clone_plain h)
  have hspares : ∀ (asked : Request → Prop) (p : Path), x.Spares asked p :=
    fun _ _ _ _ _ _ _ h => FileSystem.isPresent_within (Git.plainly_within _ _ _ _) h
  have hclean : (clone x "topic" repos ⟨"work"⟩ "host"
      { display := {}, files := fs, executor := () }).summary.errored = 0 := by decide +kernel
  obtain ⟨hagain, hrun, hset⟩ := clone_completes hx (fun q _ => hspares _ _) hclean
  refine ⟨by decide +kernel, (hagain x () "topic" "host" {}).1, ?_⟩
  exact (hrun x (.toSet ⟨⟨"/results"⟩⟩) ⟨⟨"work"⟩, "make", ["all"]⟩ () [] {} rfl
    (fun _ _ _ _ => hspares _ _) fun _ _ => hset _ _).2

end Workshop

end Fleet

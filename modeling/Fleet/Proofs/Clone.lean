import Fleet.Clone
import Fleet.Proofs.Run

namespace Fleet

/-! # The turns of a clone

The turn of a repository ends in one of five ways (`CloneEnd`), and the end tells what it counts as.
`CloneTurn` says what is done on the way to each end, and `cloneOne_turn` that every turn goes one
of these ways.  The end also tells which commands are run (`cloneCalls_eq`).
-/

/-- How the turn of a repository ends. -/
inductive CloneEnd where
  /-- its working copy was there -/
  | present
  /-- there was no place for it -/
  | noPlace (e : IoError)
  /-- `git` did not clone it -/
  | notCloned (e : Error)
  /-- it was cloned, but the branch was not made -/
  | noBranch (e : Error)
  | cloned
  deriving DecidableEq, Repr

namespace CloneEnd

/-- What an end counts as. -/
def outcome : CloneEnd → Outcome
  | present => .skipped
  | noPlace _ | notCloned _ | noBranch _ => .failed
  | cloned => .succeeded

end CloneEnd

namespace Talk

variable {α β : Type}

theorem on_bind (talk : Talk α) (f : α → Talk β) (sink : Sink) :
    (talk >>= f).on sink = (f (talk.on sink).1).on (talk.on sink).2 := by
  induction talk generalizing sink with
  | done a => rfl
  | say bytes next ih => exact ih _ _
  | flush next ih => exact ih _ _

end Talk

/-! ## Remembering the commands -/

namespace Workshop

variable {σ : Type}

/-- A workshop whose executor remembers commands, latest first. -/
def withLog (w : Workshop σ) (log : List Call) : Workshop (σ × List Call) :=
  ⟨w.display, w.files, (w.executor, log), w.summary⟩

end Workshop

namespace Git

variable {σ : Type} {x : Executor σ}

/-- A `git` command as it is called. -/
def call (dir : Path) (args : List String) : Call := ⟨.execute, ⟨dir, "git", args⟩⟩

/-- The command that clones a repository. -/
def cloneCall (workRoot : Path) (defaultHost : String) (repo : Repository) : Call :=
  call (workRoot / repo.org) ["clone", "--", repo.cloneUrl defaultHost, repo.name]

/-- The commands that are run to make a branch. -/
def branchCalls (dir : Path) (branch : String) : List Call :=
  if isBadBranch branch then [] else [call dir ["checkout", "-b", branch]]

variable {w : Workshop σ} {log : List Call} {w' : Workshop (σ × List Call)}
  {result : Except Error Unit}

theorem execute_logged {dir : Path} {args : List String}
    (h : execute x.logged dir args (w.withLog log) = (w', result)) :
    ∃ w₀, execute x dir args w = (w₀, result) ∧ w' = w₀.withLog (call dir args :: log) := by
  simp only [execute, Workshop.withLog, Executor.logged, Talk.on_bind] at h
  obtain ⟨hw, hresult⟩ := Prod.mk.inj h
  exact ⟨_, Prod.ext rfl hresult, hw.symm⟩

theorem checkoutNew_logged {dir : Path} {branch : String}
    (h : checkoutNew x.logged dir branch (w.withLog log) = (w', result)) :
    ∃ w₀, checkoutNew x dir branch w = (w₀, result) ∧
      w' = w₀.withLog ((branchCalls dir branch).reverse ++ log) := by
  rw [checkoutNew] at h
  simp only [checkoutNew, branchCalls]
  split at h
  · next hbad =>
    obtain ⟨rfl, rfl⟩ := Prod.mk.inj h
    exact ⟨w, by rw [if_pos hbad], by rw [if_pos hbad]; rfl⟩
  · next hbad =>
    rw [if_neg hbad, if_neg hbad]
    exact execute_logged h

end Git

namespace Workshop

variable {σ : Type} (x : Executor σ) (campaign : String) (workRoot : Path) (defaultHost : String)

/-! ## One turn -/

/-- The workshop in which `git` is asked to clone a repository; the files have its place. -/
def ready (workRoot : Path) (repo : Repository) (files : FileSystem) (w : Workshop σ) :
    Workshop σ :=
  { w.say ("== Cloning " ++ repo.fullName ++ " into " ++ (repo.workDir workRoot).text ++ " =>") with
    files }

/-- How the turn of a repository ends. -/
def cloneEnd (w : Workshop σ) (repo : Repository) : CloneEnd :=
  if w.files.isPresent (repo.workDir workRoot) then .present
  else match w.files.makeDirectories (workRoot / repo.org) with
    | (_, .error e) => .noPlace e
    | (files, .ok ()) =>
      match Git.clone x (workRoot / repo.org) (repo.cloneUrl defaultHost) repo.name
          (w.ready workRoot repo files) with
      | (_, .error e) => .notCloned e
      | (w, .ok ()) =>
        match Git.checkoutNew x (repo.workDir workRoot) campaign w with
        | (_, .error e) => .noBranch e
        | (_, .ok ()) => .cloned

/-- What is done in a turn that ends in a given way, with what the executor remembers afterwards and
the files. -/
inductive CloneTurn (w : Workshop σ) (repo : Repository) : CloneEnd → σ → FileSystem → Prop where
  | present (hthere : w.files.isPresent (repo.workDir workRoot) = true) :
      CloneTurn w repo .present w.executor w.files
  | noPlace {files e} (hthere : w.files.isPresent (repo.workDir workRoot) = false)
      (hplace : w.files.makeDirectories (workRoot / repo.org) = (files, .error e)) :
      CloneTurn w repo (.noPlace e) w.executor files
  | notCloned {files w' e} (hthere : w.files.isPresent (repo.workDir workRoot) = false)
      (hplace : w.files.makeDirectories (workRoot / repo.org) = (files, .ok ()))
      (hclone : Git.clone x (workRoot / repo.org) (repo.cloneUrl defaultHost) repo.name
        (w.ready workRoot repo files) = (w', .error e)) :
      CloneTurn w repo (.notCloned e) w'.executor w'.files
  | noBranch {files w' w'' e} (hthere : w.files.isPresent (repo.workDir workRoot) = false)
      (hplace : w.files.makeDirectories (workRoot / repo.org) = (files, .ok ()))
      (hclone : Git.clone x (workRoot / repo.org) (repo.cloneUrl defaultHost) repo.name
        (w.ready workRoot repo files) = (w', .ok ()))
      (hbranch : Git.checkoutNew x (repo.workDir workRoot) campaign w' = (w'', .error e)) :
      CloneTurn w repo (.noBranch e) w''.executor w''.files
  | cloned {files w' w''} (hthere : w.files.isPresent (repo.workDir workRoot) = false)
      (hplace : w.files.makeDirectories (workRoot / repo.org) = (files, .ok ()))
      (hclone : Git.clone x (workRoot / repo.org) (repo.cloneUrl defaultHost) repo.name
        (w.ready workRoot repo files) = (w', .ok ()))
      (hbranch : Git.checkoutNew x (repo.workDir workRoot) campaign w' = (w'', .ok ())) :
      CloneTurn w repo .cloned w''.executor w''.files

variable {x campaign workRoot defaultHost} {w : Workshop σ} {repo : Repository}

@[simp] theorem say_files (line : String) : (w.say line).files = w.files := rfl

@[simp] theorem ready_files (files : FileSystem) :
    (w.ready workRoot repo files).files = files := rfl

@[simp] theorem say_executor (line : String) : (w.say line).executor = w.executor := rfl

/-- A turn does what its end says, and counts as its end does. -/
theorem cloneOne_turn (x : Executor σ) (campaign : String) (workRoot : Path) (defaultHost : String)
    (w : Workshop σ) (repo : Repository) :
    CloneTurn x campaign workRoot defaultHost w repo
        (cloneEnd x campaign workRoot defaultHost w repo)
        (cloneOne x campaign workRoot defaultHost w repo).1.executor
        (cloneOne x campaign workRoot defaultHost w repo).1.files ∧
      (cloneOne x campaign workRoot defaultHost w repo).2 =
        (cloneEnd x campaign workRoot defaultHost w repo).outcome := by
  cases hthere : w.files.isPresent (repo.workDir workRoot) with
  | true =>
    simp only [cloneEnd, cloneOne, hthere, if_true]
    exact ⟨.present hthere, rfl⟩
  | false =>
    rcases hplace : w.files.makeDirectories (workRoot / repo.org) with ⟨files, e | ⟨⟨⟩⟩⟩
    · simp only [cloneEnd, cloneOne, say_files, hthere, hplace, Bool.false_eq_true, if_false]
      exact ⟨.noPlace hthere hplace, rfl⟩
    · simp only [cloneEnd, cloneOne, cloneAndBranch, say_files, hthere, hplace, Bool.false_eq_true,
        if_false]
      rcases hclone : Git.clone x (workRoot / repo.org) (repo.cloneUrl defaultHost) repo.name
        (w.ready workRoot repo files) with ⟨w', e | ⟨⟨⟩⟩⟩
      · simp only [ready] at hclone
        simp only [hclone]
        simp only [say_executor, say_files]
        exact ⟨.notCloned hthere hplace hclone, rfl⟩
      · simp only [ready] at hclone
        simp only [hclone]
        rcases hbranch : Git.checkoutNew x (repo.workDir workRoot) campaign w' with
          ⟨w'', e | ⟨⟨⟩⟩⟩
        · simp only [say_executor, say_files]
          exact ⟨.noBranch hthere hplace hclone hbranch, rfl⟩
        · exact ⟨.cloned hthere hplace hclone hbranch, rfl⟩

/-- The commands that are run in a turn, by its end. -/
def endCalls (campaign : String) (workRoot : Path) (defaultHost : String) (repo : Repository) :
    CloneEnd → List Call
  | .present | .noPlace _ => []
  | .notCloned _ => [Git.cloneCall workRoot defaultHost repo]
  | .noBranch _ | .cloned =>
    Git.cloneCall workRoot defaultHost repo :: Git.branchCalls (repo.workDir workRoot) campaign

/-- An executor that remembers the commands does what it would do, and remembers those of the
end. -/
theorem CloneTurn.logged {log : List Call} {how : CloneEnd} {s : σ × List Call} {files : FileSystem}
    (h : CloneTurn x.logged campaign workRoot defaultHost (w.withLog log) repo how s files) :
    CloneTurn x campaign workRoot defaultHost w repo how s.1 files ∧
      s.2 = (endCalls campaign workRoot defaultHost repo how).reverse ++ log := by
  cases h with
  | present hthere => exact ⟨.present hthere, rfl⟩
  | noPlace hthere hplace => exact ⟨.noPlace hthere hplace, rfl⟩
  | notCloned hthere hplace hclone =>
    obtain ⟨w₁, hclone', rfl⟩ := Git.execute_logged (w := w.ready workRoot repo _) hclone
    exact ⟨.notCloned hthere hplace hclone', rfl⟩
  | noBranch hthere hplace hclone hbranch =>
    obtain ⟨w₁, hclone', rfl⟩ := Git.execute_logged (w := w.ready workRoot repo _) hclone
    obtain ⟨w₂, hbranch', rfl⟩ := Git.checkoutNew_logged hbranch
    refine ⟨.noBranch hthere hplace hclone' hbranch', ?_⟩
    simp [withLog, endCalls, Git.cloneCall]
  | cloned hthere hplace hclone hbranch =>
    obtain ⟨w₁, hclone', rfl⟩ := Git.execute_logged (w := w.ready workRoot repo _) hclone
    obtain ⟨w₂, hbranch', rfl⟩ := Git.checkoutNew_logged hbranch
    refine ⟨.cloned hthere hplace hclone' hbranch', ?_⟩
    simp [withLog, endCalls, Git.cloneCall]

/-- The commands that are run in the turn of a repository, in order. -/
def cloneCalls (x : Executor σ) (campaign : String) (workRoot : Path) (defaultHost : String)
    (w : Workshop σ) (repo : Repository) : List Call :=
  (cloneOne x.logged campaign workRoot defaultHost (w.withLog []) repo).1.executor.2.reverse

/-- The end of a turn tells which commands are run in it. -/
theorem cloneCalls_eq (x : Executor σ) (campaign : String) (workRoot : Path) (defaultHost : String)
    (w : Workshop σ) (repo : Repository) :
    ∃ how s files, CloneTurn x campaign workRoot defaultHost w repo how s files ∧
      cloneCalls x campaign workRoot defaultHost w repo =
        endCalls campaign workRoot defaultHost repo how := by
  obtain ⟨hturn, hcalls⟩ :=
    (cloneOne_turn x.logged campaign workRoot defaultHost (w.withLog []) repo).1.logged
  refine ⟨_, _, _, hturn, ?_⟩
  rw [cloneCalls, hcalls, List.append_nil, List.reverse_reverse]

/-! ## All turns -/

/-- The turn of a repository, counted. -/
def cloneStep (x : Executor σ) (campaign : String) (workRoot : Path) (defaultHost : String)
    (w : Workshop σ) (repo : Repository) : Workshop σ :=
  let (w, outcome) := cloneOne x campaign workRoot defaultHost w repo
  { w with summary := w.summary.add outcome }

theorem cloneAndBranch_summary (x : Executor σ) (campaign : String) (workRoot : Path)
    (defaultHost : String) (repo : Repository) (w : Workshop σ) :
    (cloneAndBranch x campaign workRoot defaultHost repo w).1.summary = w.summary := by
  unfold cloneAndBranch
  split
  · next hclone => exact congrArg (·.1.summary) hclone.symm
  · next w' hclone =>
    have hcloned : w'.summary = w.summary := congrArg (·.1.summary) hclone.symm
    rw [Git.checkoutNew]
    split
    · exact hcloned
    · exact hcloned

/-- Nothing is counted before the turn is over. -/
theorem cloneOne_summary (x : Executor σ) (campaign : String) (workRoot : Path)
    (defaultHost : String) (w : Workshop σ) (repo : Repository) :
    (cloneOne x campaign workRoot defaultHost w repo).1.summary = w.summary := by
  unfold cloneOne
  simp only
  split
  · rfl
  split
  · rfl
  next files _ =>
  have hsame := cloneAndBranch_summary x campaign workRoot defaultHost repo
    (w.ready workRoot repo files)
  split
  · next hdone => exact (congrArg (·.1.summary) hdone).symm.trans hsame
  · next hfailed => exact (congrArg (·.1.summary) hfailed).symm.trans hsame

theorem cloneStep_summary :
    (cloneStep x campaign workRoot defaultHost w repo).summary =
      w.summary.add (cloneOne x campaign workRoot defaultHost w repo).2 :=
  congrArg (fun s : Summary => s.add _) (cloneOne_summary x campaign workRoot defaultHost w repo)

@[simp] theorem clone_nil : clone x campaign [] workRoot defaultHost w = w := rfl

@[simp] theorem clone_cons (rest : List Repository) :
    clone x campaign (repo :: rest) workRoot defaultHost w =
      clone x campaign rest workRoot defaultHost
        (cloneStep x campaign workRoot defaultHost w repo) := by
  simp only [clone, forEach, List.foldl_cons, cloneStep]

theorem clone_append (repos more : List Repository) :
    clone x campaign (repos ++ more) workRoot defaultHost w =
      clone x campaign more workRoot defaultHost
        (clone x campaign repos workRoot defaultHost w) :=
  List.foldl_append

/-- What every turn keeps is kept by all of them. -/
theorem clone_induction {P : FileSystem → Prop} {repos : List Repository}
    (hstep : ∀ repo ∈ repos, ∀ w : Workshop σ, P w.files →
      P (cloneOne x campaign workRoot defaultHost w repo).1.files)
    (h : P w.files) : P (clone x campaign repos workRoot defaultHost w).files := by
  induction repos generalizing w with
  | nil => exact h
  | cons repo rest ih =>
    rw [clone_cons]
    exact ih (fun q hq => hstep q (List.mem_cons_of_mem _ hq)) (hstep repo (by simp) w h)

end Workshop

end Fleet

import Fleet.Proofs.Display
import Fleet.Proofs.FailedRun

namespace Fleet

/-! # Choosing and loading

A run first chooses its list of repositories and reads its campaign, and changes nothing meanwhile:
if this fails, the files are as they were and no command is run.  The errors of choosing and loading
arise nowhere else.  Only when both have gone well is the result set made, and the first command
finds it there (`Foreach.Turn.loads_first`).
-/

/-- The errors of choosing a list and of reading the files of a campaign. -/
def Error.isOfLoading : Error → Bool
  | .noPreviousResults _ | .cannotOpen _ _ | .badList _ _ _ => true
  | .usage _ | .settings _ _ | .spawn _ _ | .commandFailed _ _ _ | .recorder _ _ | .io _ => false

/-- A campaign is loaded if its list can be read and parsed and its description can be read. -/
theorem Campaign.load_eq_ok {fs : FileSystem} {list description : Path} {text about : String}
    {repos : List Repository} (hlist : fs.readText list = .ok text)
    (hrepos : RepositoryList.parse text = .ok repos)
    (habout : fs.readText description = .ok about) :
    Campaign.load fs list description =
      .ok ⟨nameOf fs description, repos, Description.parse about⟩ := by
  have hload : RepositoryList.load fs list = .ok repos := by
    simp [RepositoryList.load, FileSystem.openText, hlist, hrepos, bind, Except.bind]
  simp [Campaign.load, hload, FileSystem.openText, habout, bind, Except.bind, pure, Except.pure]

/-! ## What the first command finds -/

namespace Executor

variable {σ : Type}

/-- The same executor, which also remembers the files that each command was given, latest first. -/
def watched (x : Executor σ) : Executor (σ × List FileSystem) where
  execute request state fs := do
    let (result, s, after) ← x.execute request state.1 fs
    return (result, (s, fs :: state.2), after)
  capture request state fs := do
    let (result, s, after) ← x.capture request state.1 fs
    return (result, (s, fs :: state.2), after)

end Executor

namespace Run

variable {σ : Type} {x : Executor σ} {job : Job} {s : ResultSet} {fs : FileSystem}
  {p : Progress (σ × List FileSystem) (List String)}

/-- No command has been run and the files are as they were, or the first command found them so. -/
def FirstFinds (fs : FileSystem) (p : Progress (σ × List FileSystem) (List String)) : Prop :=
  (p.executor.2 = [] ∧ p.files = fs) ∨ p.executor.2.getLast? = some fs

theorem firstFinds_step (h : FirstFinds fs p) (repo : Repository) :
    FirstFinds fs (step x.watched (.toSet s) job p repo) := by
  obtain ⟨result, p', hvisit, -, -, -, hcases⟩ := visit_cases x.watched job repo p
  have hexecutor : (step x.watched (.toSet s) job p repo).executor = p'.executor := by
    simp [step, hvisit]
  rcases hcases with ⟨-, hskipped, hfiles, hsame⟩ | ⟨-, -, hheard⟩
  · -- nothing is recorded of a repository that was skipped
    have hrecord : (step x.watched (.toSet s) job p repo).files = p.files := by
      simp [step_files, hvisit, ResultSet.record, hskipped, Outcome.bucket?, hfiles]
    rw [FirstFinds, hexecutor, hrecord, hsame]
    exact h
  · -- what has been found so far is behind what this command finds
    have hfound : p'.executor.2 = p.files :: p.executor.2 := by
      have hstate := congrArg (fun state => state.1.2) hheard
      simpa only [Executor.watched, Talk.heard_bind, Talk.heard_pure] using hstate
    rw [FirstFinds, hexecutor, hfound]
    rcases h with ⟨hnone, rfl⟩ | hfirst
    · exact .inr (by simp [hnone])
    · exact .inr (by simp [List.getLast?_cons, hfirst])

theorem firstFinds_run (h : FirstFinds fs p) (repos : List Repository) :
    FirstFinds fs (run x.watched (.toSet s) job repos p) := by
  induction repos generalizing p with
  | nil => exact h
  | cons repo rest ih =>
    rw [run_cons]
    exact ih (firstFinds_step h repo)

end Run

namespace Foreach.Turn

variable {σ : Type} {t : Turn σ}

/-- What choosing the list comes to. -/
def selected (t : Turn σ) : Sink × Except Error Path :=
  t.selection.resolve t.before.files t.settings.reposFile t.settings.latestResults t.before.display

/-- The same run with an executor that remembers the files that each command was given. -/
def watched (t : Turn σ) : Turn (σ × List FileSystem) where
  here := t.here
  x := t.x.watched
  settings := t.settings
  selection := t.selection
  command := t.command
  args := t.args
  before :=
    { display := t.before.display
      files := t.before.files
      executor := (t.before.executor, []) }

/-- Makes the result set of a run for a campaign of the given name. -/
def createSet (t : Turn σ) (campaign : String) : FileSystem × Except Error ResultSet :=
  ResultSet.create t.here (t.settings.resultsDir.getD t.here.tempDir) campaign
    (Text.formatCommand t.command t.args) t.before.files

theorem prepare_of_not_selected {display : Sink} {e : Error}
    (h : t.selected = (display, .error e)) : t.prepare = (display, t.before.files, .error e) := by
  unfold selected at h
  simp [prepare, Foreach.prepare, h]

/-- What is done once the list has been chosen. -/
theorem prepare_of_selected {display : Sink} {list : Path}
    (h : t.selected = (display, .ok list)) : t.prepare =
      match Campaign.load t.before.files list t.settings.descriptionFile with
      | .error e => (display, t.before.files, .error e)
      | .ok campaign =>
        match t.createSet campaign.name with
        | (files, .error e) => (display, files, .error e)
        | (made, .ok set) =>
          match LatestPointer.update t.here.pid set t.settings.latestResults made with
          | (files, .error e) => (display, files, .error e)
          | (files, .ok ()) => (display, files, .ok ⟨campaign, set, made⟩) := by
  unfold prepare Foreach.prepare
  split
  · next hselected => cases hselected.symm.trans h
  · next hselected =>
    cases hselected.symm.trans h
    rfl

/-- When the campaign is loaded, only the result set and the pointer can keep a run from being
prepared. -/
theorem prepare_error_of_loaded {display display' : Sink} {list : Path} {campaign : Campaign}
    {files : FileSystem} {e : Error} (hselected : t.selected = (display, .ok list))
    (hloaded : Campaign.load t.before.files list t.settings.descriptionFile = .ok campaign)
    (h : t.prepare = (display', files, .error e)) : ∃ p io, e = .recorder p io := by
  simp only [prepare_of_selected hselected, hloaded] at h
  split at h
  · next hcreated =>
    cases h
    exact ResultSet.create_error hcreated
  split at h
  · next hmoved =>
    cases h
    exact (LatestPointer.update_error hmoved).1
  · cases h

/-- A run that has been prepared has made its result set, which is where it was made. -/
theorem IsPrepared.isDirectory_set {display : Sink} {files : FileSystem} {l : Launch} {list : Path}
    (h : t.IsPrepared display files l list) : files.isDirectory l.set.root = true := by
  obtain ⟨hplaced, hholds⟩ := ResultSet.create_ok h.created
  obtain ⟨dir, name, hmoved⟩ := LatestPointer.update_ok h.moved
  have hdir := hmoved.directory (Entries.kind?_eq_directory.1 hholds.directory)
  exact hplaced.isDirectory_root (Entries.kind?_eq_directory.2 hdir)

/-- The first command of a run finds the files as they are when the result set has been made and the
pointer moved. -/
theorem firstFinds_run {seen : FileSystem}
    (h : t.watched.run.1.executor.2.getLast? = some seen) :
    ∃ display l, t.prepare = (display, seen, .ok l) := by
  rw [run_eq] at h
  split at h
  · next p e hout =>
    obtain ⟨hexecutor, -⟩ := setOut_error hout
    simp [hexecutor, watched] at h
  · next p l hout =>
    obtain ⟨⟨display, hprepared⟩, hexecutor, -, -⟩ := setOut_ok hout
    have hstart : Run.FirstFinds p.files p := .inl ⟨by rw [hexecutor]; rfl, rfl⟩
    have hstop : Run.FirstFinds p.files (t.watched.after l p l.campaign.repos) :=
      Run.firstFinds_run hstart l.campaign.repos
    rcases hstop with ⟨hnone, -⟩ | hfirst
    · simp [finish, hnone] at h
    · obtain rfl : p.files = seen := by simpa [finish, hfirst] using h
      exact ⟨display, l, hprepared⟩

/-- A run that fails while its list is chosen, or with an error of choosing or loading, has changed
nothing and run no command. -/
theorem unchanged_of_not_loaded {a : Aftermath (σ × List FileSystem)} {e : Error}
    (h : t.watched.run = (a, .error e)) (he : e.isOfLoading = true ∨ t.selected.2 = .error e) :
    a.files = t.before.files ∧ a.executor = (t.before.executor, []) := by
  rw [run_eq] at h
  split at h
  · next p e' hout =>
    cases h
    obtain ⟨hexecutor, hprepared⟩ := setOut_error hout
    refine ⟨?_, hexecutor⟩
    rcases he with hkind | hselected
    · rcases hprepared with hprepared | ⟨-, -, io, -, rfl⟩
      · rcases prepare_error hprepared with hsame | ⟨⟨path, io, rfl⟩, -⟩
        · exact hsame
        · cases hkind
      · cases hkind
    · -- choosing the list comes first, so nothing else can have failed
      have hnone : t.watched.prepare = (t.selected.1, t.before.files, .error e) :=
        prepare_of_not_selected (t := t.watched) (Prod.ext rfl hselected)
      rcases hprepared with hprepared | ⟨display, l, io, hprepared, -⟩
      · exact (Prod.mk.inj (Prod.mk.inj (hprepared.symm.trans hnone)).2).1
      · cases (Prod.mk.inj (Prod.mk.inj (hprepared.symm.trans hnone)).2).2
  · cases h

/-- When the campaign is loaded, a run fails with no error of choosing or loading. -/
theorem not_isOfLoading_of_loaded {display : Sink} {list : Path} {campaign : Campaign}
    {a : Aftermath σ} {e : Error} (hselected : t.selected = (display, .ok list))
    (hloaded : Campaign.load t.before.files list t.settings.descriptionFile = .ok campaign)
    (h : t.run = (a, .error e)) : e.isOfLoading = false := by
  rw [run_eq] at h
  split at h
  · next p e' hout =>
    cases h
    obtain ⟨-, hprepared | ⟨-, -, io, -, rfl⟩⟩ := setOut_error hout
    · obtain ⟨path, io, rfl⟩ := prepare_error_of_loaded hselected hloaded hprepared
      rfl
    · rfl
  · cases h

/-- A run that fails while its list is chosen, or with an error of choosing or loading, has changed
nothing and run no command.  If the list can be chosen, and it and the description can be read, the
run fails with no such error, and its first command, if there is one, finds the result set made and
the pointer moved to it. -/
theorem loads_first (t : Turn σ) :
    (∀ a e, t.watched.run = (a, .error e) → (e.isOfLoading = true ∨ t.selected.2 = .error e) →
      a.files = t.before.files ∧ a.executor = (t.before.executor, [])) ∧
      ∀ display list text repos about, t.selected = (display, .ok list) →
        t.before.files.readText list = .ok text → RepositoryList.parse text = .ok repos →
        t.before.files.readText t.settings.descriptionFile = .ok about →
        (∀ a e, t.watched.run = (a, .error e) → e.isOfLoading = false) ∧
          ∀ seen, t.watched.run.1.executor.2.getLast? = some seen →
            ∃ set made, t.createSet (Campaign.nameOf t.before.files t.settings.descriptionFile) =
                (made, .ok set) ∧
              LatestPointer.update t.here.pid set t.settings.latestResults made =
                (seen, .ok ()) ∧
              seen.isDirectory set.root = true := by
  refine ⟨fun a e => unchanged_of_not_loaded, ?_⟩
  intro display list text repos about hselected hlist hrepos habout
  have hloaded := Campaign.load_eq_ok hlist hrepos habout
  refine ⟨fun a e => not_isOfLoading_of_loaded (t := t.watched) hselected hloaded, ?_⟩
  intro seen hseen
  obtain ⟨told, l, hprepared⟩ := firstFinds_run hseen
  obtain ⟨list', hlaunch⟩ := prepare_ok hprepared
  obtain ⟨-, hlist'⟩ := Prod.mk.inj (hlaunch.selected.symm.trans hselected)
  obtain rfl := Except.ok.inj hlist'
  have hcampaign := Except.ok.inj (hlaunch.loaded.symm.trans hloaded)
  have hcreated := hlaunch.created
  rw [hcampaign] at hcreated
  exact ⟨l.set, l.made, hcreated, hlaunch.moved, hlaunch.isDirectory_set⟩

/-- A run of what failed before when there was no run before, and a run of the list of the campaign,
whose first command finds its result set. -/
theorem loads_first_sample :
    (∃ a e, (sample "/latest" (sampleFiles []) (.previous .failed)).watched.run = (a, .error e) ∧
      a.files = sampleFiles [] ∧ a.executor.2 = []) ∧
    ∃ seen, ∃ set : ResultSet,
      (sample "/latest" (sampleFiles [])).watched.run.1.executor.2.getLast? = some seen ∧
      (sample "/latest" (sampleFiles [])).watched.run.2.isOk = true ∧
      seen.isDirectory set.root = true := by
  constructor
  · have hfails : (sample "/latest" (sampleFiles []) (.previous .failed)).watched.run.2 =
        .error (.noPreviousResults ⟨"/latest"⟩) := by
      decide +kernel
    have hrun := Prod.snd_eq_iff.1 hfails
    obtain ⟨hfiles, hexecutor⟩ := (loads_first _).1 _ _ hrun (.inl rfl)
    exact ⟨_, _, hrun, hfiles, congrArg Prod.snd hexecutor⟩
  · have hcalled : (sample "/latest" (sampleFiles [])).watched.run.1.executor.2 ≠ [] := by
      decide +kernel
    obtain ⟨seen, hseen⟩ := Option.ne_none_iff_exists'.1 (mt List.getLast?_eq_none_iff.1 hcalled)
    obtain ⟨-, hfirst⟩ := (loads_first (sample "/latest" (sampleFiles []))).2 {} ⟨"repos.txt"⟩
      "org/a\n" [⟨none, "org", "a"⟩] "" (by decide +kernel) (by decide +kernel) (by decide +kernel)
      (by decide +kernel)
    obtain ⟨set, made, -, -, hthere⟩ := hfirst seen hseen
    exact ⟨seen, set, hseen, by decide +kernel, hthere⟩

end Foreach.Turn

end Fleet

import Fleet.Proofs.Foreach
import Fleet.Proofs.ListHeader
import Fleet.Script

namespace Fleet

/-! # The ledger of a run

After every repository the two lists of a result set say what has come of those that were taken so
far, and the pointer leads to the result set: so a run that is cut off between two repositories
leaves lists that are right (`Foreach.Turn.ledger_after`).

What carries this is `ResultSet.IsKept`: the result set holds certain texts, and the pointer is a
link to it.  Taking a repository adds its line to one of the texts (`IsKept.step`), and reading a
text that begins with nothing but comments gives back the lines that were added (`parse_written`).
-/

open FileSystem (Extends Within)

/-- A result set and the pointer to it are as they were. -/
structure Untouched (s : ResultSet) (pointer : Path) (fs fs' : FileSystem) : Prop where
  items : ∀ loc, s.location <+: loc → fs'.root.item? loc = fs.root.item? loc
  pointer : fs'.readLink pointer = fs.readLink pointer

theorem Untouched.refl (s : ResultSet) (pointer : Path) (fs : FileSystem) :
    Untouched s pointer fs fs :=
  ⟨fun _ _ => rfl, rfl⟩

namespace ResultSet

variable {s : ResultSet} {pointer : Path} {text : Bucket → String} {fs fs' : FileSystem}

/-- A result set with texts in its lists, and a pointer that is a link to it. -/
structure IsKept (s : ResultSet) (pointer : Path) (text : Bucket → String) (fs : FileSystem) :
    Prop where
  placed : s.IsPlaced
  holds : s.Holds text fs
  link : fs.readLink pointer = .ok s.root.text

theorem IsKept.resolve (h : s.IsKept pointer text fs) :
    LatestPointer.resolve fs pointer = .ok s :=
  LatestPointer.resolve_of_readLink h.link h.placed.absolute
    (h.placed.isDirectory_root h.holds.directory)

theorem IsKept.untouched (h : s.IsKept pointer text fs) (hu : Untouched s pointer fs fs') :
    s.IsKept pointer text fs' :=
  ⟨h.placed, h.holds.of_items hu.items, hu.pointer.trans h.link⟩

theorem IsKept.record (h : s.IsKept pointer text fs) {result : Result}
    (hentry : result.repo.IsEntry) :
    s.IsKept pointer (added text result) (s.record result fs).1 := by
  have hwithin := record_within s result fs
  exact ⟨h.placed, record_holds h.placed h.holds hentry, FileSystem.readLink_within hwithin h.link⟩

/-! ## The texts of the lists -/

/-- The texts of the lists when results have been recorded. -/
def written (text : Bucket → String) (results : List Result) : Bucket → String :=
  results.foldl added text

theorem written_append (text : Bucket → String) (results : List Result) (result : Result) :
    written text (results ++ [result]) = added (written text results) result := by
  simp [written]

/-- If nothing is listed at first, then after some results their repositories are, in order. -/
theorem parse_written (text : Bucket → String) {b : Bucket}
    (hempty : RepositoryList.parse (text b) = .ok []) (hend : Text.EndsLine (text b).toList)
    {results : List Result}
    (hentries : ∀ result ∈ results, result.repo.IsEntry)
    (hnodup : (results.map (·.repo)).Nodup) :
    RepositoryList.parse (written text results b) = .ok (Run.reposWith b.outcome results) ∧
      Text.EndsLine (written text results b).toList := by
  -- induction from the last result, whose line is behind all others
  induction results using List.reverseRecOn with
  | nil => exact ⟨hempty, hend⟩
  | append_singleton results result ih =>
    rw [List.forall_mem_append] at hentries
    rw [List.map_append, List.nodup_append] at hnodup
    obtain ⟨hread, hline⟩ := ih hentries.1 hnodup.1
    have hentry := hentries.2 result (by simp)
    rw [written_append, Run.reposWith_append, added]
    split
    · next hb =>
      have hnew : result.repo ∉ Run.reposWith b.outcome results := fun hmem =>
        hnodup.2.2 _ (Run.mem_repos_of_mem_reposWith hmem) _ (by simp) rfl
      have hone : Run.reposWith b.outcome [result] = [result.repo] := by
        simp [Run.reposWith, Outcome.bucket?_eq_some.1 hb]
      rw [hone]
      exact ⟨RepositoryList.parse_append_entry hread hline hentry hnew,
        RepositoryList.endsLine_append_entry _ _⟩
    · next hb =>
      have hone : Run.reposWith b.outcome [result] = [] := by
        simpa [Run.reposWith, Outcome.bucket?_eq_some] using hb
      rw [hone, List.append_nil]
      exact ⟨hread, hline⟩

end ResultSet

/-! ## One repository after the other -/

namespace Run

open ResultSet (IsKept added written)

variable {σ : Type} {x : Executor σ} {job : Job} {s : ResultSet} {pointer : Path}
  {text : Bucket → String} {p : Progress σ (List String)}

/-- Every command of a run leaves a result set and the pointer to it as they are. -/
def Spares (x : Executor σ) (s : ResultSet) (pointer : Path) (job : Job) :
    List Repository → Progress σ (List String) → Prop
  | [], _ => True
  | repo :: rest, p =>
    (p.files.isPresent (repo.workDir job.workRoot) = true →
      Untouched s pointer p.files
        (x.execute (request job repo) p.executor p.files).heard.2.2) ∧
      Spares x s pointer job rest (step x (.toSet s) job p repo)

/-- An executor that never touches a result set spares it. -/
theorem spares_of_forall (h : ∀ request state fs,
    Untouched s pointer fs (x.execute request state fs).heard.2.2) (repos : List Repository)
    (p : Progress σ (List String)) : Spares x s pointer job repos p := by
  induction repos generalizing p with
  | nil => exact trivial
  | cons repo rest ih => exact ⟨fun _ => h _ _ _, ih _⟩

/-- Taking a repository records what came of it, and changes nothing else of a result set. -/
theorem isKept_step {repo : Repository} (h : s.IsKept pointer text p.files)
    (hentry : repo.IsEntry) (hspares : Spares x s pointer job [repo] p) :
    s.IsKept pointer (added text (visit x job repo p).1) (step x (.toSet s) job p repo).files := by
  obtain ⟨result, p', hvisit, hrepo, -, -, hcases⟩ := visit_cases x job repo p
  -- the command leaves the result set as it was, and then the result is recorded
  have hvisited : s.IsKept pointer text p'.files := by
    rcases hcases with ⟨-, -, hfiles, -⟩ | ⟨hthere, -, hheard⟩
    · rw [hfiles]
      exact h
    · have hspared := hspares.1 hthere
      rw [← hheard] at hspared
      exact h.untouched hspared
  rw [step_files, hvisit]
  exact hvisited.record (hrepo ▸ hentry)

/-- A run records its results, and changes nothing else of a result set. -/
theorem isKept_run {repos : List Repository} (h : s.IsKept pointer text p.files)
    (hentries : ∀ repo ∈ repos, repo.IsEntry) (hspares : Spares x s pointer job repos p) :
    s.IsKept pointer (written text (results x (.toSet s) job repos p))
      (run x (.toSet s) job repos p).files := by
  induction repos generalizing p text with
  | nil => exact h
  | cons repo rest ih =>
    rw [List.forall_mem_cons] at hentries
    have hstep := isKept_step h hentries.1 ⟨hspares.1, trivial⟩
    rw [run_cons]
    exact ih hstep hentries.2 hspares.2

end Run

/-! ## The ledger -/

/-- What the lists, the pointer and the summary say when some repositories have been taken. -/
structure IsLedger {σ ρ : Type} (s : ResultSet) (pointer : Path) (results : List Result)
    (p : Progress σ ρ) : Prop where
  pointer : LatestPointer.resolve p.files pointer = .ok s
  succeeded : RepositoryList.load p.files (s.listPath .succeeded) =
    .ok (Run.reposWith .succeeded results)
  failed : RepositoryList.load p.files (s.listPath .failed) = .ok (Run.reposWith .failed results)
  /-- No repository is in both lists, and one that was skipped is in neither. -/
  disjoint : ∀ o o', o ≠ o' → ∀ repo ∈ Run.reposWith o results, repo ∉ Run.reposWith o' results
  done : p.summary.done = (Run.reposWith .succeeded results).length
  errored : p.summary.errored = (Run.reposWith .failed results).length
  total : p.summary.done + p.summary.skipped + p.summary.errored = results.length

namespace Foreach

/-- The lists of a new result set are read as empty. -/
def Launch.ListsNothing (l : Launch) : Prop :=
  RepositoryList.load l.made (l.set.listPath .succeeded) = .ok [] ∧
    RepositoryList.load l.made (l.set.listPath .failed) = .ok []

namespace Turn

variable {σ : Type} {t : Turn σ} {l : Launch} {p : Progress σ (List String)}

/-- The path of the pointer leads to the same place when the pointer has been moved, and this is
outside the new result set. -/
structure IsSteady (t : Turn σ) (l : Launch) (files : FileSystem) : Prop where
  route : files.route false t.settings.latestResults = l.made.route false t.settings.latestResults
  outside : ∀ r, l.made.route false t.settings.latestResults = .ok r →
    ¬ l.set.location <+: r.spot.location

/-- A pointer is steady if its path goes through directories only, as that of a pointer in the
current directory does. -/
theorem isSteady_of_directories (h : t.setOut = (p, .ok l)) {ms : List String} {x : String}
    (hnames : FileSystem.names t.settings.latestResults.text = ms ++ [x])
    (hms : ∀ m ∈ ms ++ [x], FileSystem.IsName m)
    (hdir : t.before.files.root.item? (t.before.files.start t.settings.latestResults ++ ms) =
      some .directory) : t.IsSteady l p.files := by
  obtain ⟨⟨display, hprepared⟩, -⟩ := setOut_ok h
  obtain ⟨list, hlaunch⟩ := prepare_ok hprepared
  have hgrown := ResultSet.create_extends hlaunch.created
  obtain ⟨dir, name, hmoved⟩ := LatestPointer.update_ok hlaunch.moved
  have hstart : l.made.start t.settings.latestResults =
      t.before.files.start t.settings.latestResults := by
    rw [FileSystem.start, FileSystem.start, hgrown.cwd]
  rw [← hstart] at hdir
  -- the directories on the way are there when the result set is made, and when the pointer is moved
  have hmade := hgrown.items _ _ hdir
  constructor
  · exact FileSystem.route_eq_of_directories hmoved.cwd hnames hms hmade (hmoved.directory hmade)
  · intro r hr hp
    have hspot := FileSystem.spot_through hnames hms hmade hmoved.route
    simp only [Spot.named.injEq] at hspot
    obtain ⟨rfl, rfl⟩ := hspot
    rw [hmoved.route] at hr
    cases hr
    rcases List.prefix_concat_iff.1 hp with he | hp
    · have hset := (ResultSet.create_ok hlaunch.created).2.directory
      exact hmoved.noDirectory (he ▸ Entries.kind?_eq_directory.1 hset)
    · have habove := Entries.kind?_directory_of_prefix (Entries.kind?_eq_directory.2 hdir) hp
      rw [Entries.kind?, ResultSet.create_new hlaunch.created] at habove
      cases habove

/-- The repositories of a run are entries of a list, and none is there twice. -/
theorem repos_of_setOut (h : t.setOut = (p, .ok l)) :
    l.campaign.repos.Nodup ∧ ∀ repo ∈ l.campaign.repos, repo.IsEntry := by
  obtain ⟨⟨display, hprepared⟩, -⟩ := setOut_ok h
  obtain ⟨list, hlaunch⟩ := prepare_ok hprepared
  obtain ⟨text, htext⟩ := RepositoryList.parse_of_load (Campaign.load_ok hlaunch.loaded)
  exact ⟨RepositoryList.nodup_of_parse htext, RepositoryList.isEntry_of_parse htext⟩

/-- The lists are read as empty exactly if the command has no line that has to be a repository. -/
theorem listsNothing_iff (h : t.setOut = (p, .ok l)) : l.ListsNothing ↔
    ResultSet.LaterLinesListNothing (Text.formatCommand t.command t.args) := by
  obtain ⟨⟨display, hprepared⟩, -⟩ := setOut_ok h
  obtain ⟨list, hlaunch⟩ := prepare_ok hprepared
  obtain ⟨hplaced, hholds⟩ := ResultSet.create_ok hlaunch.created
  have hlist : ∀ b, RepositoryList.load l.made (l.set.bucketList b) = .ok [] ↔
      ResultSet.LaterLinesListNothing (Text.formatCommand t.command t.args) := fun b =>
    (hholds.load_bucketList hplaced).trans (ResultSet.parse_header_eq_nil_iff b _)
  exact (and_congr (hlist .successful) (hlist .failed)).trans and_self_iff

/-- A run that is prepared has a result set with nothing but headers, and a pointer to it. -/
theorem isKept_of_prepare {display : Sink} {files : FileSystem}
    (h : t.prepare = (display, files, .ok l)) (hsteady : t.IsSteady l files) :
    l.set.IsKept t.settings.latestResults
      (ResultSet.header · (Text.formatCommand t.command t.args)) files := by
  obtain ⟨list, hlaunch⟩ := prepare_ok h
  obtain ⟨hplaced, hholds⟩ := ResultSet.create_ok hlaunch.created
  obtain ⟨dir, name, hmoved⟩ := LatestPointer.update_ok hlaunch.moved
  exact ⟨hplaced, hmoved.holds hholds (hsteady.outside _ hmoved.route),
    hmoved.readLink hsteady.route⟩

/-- What came of some repositories, in a run that took them from where it set out. -/
def resultsOf (t : Turn σ) (l : Launch) (p : Progress σ (List String)) (repos : List Repository) :
    List Result :=
  Run.results t.x (.toSet l.set) t.job repos p

/-- The texts of the lists when some repositories have been taken. -/
def texts (t : Turn σ) (l : Launch) (p : Progress σ (List String)) (repos : List Repository) :
    Bucket → String :=
  ResultSet.written (ResultSet.header · (Text.formatCommand t.command t.args))
    (t.resultsOf l p repos)

theorem isKept_after (h : t.setOut = (p, .ok l)) (hsteady : t.IsSteady l p.files)
    {taken : List Repository} (htaken : taken <+: l.campaign.repos)
    (hspares : Run.Spares t.x l.set t.settings.latestResults t.job taken p) :
    l.set.IsKept t.settings.latestResults (t.texts l p taken) (t.after l p taken).files := by
  obtain ⟨⟨display, hprepared⟩, -⟩ := setOut_ok h
  exact Run.isKept_run (isKept_of_prepare hprepared hsteady)
    (fun repo hrepo => (repos_of_setOut h).2 repo (htaken.subset hrepo)) hspares

/-- What the lists are read as when some repositories have been taken. -/
theorem parse_texts (h : t.setOut = (p, .ok l)) (hempty : l.ListsNothing)
    {taken : List Repository} (htaken : taken <+: l.campaign.repos) (b : Bucket) :
    RepositoryList.parse (t.texts l p taken b) =
      .ok (Run.reposWith b.outcome (t.resultsOf l p taken)) := by
  obtain ⟨hnodup, hentries⟩ := repos_of_setOut h
  have hheader := (ResultSet.parse_header_eq_nil_iff b _).2 ((listsNothing_iff h).1 hempty)
  have hrepos : (t.resultsOf l p taken).map (·.repo) = taken := Run.map_repo_results taken
  have hread : ∀ result ∈ t.resultsOf l p taken, result.repo.IsEntry := by
    intro result hresult
    have hmem : result.repo ∈ taken := hrepos ▸ List.mem_map_of_mem hresult
    exact hentries _ (htaken.subset hmem)
  have honce : ((t.resultsOf l p taken).map (·.repo)).Nodup := by
    rw [hrepos]
    exact hnodup.sublist htaken.sublist
  exact (ResultSet.parse_written (ResultSet.header · (Text.formatCommand t.command t.args))
    hheader (ResultSet.endsLine_header b _) hread honce).1

theorem isLedger_after (h : t.setOut = (p, .ok l)) (hempty : l.ListsNothing)
    (hsteady : t.IsSteady l p.files) {taken : List Repository}
    (htaken : taken <+: l.campaign.repos)
    (hspares : Run.Spares t.x l.set t.settings.latestResults t.job taken p) :
    IsLedger l.set t.settings.latestResults (t.resultsOf l p taken) (t.after l p taken) := by
  have hkept := isKept_after h hsteady htaken hspares
  have hlist : ∀ b, RepositoryList.load (t.after l p taken).files (l.set.bucketList b) =
      .ok (Run.reposWith b.outcome (t.resultsOf l p taken)) := fun b =>
    (hkept.holds.load_bucketList hkept.placed).2 (parse_texts h hempty htaken b)
  have hnodup : ((t.resultsOf l p taken).map (·.repo)).Nodup := by
    rw [resultsOf, Run.map_repo_results]
    exact (repos_of_setOut h).1.sublist htaken.sublist
  have hsummary : (t.after l p taken).summary = _ := Run.summary_run taken
  obtain ⟨-, -, -, hstart⟩ := setOut_ok h
  rw [hstart] at hsummary
  have hcount := Run.length_reposWith (t.resultsOf l p taken)
  refine ⟨hkept.resolve, hlist .successful, hlist .failed,
    fun o o' hne repo => Run.disjoint_reposWith hnodup hne, ?_, ?_, ?_⟩
  all_goals
    rw [hsummary]
    simp only [resultsOf] at hcount ⊢
    omega

/-- After any number of repositories the ledger is right: the pointer leads to the new result set,
its lists are read as the repositories that succeeded and those that failed so far, in order, and
the summary counts them.  The run goes on from there. -/
theorem ledger_after (h : t.setOut = (p, .ok l)) (hempty : l.ListsNothing)
    (hsteady : t.IsSteady l p.files) {k : Nat} (hk : k ≤ l.campaign.repos.length)
    (hspares : Run.Spares t.x l.set t.settings.latestResults t.job (l.campaign.repos.take k) p) :
    let taken := l.campaign.repos.take k
    (t.resultsOf l p taken).map (·.repo) = taken ∧ (t.resultsOf l p taken).length = k ∧
      IsLedger l.set t.settings.latestResults (t.resultsOf l p taken) (t.after l p taken) ∧
      t.run = finish l (t.after l (t.after l p taken) (l.campaign.repos.drop k)) := by
  intro taken
  have hledger := isLedger_after h hempty hsteady (List.take_prefix k _) hspares
  have hlength : (t.resultsOf l p taken).length = k := by
    rw [resultsOf, Run.length_results, List.length_take_of_le hk]
  refine ⟨Run.map_repo_results taken, hlength, hledger, ?_⟩
  rw [run_eq, h, after, after, ← Run.run_append, List.take_append_drop]
  rfl

/-! ### A run of one command -/

/-- A run sets out and passes a test. -/
def setsOutTo (t : Turn σ) (test : Progress σ (List String) → Launch → Bool) : Bool :=
  match t.setOut with
  | (p, .ok l) => test p l
  | (_, .error _) => false

theorem exists_setOut {test : Progress σ (List String) → Launch → Bool}
    (h : t.setsOutTo test = true) : ∃ p l, t.setOut = (p, .ok l) ∧ test p l = true := by
  unfold setsOutTo at h
  split at h
  · next p l hout => exact ⟨p, l, hout, h⟩
  · cases h

/-- The files of a campaign with one repository and its working copy, among others. -/
def sampleFiles (others : Entries) : FileSystem where
  root := [("work", .directory [("org", .directory [("a", .directory [])])]),
    ("repos.txt", .file "org/a\n".toUTF8 false), ("README.md", .file "".toUTF8 false),
    ("tmp", .directory [])] ++ others

/-- A run of `true` that does nothing, with a pointer of the given path. -/
def sample (pointer : String) (files : FileSystem) (selection : Selection := .all none)
    (suffix : Suffix := ⟨"a", by decide⟩) : Turn Nat where
  here := ⟨1, ⟨"/tmp"⟩, [suffix]⟩
  x := Script.executor []
  settings := { latestResults := ⟨pointer⟩ }
  selection
  command := "true"
  args := []
  before := { display := {}, files, executor := 0 }

/-- An executor without rules changes nothing. -/
theorem untouched_of_noRules (s : ResultSet) (pointer : Path) (request : Request) (n : Nat)
    (fs : FileSystem) :
    Untouched s pointer fs ((Script.executor []).execute request n fs).heard.2.2 :=
  .refl s pointer fs

theorem sample_spec {pointer : String} {files : FileSystem} {selection : Selection}
    {suffix : Suffix} {p : Progress Nat (List String)} {l : Launch}
    (h : (sample pointer files selection suffix).setOut = (p, .ok l)) (repos : List Repository) :
    l.ListsNothing ∧ Run.Spares (Script.executor []) l.set ⟨pointer⟩
      (sample pointer files selection suffix).job repos p := by
  have hline : ResultSet.LaterLinesListNothing (Text.formatCommand "true" []) :=
    ResultSet.laterLinesListNothing_of_notMem (Text.notMem_formatCommand (by decide))
  exact ⟨(listsNothing_iff h).2 hline, Run.spares_of_forall (untouched_of_noRules _ _) _ _⟩

theorem ledger_after_sample :
    ∃ p l, (sample ".latest_results" (sampleFiles [])).setOut = (p, .ok l) ∧
      let t := sample ".latest_results" (sampleFiles [])
      let taken := l.campaign.repos.take 1
      (t.resultsOf l p taken).map (·.repo) = taken ∧ (t.resultsOf l p taken).length = 1 ∧
        IsLedger l.set t.settings.latestResults (t.resultsOf l p taken) (t.after l p taken) ∧
        t.run = finish l (t.after l (t.after l p taken) (l.campaign.repos.drop 1)) := by
  have htest : (sample ".latest_results" (sampleFiles [])).setsOutTo
      (fun _ l => 1 ≤ l.campaign.repos.length) = true := by
    decide +kernel
  obtain ⟨p, l, hout, htest⟩ := exists_setOut htest
  have hnames : FileSystem.names ".latest_results" = [] ++ [".latest_results"] := by
    decide +kernel
  have hsteady := isSteady_of_directories hout hnames
    (by simpa using ⟨by decide, by decide, by decide⟩) rfl
  obtain ⟨hempty, hspares⟩ := sample_spec hout (l.campaign.repos.take 1)
  exact ⟨p, l, hout, ledger_after hout hempty hsteady (of_decide_eq_true htest) hspares⟩

/-- A run that sets out with lists that are read as empty, and has no ledger before it takes the
first repository. -/
def StartsWithoutLedger (t : Turn σ) : Prop :=
  ∃ p l, t.setOut = (p, .ok l) ∧ l.ListsNothing ∧
    ¬ IsLedger l.set t.settings.latestResults (t.resultsOf l p []) (t.after l p [])

/-- Two pointers that are not steady: the path of the one goes through the pointer itself, which
leads elsewhere when it has been moved, and the other is in the place of a list.  Before the first
repository the ledger of the one has no pointer, and that of the other has no list. -/
theorem not_ledger_of_unsteady :
    (sample "x/../x"
        (sampleFiles [("sub", .directory []), ("x", .link "sub")])).StartsWithoutLedger ∧
      (sample "tmp/fleetrun-foreach-campaign-a/failed/repos.txt"
        (sampleFiles [])).StartsWithoutLedger := by
  constructor
  · have htest : (sample "x/../x"
        (sampleFiles [("sub", .directory []), ("x", .link "sub")])).setsOutTo
          (fun p l => LatestPointer.resolve p.files ⟨"x/../x"⟩ ≠ .ok l.set) = true := by
      decide +kernel
    obtain ⟨p, l, hout, htest⟩ := exists_setOut htest
    obtain ⟨hempty, -⟩ := sample_spec hout []
    exact ⟨p, l, hout, hempty, fun h => of_decide_eq_true htest h.pointer⟩
  · have htest : (sample "tmp/fleetrun-foreach-campaign-a/failed/repos.txt"
        (sampleFiles [])).setsOutTo
          (fun p l => ¬ (RepositoryList.load p.files (l.set.listPath .failed)).isOk) = true := by
      decide +kernel
    obtain ⟨p, l, hout, htest⟩ := exists_setOut htest
    obtain ⟨hempty, -⟩ := sample_spec hout []
    refine ⟨p, l, hout, hempty, fun h => of_decide_eq_true htest ?_⟩
    have hread : RepositoryList.load p.files (l.set.listPath .failed) = .ok [] := h.failed
    rw [hread]
    rfl

end Turn

end Foreach

end Fleet

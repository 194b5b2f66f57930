import Fleet.Proofs.Loading
import Fleet.Proofs.Replacement
import Mathlib.Data.List.Chain

namespace Fleet

/-! # Run after run

A run writes into its own result set, which is where nothing was, and moves the pointer.  So if the
commands write into no result set, and the pointer and its staging path lead into none, a run leaves
all that is in the result sets of earlier runs as it was, and its own is another
(`Foreach.keeps_earlier_sets`).  This does not depend on what the run selects, nor on whether it
succeeds.
-/

namespace ResultSet

variable {s : ResultSet} {text : Bucket → String} {fs fs' : FileSystem}

/-- Nothing has been written into a result set. -/
def Intact (s : ResultSet) (fs fs' : FileSystem) : Prop :=
  ∀ loc, s.location <+: loc → fs'.root.item? loc = fs.root.item? loc

/-- Whatever stood in a result set stands there as it did. -/
def KeepsInside (s : ResultSet) (fs fs' : FileSystem) : Prop :=
  ∀ loc e, s.location <+: loc → fs.root.item? loc = some e → fs'.root.item? loc = some e

theorem Intact.refl (s : ResultSet) (fs : FileSystem) : s.Intact fs fs := fun _ _ => rfl

end ResultSet

/-! ## The commands of a run -/

namespace Run

open ResultSet (added)

variable {σ ρ : Type} {x : Executor σ} {r : Recorder ρ} {job : Job}

/-- Every command of a run changes the files in a certain way. -/
def EachCommand (change : FileSystem → FileSystem → Prop) (x : Executor σ) (r : Recorder ρ)
    (job : Job) : List Repository → Progress σ ρ → Prop
  | [], _ => True
  | repo :: rest, p =>
    (p.files.isPresent (repo.workDir job.workRoot) = true →
      change p.files (x.execute (request job repo) p.executor p.files).heard.2.2) ∧
      EachCommand change x r job rest (step x r job p repo)

theorem eachCommand_of_forall {change : FileSystem → FileSystem → Prop}
    (h : ∀ request state fs, change fs (x.execute request state fs).heard.2.2)
    (repos : List Repository) (p : Progress σ ρ) : EachCommand change x r job repos p := by
  induction repos generalizing p with
  | nil => exact trivial
  | cons repo rest ih => exact ⟨fun _ => h _ _ _, ih _⟩

variable {s own : ResultSet} {text : Bucket → String} {p : Progress σ (List String)}
  {repo : Repository} {repos : List Repository}

theorem intact_visit (h : EachCommand s.Intact x (.toSet own) job (repo :: repos) p) :
    s.Intact p.files (visit x job repo p).2.files := by
  obtain ⟨result, p', hvisit, -, -, -, hcases⟩ := visit_cases x job repo p
  rw [hvisit]
  rcases hcases with ⟨-, -, hfiles, -⟩ | ⟨hthere, -, hheard⟩
  · rw [hfiles]
    exact .refl s _
  · have hcommand := h.1 hthere
    rwa [← hheard] at hcommand

theorem repo_visit (x : Executor σ) (job : Job) (repo : Repository) (p : Progress σ ρ) :
    (visit x job repo p).1.repo = repo := by
  obtain ⟨result, p', hvisit, hrepo, -⟩ := visit_cases x job repo p
  rw [hvisit, hrepo]

/-- If no command writes into the result set of the run, it holds what has been recorded. -/
theorem holds_step (hp : own.IsPlaced) (h : own.Holds text p.files) (hentry : repo.IsEntry)
    (hown : EachCommand own.Intact x (.toSet own) job (repo :: repos) p) :
    own.Holds (added text (visit x job repo p).1) (step x (.toSet own) job p repo).files := by
  have hvisited := h.of_items (intact_visit hown)
  rw [step_files]
  exact ResultSet.record_holds hp hvisited (by rwa [repo_visit])

/-- What is in another result set, and not in that of the run, is kept if no command writes into
either. -/
theorem keeps_step (hp : own.IsPlaced) (h : own.Holds text p.files) (hentry : repo.IsEntry)
    (hown : EachCommand own.Intact x (.toSet own) job (repo :: repos) p)
    (hs : EachCommand s.Intact x (.toSet own) job (repo :: repos) p) {loc : Location} {e : Entry}
    (hin : s.location <+: loc) (hout : ¬ own.location <+: loc)
    (he : p.files.root.item? loc = some e) :
    (step x (.toSet own) job p repo).files.root.item? loc = some e := by
  have hvisited := h.of_items (intact_visit hown)
  rw [step_files]
  refine ResultSet.record_outside hp hvisited (by rwa [repo_visit]) loc e hout ?_
  rw [intact_visit hs loc hin, he]

theorem holds_run (hp : own.IsPlaced) (h : own.Holds text p.files)
    (hentries : ∀ repo ∈ repos, repo.IsEntry)
    (hown : EachCommand own.Intact x (.toSet own) job repos p) :
    ∃ text', own.Holds text' (run x (.toSet own) job repos p).files := by
  induction repos generalizing p text with
  | nil => exact ⟨text, h⟩
  | cons repo rest ih =>
    rw [List.forall_mem_cons] at hentries
    rw [run_cons]
    exact ih (holds_step hp h hentries.1 hown) hentries.2 hown.2

theorem keeps_run (hp : own.IsPlaced) (h : own.Holds text p.files)
    (hentries : ∀ repo ∈ repos, repo.IsEntry)
    (hown : EachCommand own.Intact x (.toSet own) job repos p)
    (hs : EachCommand s.Intact x (.toSet own) job repos p) {loc : Location} {e : Entry}
    (hin : s.location <+: loc) (hout : ¬ own.location <+: loc)
    (he : p.files.root.item? loc = some e) :
    (run x (.toSet own) job repos p).files.root.item? loc = some e := by
  induction repos generalizing p text with
  | nil => exact he
  | cons repo rest ih =>
    rw [List.forall_mem_cons] at hentries
    rw [run_cons]
    exact ih (holds_step hp h hentries.1 hown) hentries.2 hown.2 hs.2
      (keeps_step hp h hentries.1 hown hs hin hout he)

end Run

/-! ## Making a result set, and what comes after -/

namespace Foreach.Turn

variable {σ : Type} {t : Turn σ} {l : Launch} {s : ResultSet}

/-- A run gets as far as to have made its result set. -/
structure Creates (t : Turn σ) (l : Launch) : Prop where
  loads : ∃ display list, t.selected = (display, .ok list) ∧
    Campaign.load t.before.files list t.settings.descriptionFile = .ok l.campaign
  created : t.createSet l.campaign.name = (l.made, .ok l.set)

theorem Creates.unique {l' : Launch} (h : t.Creates l) (h' : t.Creates l') : l = l' := by
  obtain ⟨display, list, hselected, hloaded⟩ := h.loads
  obtain ⟨display', list', hselected', hloaded'⟩ := h'.loads
  obtain rfl : list = list' :=
    Except.ok.inj (Prod.mk.inj (hselected.symm.trans hselected')).2
  have hcampaign := Except.ok.inj (hloaded.symm.trans hloaded')
  have hcreated := h.created
  rw [hcampaign, h'.created] at hcreated
  obtain ⟨hmade, hset⟩ := Prod.mk.inj hcreated
  obtain ⟨campaign, set, made⟩ := l
  obtain ⟨campaign', set', made'⟩ := l'
  simp only [Launch.mk.injEq]
  exact ⟨hcampaign, (Except.ok.inj hset).symm, hmade.symm⟩

theorem creates_of_setOut {p : Progress σ (List String)} (h : t.setOut = (p, .ok l)) :
    t.Creates l := by
  obtain ⟨⟨display, hprepared⟩, -⟩ := setOut_ok h
  obtain ⟨list, hlaunch⟩ := prepare_ok hprepared
  exact ⟨⟨display, list, hlaunch.selected, hlaunch.loaded⟩, hlaunch.created⟩

/-- Moves the pointer to the result set that a run has made. -/
def moving (t : Turn σ) (l : Launch) : FileSystem × Except Error Unit :=
  LatestPointer.update t.here.pid l.set t.settings.latestResults l.made

/-- If the pointer is moved the run has been prepared. -/
theorem Creates.prepare (h : t.Creates l) :
    ∃ display, t.prepare = (display, (t.moving l).1, (t.moving l).2.map fun _ => l) := by
  obtain ⟨display, list, hselected, hloaded⟩ := h.loads
  refine ⟨display, ?_⟩
  simp only [prepare_of_selected hselected, hloaded, h.created, moving]
  rcases LatestPointer.update t.here.pid l.set t.settings.latestResults l.made
    with ⟨files, e | ⟨⟩⟩
  · rfl
  · rfl

/-- A run makes its result set, or fails with nothing changed that was there. -/
theorem creates_or_extends (t : Turn σ) :
    (∃ l, t.Creates l) ∨ ∃ display files e, t.prepare = (display, files, .error e) ∧
      FileSystem.Extends t.before.files files := by
  rcases hselected : t.selected with ⟨display, e | list⟩
  · exact .inr ⟨_, _, _, prepare_of_not_selected hselected, .refl _⟩
  rcases hloaded : Campaign.load t.before.files list t.settings.descriptionFile with e | campaign
  · refine .inr ⟨display, t.before.files, e, ?_, .refl _⟩
    simp only [prepare_of_selected hselected, hloaded]
  rcases hcreated : t.createSet campaign.name with ⟨made, e | set⟩
  · refine .inr ⟨display, made, e, ?_, ResultSet.create_extends hcreated⟩
    simp only [prepare_of_selected hselected, hloaded, hcreated]
  · exact .inl ⟨⟨campaign, set, made⟩, ⟨display, list, hselected, hloaded⟩, hcreated⟩

/-- Where a run that has made its result set can end: when the pointer has been moved or not, or
when the repositories have been taken. -/
theorem Creates.run_cases (h : t.Creates l) :
    t.run.1.files = (t.moving l).1 ∨ ∃ p, t.setOut = (p, .ok l) ∧ p.files = (t.moving l).1 ∧
      t.run.1.files = (t.after l p l.campaign.repos).files := by
  obtain ⟨display, hprepared⟩ := h.prepare
  rw [run_eq]
  rcases hout : t.setOut with ⟨p, e | l'⟩
  · obtain ⟨-, hfailed | ⟨told, launch, io, hannounced, -⟩⟩ := setOut_error hout
    · exact .inl (Prod.mk.inj (Prod.mk.inj (hfailed.symm.trans hprepared)).2).1
    · exact .inl (Prod.mk.inj (Prod.mk.inj (hannounced.symm.trans hprepared)).2).1
  · obtain ⟨⟨display', hprepared'⟩, -⟩ := setOut_ok hout
    obtain rfl := h.unique (creates_of_setOut hout)
    have hfiles := (Prod.mk.inj (Prod.mk.inj (hprepared'.symm.trans hprepared)).2).1
    exact .inr ⟨p, rfl, hfiles, rfl⟩

/-! ## What a run leaves as it was -/

/-- The pointer and its staging path lead to no place in a result set, and no command of the run
writes into it. -/
structure Respects (t : Turn σ) (s : ResultSet) : Prop where
  pointer : ∀ l loc, t.Creates l → l.made.place? t.settings.latestResults = some loc →
    ¬ s.location <+: loc
  staging : ∀ l loc, t.Creates l →
    l.made.place? (LatestPointer.staging t.here.pid t.settings.latestResults) = some loc →
      ¬ s.location <+: loc
  commands : ∀ p l, t.setOut = (p, .ok l) →
    Run.EachCommand s.Intact t.x (.toSet l.set) t.job l.campaign.repos p

/-- Moving a pointer that is outside a result set writes nothing into it. -/
theorem Respects.intact_moving (h : t.Respects s) (hcreates : t.Creates l) :
    s.Intact l.made (t.moving l).1 := by
  intro loc hin
  have hmidway := LatestPointer.isMidway_update t.here.pid l.set t.settings.latestResults l.made
  rw [moving]
  refine hmidway.item?_eq (fun hplace => ?_) fun hplace => ?_
  · exact h.pointer l loc hcreates hplace hin
  · exact h.staging l loc hcreates hplace hin

/-- The result set of a run is placed, and holds its lists when the pointer has been moved. -/
theorem Creates.holds_moving (h : t.Creates l) (hown : t.Respects l.set) :
    l.set.IsPlaced ∧
      l.set.Holds (ResultSet.header · (Text.formatCommand t.command t.args)) (t.moving l).1 := by
  obtain ⟨hplaced, hholds⟩ := ResultSet.create_ok h.created
  exact ⟨hplaced, hholds.of_items (hown.intact_moving h)⟩

/-- What is in a result set is kept by every run that respects it and its own. -/
theorem keepsInside_run (h : t.Respects s) (hown : ∀ l, t.Creates l → t.Respects l.set) :
    s.KeepsInside t.before.files t.run.1.files := by
  intro loc e hin he
  rcases creates_or_extends t with ⟨l, hcreates⟩ | ⟨display, files, e', hfailed, hgrown⟩
  · -- nothing was where the new result set is, so nothing that was there is in it
    have hnew : t.before.files.root.item? l.set.location = none :=
      ResultSet.create_new hcreates.created
    have hout : ¬ l.set.location <+: loc := by
      intro hprefix
      by_cases hl : loc = l.set.location
      · rw [hl, hnew] at he
        cases he
      · rw [Entries.item?_below_none (by simp [hnew]) hprefix hl] at he
        cases he
    have hmade := (ResultSet.create_extends hcreates.created).items loc e he
    have hmoved : (t.moving l).1.root.item? loc = some e :=
      (h.intact_moving hcreates loc hin).trans hmade
    rcases hcreates.run_cases with hrun | ⟨p, hout', hfiles, hrun⟩
    · rw [hrun, hmoved]
    · obtain ⟨hplaced, hholds⟩ := hcreates.holds_moving (hown l hcreates)
      rw [← hfiles] at hholds hmoved
      rw [hrun]
      exact Run.keeps_run hplaced hholds (repos_of_setOut hout').2
        ((hown l hcreates).commands p l hout') (h.commands p l hout') hin hout hmoved
  · have hrun : t.run.1.files = files := by
      rw [run_eq, setOut, hfailed]
    rw [hrun]
    exact hgrown.items loc e he

/-- The result set that a run has made is there when the run has ended. -/
theorem Creates.directory_run (h : t.Creates l) (hown : t.Respects l.set) :
    t.run.1.files.root.item? l.set.location = some .directory := by
  obtain ⟨hplaced, hholds⟩ := h.holds_moving hown
  rcases h.run_cases with hrun | ⟨p, hout, hfiles, hrun⟩
  · rw [hrun]
    exact Entries.kind?_eq_directory.1 hholds.directory
  · rw [← hfiles] at hholds
    obtain ⟨text, hholds⟩ :=
      Run.holds_run hplaced hholds (repos_of_setOut hout).2 (hown.commands p l hout)
    rw [hrun]
    exact Entries.kind?_eq_directory.1 hholds.directory

end Foreach.Turn

/-! ## One run after another -/

namespace Foreach

/-- A run in a sequence of runs, which need not have the same executor. -/
structure Attempt where
  {σ : Type}
  turn : Turn σ

namespace Attempt

/-- A run that starts from what another has left. -/
def Follows (before after : Attempt) : Prop := after.turn.before.files = before.turn.run.1.files

/-- A run that respects the result set of another, or its own. -/
def Spares (earlier later : Attempt) : Prop :=
  ∀ l, earlier.turn.Creates l → later.turn.Respects l.set

/-- A result set that is there is still there when each of the next runs starts. -/
theorem directory_of_isChain {s : ResultSet} {first : Attempt} {rest : List Attempt}
    (hchain : (first :: rest).IsChain Follows) (hown : ∀ a ∈ rest, Spares a a)
    (hrespects : ∀ a ∈ rest, a.turn.Respects s)
    (hthere : first.turn.run.1.files.root.item? s.location = some .directory) :
    ∀ a ∈ rest, a.turn.before.files.root.item? s.location = some .directory := by
  induction rest generalizing first with
  | nil => simp
  | cons next rest ih =>
    rw [List.isChain_cons_cons] at hchain
    rw [List.forall_mem_cons] at hown hrespects ⊢
    have hstart : next.turn.before.files.root.item? s.location = some .directory := by
      rw [hchain.1, hthere]
    have hstop := Turn.keepsInside_run hrespects.1 hown.1 _ _ List.prefix_rfl hstart
    exact ⟨hstart, ih hchain.2 hown.2 hrespects.2 hstop⟩

end Attempt

/-- In a sequence of runs that write into no result set but their own, every run leaves all that is
in the result set of an earlier one as it was, and its own is another. -/
theorem keeps_earlier_sets {runs : List Attempt} (hfollows : runs.IsChain Attempt.Follows)
    (hown : ∀ a ∈ runs, Attempt.Spares a a) (hearlier : runs.Pairwise Attempt.Spares) :
    runs.Pairwise fun earlier later => ∀ l, earlier.turn.Creates l →
      l.set.KeepsInside later.turn.before.files later.turn.run.1.files ∧
        ∀ l', later.turn.Creates l' → l'.set.root ≠ l.set.root := by
  induction runs with
  | nil => exact .nil
  | cons first rest ih =>
    rw [List.forall_mem_cons] at hown
    rw [List.pairwise_cons] at hearlier ⊢
    refine ⟨fun later hlater l hcreates => ?_, ih hfollows.tail hown.2 hearlier.2⟩
    have hrespects : ∀ a ∈ rest, a.turn.Respects l.set := fun a ha => hearlier.1 a ha l hcreates
    refine ⟨Turn.keepsInside_run (hrespects later hlater) (hown.2 later hlater), ?_⟩
    -- the earlier set is there when the later one is made, which is where nothing was
    intro l' hcreates' hroot
    have hthere := hcreates.directory_run (hown.1 l hcreates)
    have hstill := Attempt.directory_of_isChain hfollows hown.2 hrespects hthere later hlater
    have hnew : later.turn.before.files.root.item? l'.set.location = none :=
      ResultSet.create_new hcreates'.created
    rw [ResultSet.location, hroot, ← ResultSet.location, hstill] at hnew
    cases hnew

/-! ### Two runs of one command, of which the second takes what succeeded in the first -/

/-- A path of one name in the root directory leads there, if it leads anywhere. -/
theorem place_in_root {fs : FileSystem} {p : Path} {name : String} {loc : Location}
    (habs : FileSystem.startsAtRoot p.text = true) (hnames : FileSystem.names p.text = [] ++ [name])
    (hname : FileSystem.IsName name) (h : fs.place? p = some loc) : loc = [name] := by
  have hstart : fs.start p = [] := ResultSet.start_of_startsAtRoot habs fs
  have hdir : fs.root.item? (fs.start p ++ []) = some .directory := by
    rw [hstart]
    exact Entries.item?_nil fs.root
  have hloc := FileSystem.place?_through hnames (by simpa using hname) hdir h
  rwa [hstart] at hloc

theorem Turn.sample_place {fs : FileSystem} {loc : Location}
    (h : fs.place? ⟨"/latest"⟩ = some loc) : loc = ["latest"] :=
  place_in_root (by decide +kernel) (by decide +kernel) ⟨by decide, by decide, by decide⟩ h

theorem Turn.sample_staging {fs : FileSystem} {loc : Location}
    (h : fs.place? (LatestPointer.staging 1 ⟨"/latest"⟩) = some loc) : loc = [".latest.1.tmp"] := by
  have hstaging : LatestPointer.staging 1 ⟨"/latest"⟩ = ⟨"/.latest.1.tmp"⟩ := by decide +kernel
  rw [hstaging] at h
  exact place_in_root (by decide +kernel) (by decide +kernel) ⟨by decide, by decide, by decide⟩ h

/-- The pointer of the sample is in the root directory, so it is in no result set. -/
theorem Turn.sample_outside {files : FileSystem} {selection : Selection} {suffix : Suffix}
    {p : Progress Nat (List String)} {l : Launch}
    (h : (sample "/latest" files selection suffix).setOut = (p, .ok l)) :
    ¬ l.set.location <+: ["latest"] ∧ ¬ l.set.location <+: [".latest.1.tmp"] := by
  obtain ⟨⟨display, hprepared⟩, -⟩ := setOut_ok h
  obtain ⟨list, hlaunch⟩ := prepare_ok hprepared
  obtain ⟨-, hholds⟩ := ResultSet.create_ok hlaunch.created
  have hthere := Entries.kind?_eq_directory.1 hholds.directory
  have hnew := ResultSet.create_new hlaunch.created
  have houtside : ∀ name, l.made.root.item? [name] ≠ some .directory →
      ¬ l.set.location <+: [name] := by
    intro name hnot hprefix
    rcases List.prefix_concat_iff.1 (show l.set.location <+: [] ++ [name] from hprefix)
      with he | hnil
    · rw [he, List.nil_append] at hthere
      exact hnot hthere
    · rw [List.prefix_nil.1 hnil] at hnew
      cases hnew
  obtain ⟨loc, beside, hplace, hbeside, hnot, hnot', -⟩ :=
    (LatestPointer.isReplaced_of_ok hlaunch.moved).items
  obtain rfl := sample_place hplace
  obtain rfl := sample_staging hbeside
  exact ⟨houtside _ hnot, houtside _ hnot'⟩

/-- A run of the sample spares the result set of any other. -/
theorem Attempt.spares_sample {files files' : FileSystem} {selection selection' : Selection}
    {suffix suffix' : Suffix} {p : Progress Nat (List String)} {l : Launch}
    (h : (Turn.sample "/latest" files selection suffix).setOut = (p, .ok l)) :
    Spares ⟨Turn.sample "/latest" files selection suffix⟩
      ⟨Turn.sample "/latest" files' selection' suffix'⟩ := by
  intro launch hlaunch
  obtain rfl := (Turn.creates_of_setOut h).unique hlaunch
  obtain ⟨hpointer, hstaging⟩ := Turn.sample_outside h
  refine ⟨fun made loc _ hplace => ?_, fun made loc _ hplace => ?_,
    fun _ _ _ => Run.eachCommand_of_forall (fun _ _ _ => .refl _ _) _ _⟩
  · rwa [Turn.sample_place hplace]
  · rwa [Turn.sample_staging hplace]

theorem Attempt.follows_sample {σ : Type} (t : Turn σ) (selection : Selection) (suffix : Suffix) :
    Follows ⟨t⟩ ⟨Turn.sample "/latest" t.run.1.files selection suffix⟩ :=
  rfl

theorem keeps_earlier_sets_sample :
    ∃ first second : Attempt, first.Follows second ∧ second.turn.selection = .previous .successful ∧
      ∃ l l', first.turn.Creates l ∧ second.turn.Creates l' ∧
        l.set.KeepsInside second.turn.before.files second.turn.run.1.files ∧
          l'.set.root ≠ l.set.root := by
  let t := Turn.sample "/latest" (Turn.sampleFiles [])
  let t' := Turn.sample "/latest" t.run.1.files (.previous .successful) ⟨"b", by decide⟩
  have htest : t.setsOutTo (fun _ _ => t'.setsOutTo fun _ _ => true) = true := by decide +kernel
  obtain ⟨p, l, hout, htest'⟩ := Turn.exists_setOut htest
  obtain ⟨p', l', hout', -⟩ := Turn.exists_setOut htest'
  have hcreates : t.Creates l := Turn.creates_of_setOut hout
  have hcreates' : t'.Creates l' := Turn.creates_of_setOut hout'
  have hfollows : Attempt.Follows ⟨t⟩ ⟨t'⟩ := Attempt.follows_sample t _ _
  have hchain : [(⟨t⟩ : Attempt), ⟨t'⟩].IsChain Attempt.Follows := List.isChain_pair.2 hfollows
  have hkept := keeps_earlier_sets hchain
    (by simpa using ⟨Attempt.spares_sample hout, Attempt.spares_sample hout'⟩)
    (List.pairwise_pair.2 (Attempt.spares_sample hout))
  obtain ⟨hsame, hother⟩ := List.pairwise_pair.1 hkept l hcreates
  exact ⟨⟨t⟩, ⟨t'⟩, hfollows, rfl, l, l', hcreates, hcreates', hsame, hother l' hcreates'⟩

end Foreach

end Fleet

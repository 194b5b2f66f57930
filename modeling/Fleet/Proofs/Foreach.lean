import Fleet.Foreach
import Fleet.Proofs.LatestPointer
import Fleet.Proofs.NewResultSet
import Fleet.Proofs.Run

namespace Fleet

/-! # Setting out

A run has a part in which anything may go wrong and one that cannot end early: it sets out
(`Turn.setOut`), and then takes the repositories one by one (`Turn.run_eq`).  Setting out is reading
the list, making the result set and moving the pointer (`Foreach.prepare`), and then announcing the
run on the display.
-/

open FileSystem (Extends)

namespace Foreach

/-- A run that is ready to take the repositories. -/
structure Launch where
  campaign : Campaign
  set : ResultSet
  /-- the files when the result set had just been made, and the pointer not moved -/
  made : FileSystem

/-- Everything before the run is announced. -/
def prepare (here : Surroundings) (settings : Settings) (selection : Selection) (command : String)
    (args : List String) (display : Sink) (fs : FileSystem) :
    Sink × FileSystem × Except Error Launch :=
  match selection.resolve fs settings.reposFile settings.latestResults display with
  | (display, .error e) => (display, fs, .error e)
  | (display, .ok list) =>
    match Campaign.load fs list settings.descriptionFile with
    | .error e => (display, fs, .error e)
    | .ok campaign =>
      match ResultSet.create here (settings.resultsDir.getD here.tempDir) campaign.name
        (Text.formatCommand command args) fs with
      | (files, .error e) => (display, files, .error e)
      | (made, .ok set) =>
        match LatestPointer.update here.pid set settings.latestResults made with
        | (files, .error e) => (display, files, .error e)
        | (files, .ok ()) => (display, files, .ok ⟨campaign, set, made⟩)

/-- A call of `Foreach.run`. -/
structure Turn (σ : Type) where
  here : Surroundings
  x : Executor σ
  settings : Settings
  selection : Selection
  command : String
  args : List String
  before : Aftermath σ

namespace Turn

variable {σ : Type} {t : Turn σ} {p : Progress σ (List String)} {l : Launch}

def run (t : Turn σ) : Aftermath σ × Except Error Report :=
  Foreach.run t.here t.x t.settings t.selection t.command t.args t.before

def prepare (t : Turn σ) : Sink × FileSystem × Except Error Launch :=
  Foreach.prepare t.here t.settings t.selection t.command t.args t.before.display t.before.files

/-- What is done in each repository. -/
def job (t : Turn σ) : Job := ⟨t.settings.workDir, t.command, t.args⟩

/-- Everything before the first repository. -/
def setOut (t : Turn σ) : Progress σ (List String) × Except Error Launch :=
  match t.prepare with
  | (display, files, .error e) =>
    ({ display, files, executor := t.before.executor, records := [] }, .error e)
  | (display, files, .ok l) =>
    match display.writeLine (opening (Text.formatCommand t.command t.args) l.campaign.repos) with
    | (display, .error e) =>
      ({ display, files, executor := t.before.executor, records := [] }, .error (.io e))
    | (display, .ok ()) =>
      ({ display, files, executor := t.before.executor, records := [] }, .ok l)

/-- The run when it has taken some repositories, from where it set out. -/
def after (t : Turn σ) (l : Launch) (p : Progress σ (List String)) (repos : List Repository) :
    Progress σ (List String) :=
  Run.run t.x (.toSet l.set) t.job repos p

/-- What a run comes to when it has taken all repositories. -/
def finish (l : Launch) (stop : Progress σ (List String)) : Aftermath σ × Except Error Report :=
  (⟨stop.display, stop.files, stop.executor, stop.records.reverse⟩,
    .ok ⟨l.campaign.name, stop.summary, l.set⟩)

/-- A run sets out, and then takes all repositories. -/
theorem run_eq (t : Turn σ) : t.run =
    match t.setOut with
    | (p, .error e) => (⟨p.display, p.files, p.executor, t.before.warnings⟩, .error e)
    | (p, .ok l) => finish l (t.after l p l.campaign.repos) := by
  -- both sides make the same five choices, and where a step fails they are the same
  unfold Turn.run Foreach.run setOut Turn.prepare Foreach.prepare
  rcases t.selection.resolve t.before.files t.settings.reposFile t.settings.latestResults
    t.before.display with ⟨display, e | list⟩
  · rfl
  simp only
  rcases Campaign.load t.before.files list t.settings.descriptionFile with e | campaign
  · rfl
  simp only
  unfold record
  simp only
  rcases ResultSet.create t.here (t.settings.resultsDir.getD t.here.tempDir) campaign.name
    (Text.formatCommand t.command t.args) t.before.files with ⟨made, e | set⟩
  · rfl
  simp only
  rcases LatestPointer.update t.here.pid set t.settings.latestResults made with ⟨files, e | ⟨⟩⟩
  · rfl
  simp only [proceed]
  rcases display.writeLine (opening (Text.formatCommand t.command t.args) campaign.repos)
    with ⟨told, e | ⟨⟩⟩
  · rfl
  · rfl

/-- What must have gone well before a run is announced. -/
structure IsPrepared (t : Turn σ) (display : Sink) (files : FileSystem) (l : Launch)
    (list : Path) : Prop where
  selected : t.selection.resolve t.before.files t.settings.reposFile t.settings.latestResults
    t.before.display = (display, .ok list)
  loaded : Campaign.load t.before.files list t.settings.descriptionFile = .ok l.campaign
  created : ResultSet.create t.here (t.settings.resultsDir.getD t.here.tempDir) l.campaign.name
    (Text.formatCommand t.command t.args) t.before.files = (l.made, .ok l.set)
  moved : LatestPointer.update t.here.pid l.set t.settings.latestResults l.made = (files, .ok ())

theorem prepare_ok {display : Sink} {files : FileSystem} (h : t.prepare = (display, files, .ok l)) :
    ∃ list, t.IsPrepared display files l list := by
  unfold Turn.prepare Foreach.prepare at h
  split at h
  · cases h
  next told list hselected =>
  split at h
  · cases h
  next campaign hloaded =>
  split at h
  · cases h
  next made set hcreated =>
  split at h
  · cases h
  next moved hmoved =>
  cases h
  exact ⟨list, hselected, hloaded, hcreated, hmoved⟩

/-- If a run cannot be prepared, the files are as they were, unless it was the result set or the
pointer that could not be written: then nothing is lost but what was left at the staging path. -/
theorem prepare_error {display : Sink} {files : FileSystem} {e : Error}
    (h : t.prepare = (display, files, .error e)) :
    files = t.before.files ∨ ((∃ p io, e = .recorder p io) ∧
      ∃ made, Extends t.before.files made ∧
        Extends (LatestPointer.swept t.here.pid t.settings.latestResults made) files) := by
  unfold Turn.prepare Foreach.prepare at h
  split at h
  · cases h
    exact .inl rfl
  next told list hselected =>
  split at h
  · cases h
    exact .inl rfl
  next campaign hloaded =>
  -- from here on something may have come, and at the end the staging path has been swept
  refine .inr ?_
  split at h
  · next made e' hcreated =>
    cases h
    exact ⟨ResultSet.create_error hcreated, _, ResultSet.create_extends hcreated,
      LatestPointer.swept_extends _ _ _⟩
  next made set hcreated =>
  split at h
  · next moved e' hmoved =>
    cases h
    obtain ⟨hkind, hkept⟩ := LatestPointer.update_error hmoved
    exact ⟨hkind, made, ResultSet.create_extends hcreated, hkept.extends⟩
  · cases h

/-- A run that has set out was prepared, and has called nothing. -/
theorem setOut_ok (h : t.setOut = (p, .ok l)) :
    (∃ display, t.prepare = (display, p.files, .ok l)) ∧ p.executor = t.before.executor ∧
      p.records = [] ∧ p.summary = {} := by
  unfold setOut at h
  split at h
  · cases h
  next display files launch hprepared =>
  split at h
  · cases h
  · cases h
    exact ⟨⟨display, hprepared⟩, rfl, rfl, rfl⟩

/-- A run that has not set out could not be prepared, or could not be announced. -/
theorem setOut_error {e : Error} (h : t.setOut = (p, .error e)) :
    p.executor = t.before.executor ∧
      (t.prepare = (p.display, p.files, .error e) ∨
        ∃ display launch e', t.prepare = (display, p.files, .ok launch) ∧ e = .io e') := by
  unfold setOut at h
  split at h
  · next hprepared =>
    cases h
    exact ⟨rfl, .inl hprepared⟩
  next display files launch hprepared =>
  split at h
  · next e' _ =>
    cases h
    exact ⟨rfl, .inr ⟨display, launch, e', hprepared, rfl⟩⟩
  · cases h

end Turn

end Foreach

end Fleet

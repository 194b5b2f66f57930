import Fleet.Proofs.Ledger

namespace Fleet

/-! # Runs that fail

A run fails before it takes the first repository, or not at all, so a failed run has called nothing.
If it fails before the result set is made it has changed nothing either, and if it fails before the
pointer is moved, a pointer that led to a result set still does (`Foreach.Turn.failed_run`).  Once
the pointer has been moved, all that can fail is the announcement, and the pointer is left on the
new result set.
-/

namespace Foreach.Turn

variable {σ : Type}

/-- The same run with an executor that remembers every command. -/
def logged (t : Turn σ) : Turn (σ × List Call) where
  here := t.here
  x := t.x.logged
  settings := t.settings
  selection := t.selection
  command := t.command
  args := t.args
  before :=
    { display := t.before.display
      files := t.before.files
      executor := (t.before.executor, []) }

/-- A failed run has called nothing.  Then the files are as they were; or the result set or the
pointer could not be written, and the pointer leads to the result set it led to, provided that what
was left at the staging path was not on its way; or the run could not be announced, and the pointer
has been moved to the new result set. -/
theorem failed_run {t : Turn σ} {a : Aftermath (σ × List Call)} {e : Error}
    (h : t.logged.run = (a, .error e)) :
    a.executor = (t.before.executor, []) ∧
      (a.files = t.before.files ∨
        ((∃ p io, e = .recorder p io) ∧ ∀ s,
          LatestPointer.resolve
              (LatestPointer.swept t.here.pid t.settings.latestResults t.before.files)
              t.settings.latestResults = .ok s →
            LatestPointer.resolve a.files t.settings.latestResults = .ok s) ∨
        ∃ display l io, t.prepare = (display, a.files, .ok l) ∧ e = .io io ∧
          (t.IsSteady l a.files →
            LatestPointer.resolve a.files t.settings.latestResults = .ok l.set)) := by
  rw [run_eq] at h
  split at h
  · next p e' hout =>
    cases h
    obtain ⟨hexecutor, hprepared | ⟨display, l, io, hprepared, rfl⟩⟩ := setOut_error hout
    · refine ⟨hexecutor, ?_⟩
      rcases prepare_error hprepared with hsame | ⟨hkind, made, hgrown, hrest⟩
      · exact .inl hsame
      · -- what has come since, and has been left at the staging path, is not on the way
        refine .inr (.inl ⟨hkind, fun s hs => ?_⟩)
        exact LatestPointer.resolve_extends hrest (LatestPointer.resolve_swept hgrown hs)
    · refine ⟨hexecutor, .inr (.inr ⟨display, l, io, hprepared, rfl, fun hsteady => ?_⟩)⟩
      exact (isKept_of_prepare (t := t) hprepared hsteady).resolve
  · cases h

/-! ### Runs that fail on the way -/

/-- A run without a list, with a pointer to a directory. -/
theorem failed_run_sample :
    ∃ a e, (sample "latest" (sampleFiles [("latest", .link "/tmp")])
        (.all (some ⟨"none.txt"⟩))).logged.run = (a, .error e) ∧
      a.executor.2 = [] ∧ LatestPointer.resolve a.files ⟨"latest"⟩ = .ok ⟨⟨"/tmp"⟩⟩ := by
  have hfails : (sample "latest" (sampleFiles [("latest", .link "/tmp")])
      (.all (some ⟨"none.txt"⟩))).logged.run.2 =
        .error (.cannotOpen ⟨"none.txt"⟩ .noEntry) := by
    decide +kernel
  have hrun := Prod.snd_eq_iff.1 hfails
  obtain ⟨hexecutor, hsame | ⟨⟨p, io, he⟩, -⟩ | ⟨display, l, io, -, he, -⟩⟩ := failed_run hrun
  · refine ⟨_, _, hrun, congrArg Prod.snd hexecutor, ?_⟩
    rw [hsame]
    decide +kernel
  · cases he
  · cases he

/-- A failed run after which the pointer does not lead where it led. -/
def FailsAndChangesPointer (t : Turn σ) : Prop :=
  t.run.2.isOk = false ∧
    LatestPointer.resolve t.run.1.files t.settings.latestResults ≠
      LatestPointer.resolve t.before.files t.settings.latestResults

instance (t : Turn σ) : Decidable t.FailsAndChangesPointer :=
  inferInstanceAs (Decidable (_ ∧ _))

/-- Three such runs: one that could not be announced, one with a pointer to a directory that is made
for the result sets, and one where the way to the pointer goes through what was left at the staging
path. -/
theorem failed_run_changes_pointer :
    let files := sampleFiles [("latest", .link "/work")]
    { sample "latest" files with
        before := { display := { room := some 0 }, files, executor := 0 } }.FailsAndChangesPointer ∧
      { sample "latest" (sampleFiles
          [("latest", .link "/results"), (".latest.1.tmp", .directory [])]) with
        settings := { resultsDir := some ⟨"results"⟩
                      latestResults := ⟨"latest"⟩ } }.FailsAndChangesPointer ∧
      (sample ".latest.1.tmp/latest" (sampleFiles
        [("latest", .link "/work"), (".latest.1.tmp", .link ".")])).FailsAndChangesPointer := by
  decide +kernel

end Foreach.Turn

end Fleet

import Fleet.Proofs.Ledger

namespace Fleet

/-! # Replaying

A run can take those repositories that failed, or that succeeded, in the run before.  If nobody has
touched the result set or the pointer meanwhile, these are exactly the repositories that the run
before has counted, in order (`Passage.processed_of_replays`); so in a chain of such runs the
repositories only ever become fewer (`Foreach.replay`).
-/

/-- How many repositories a summary counts for a bucket. -/
def Bucket.counted (b : Bucket) (s : Summary) : Nat :=
  match b with
  | .successful => s.done
  | .failed => s.errored

namespace Foreach

/-- A run that has ended well: its lists were read as empty when they were made, its pointer is
steady, and its commands have spared the result set and the pointer. -/
structure Passage (settings : Settings) where
  {σ : Type}
  turn : Turn σ
  launch : Launch
  start : Progress σ (List String)
  settings_eq : turn.settings = settings
  setsOut : turn.setOut = (start, .ok launch)
  listsNothing : launch.ListsNothing
  steady : turn.IsSteady launch start.files
  spares : Run.Spares turn.x launch.set settings.latestResults turn.job launch.campaign.repos start

namespace Passage

variable {settings : Settings} {before after : Passage settings} {b : Bucket}

/-- The run when it has taken all repositories. -/
def stop (r : Passage settings) : Progress r.σ (List String) :=
  r.turn.after r.launch r.start r.launch.campaign.repos

def results (r : Passage settings) : List Result :=
  r.turn.resultsOf r.launch r.start r.launch.campaign.repos

/-- The repositories that were taken, in order. -/
def processed (r : Passage settings) : List Repository := r.results.map (·.repo)

/-- The repositories that were counted for a bucket, in order. -/
def kept (r : Passage settings) (b : Bucket) : List Repository := Run.reposWith b.outcome r.results

theorem processed_eq (r : Passage settings) : r.processed = r.launch.campaign.repos :=
  Run.map_repo_results _

theorem nodup_processed (r : Passage settings) : r.processed.Nodup := by
  rw [processed_eq]
  exact (Turn.repos_of_setOut r.setsOut).1

theorem kept_sublist (r : Passage settings) (b : Bucket) : (r.kept b).Sublist r.processed :=
  List.filter_sublist.map _

theorem run_eq (r : Passage settings) : r.turn.run = Turn.finish r.launch r.stop := by
  rw [Turn.run_eq, r.setsOut]
  rfl

/-- The report of a run counts what is kept. -/
theorem length_kept (r : Passage settings) (b : Bucket) :
    (r.kept b).length = b.counted r.stop.summary := by
  have hledger : IsLedger r.launch.set r.turn.settings.latestResults r.results r.stop :=
    Turn.isLedger_after r.setsOut r.listsNothing r.steady List.prefix_rfl
      (by rw [r.settings_eq]; exact r.spares)
  cases b with
  | successful => exact hledger.done.symm
  | failed => exact hledger.errored.symm

/-- A run of those that the run before has kept in a bucket, with nothing changed in between that
belongs to it. -/
structure Replays (b : Bucket) (before after : Passage settings) : Prop where
  selection : after.turn.selection = .previous b
  untouched : Untouched before.launch.set settings.latestResults before.stop.files
    after.turn.before.files

/-- What is taken is what the run before has kept. -/
theorem processed_of_replays (h : Replays b before after) :
    after.processed = before.kept b := by
  have hkept : before.launch.set.IsKept settings.latestResults
      (before.turn.texts before.launch before.start before.launch.campaign.repos)
      before.stop.files := by
    have := Turn.isKept_after before.setsOut before.steady List.prefix_rfl
      (by rw [before.settings_eq]; exact before.spares)
    rwa [before.settings_eq] at this
  -- the pointer still leads to the result set, and its lists are as they were left
  have hkept := hkept.untouched h.untouched
  obtain ⟨⟨display, hprepared⟩, -⟩ := Turn.setOut_ok after.setsOut
  obtain ⟨list, hlaunch⟩ := Turn.prepare_ok hprepared
  have hselected := hlaunch.selected
  rw [h.selection, after.settings_eq] at hselected
  simp only [Selection.resolve, hkept.resolve] at hselected
  obtain rfl : before.launch.set.bucketList b = list := by
    split at hselected
    · cases hselected
    · exact Except.ok.inj (Prod.mk.inj hselected).2
  have hread := (hkept.holds.load_bucketList hkept.placed).1 (Campaign.load_ok hlaunch.loaded)
  have hwritten := Turn.parse_texts before.setsOut before.listsNothing List.prefix_rfl b
  rw [hwritten] at hread
  rw [processed_eq]
  exact (Except.ok.inj hread).symm

/-- A later run takes part of what an earlier one took, in order. -/
def Narrows (earlier later : Passage settings) : Prop :=
  later.processed.Sublist earlier.processed

instance : Trans (@Narrows settings) (@Narrows settings) (@Narrows settings) :=
  ⟨fun hab hbc => hbc.trans hab⟩

theorem narrows_of_replays (h : Replays b before after) : Narrows before after := by
  rw [Narrows, processed_of_replays h]
  exact before.kept_sublist b

end Passage

/-- In a chain of runs of which each takes what the one before has kept in a bucket, a run takes
exactly the repositories that the one before has counted for the bucket, in order.  So what a later
run takes is part of what any earlier run took, in order and without repetition. -/
theorem replay {settings : Settings} {chain : List (Passage settings)}
    (h : chain.IsChain fun before after => ∃ b, Passage.Replays b before after) :
    (chain.IsChain fun before after => ∃ b a report, after.turn.selection = .previous b ∧
      after.processed = before.kept b ∧ before.turn.run = (a, .ok report) ∧
      (before.kept b).length = b.counted report.summary) ∧
      chain.Pairwise Passage.Narrows ∧
      ∀ r ∈ chain, r.processed.Nodup := by
  refine ⟨?_, ?_, fun r _ => r.nodup_processed⟩
  · refine h.imp fun before after hreplays => ?_
    obtain ⟨b, hreplays⟩ := hreplays
    exact ⟨b, _, _, hreplays.selection, Passage.processed_of_replays hreplays, before.run_eq,
      before.length_kept b⟩
  · have hnarrows : chain.IsChain Passage.Narrows := by
      refine h.imp fun before after hreplays => ?_
      obtain ⟨b, hreplays⟩ := hreplays
      exact Passage.narrows_of_replays hreplays
    exact hnarrows.pairwise

/-! ### Two runs of one command -/

theorem Turn.sample_isSteady {files : FileSystem} {selection : Selection} {suffix : Suffix}
    {p : Progress Nat (List String)} {l : Launch}
    (h : (sample "/latest" files selection suffix).setOut = (p, .ok l)) :
    (sample "/latest" files selection suffix).IsSteady l p.files := by
  have hnames : FileSystem.names "/latest" = [] ++ ["latest"] := by decide +kernel
  have hstart : files.start ⟨"/latest"⟩ = [] :=
    ResultSet.start_of_startsAtRoot (by decide +kernel) files
  have hname : FileSystem.IsName "latest" := ⟨by decide, by decide, by decide⟩
  refine isSteady_of_directories h hnames (by simpa using hname) ?_
  exact (congrArg _ (congrArg (· ++ []) hstart)).trans (Entries.item?_nil files.root)

/-- A run of the sample with a pointer in the root directory. -/
def Passage.ofSample {files : FileSystem} {selection : Selection} {suffix : Suffix}
    {p : Progress Nat (List String)} {l : Launch}
    (h : (Turn.sample "/latest" files selection suffix).setOut = (p, .ok l)) :
    Passage { latestResults := ⟨"/latest"⟩ } where
  turn := Turn.sample "/latest" files selection suffix
  launch := l
  start := p
  settings_eq := rfl
  setsOut := h
  listsNothing := (Turn.sample_spec h []).1
  steady := Turn.sample_isSteady h
  spares := (Turn.sample_spec h _).2

theorem replay_sample :
    ∃ chain : List (Passage { latestResults := ⟨"/latest"⟩ }), chain.length = 2 ∧
      (∀ r ∈ chain, r.processed ≠ []) ∧
      (chain.IsChain fun before after => ∃ b, Passage.Replays b before after) ∧
      chain.Pairwise Passage.Narrows := by
  have htest : (Turn.sample "/latest" (Turn.sampleFiles [])).setsOutTo (fun p l =>
      l.campaign.repos ≠ [] ∧
        (Turn.sample "/latest" ((Turn.sample "/latest" (Turn.sampleFiles [])).after l p
          l.campaign.repos).files (.previous .successful) ⟨"b", by decide⟩).setsOutTo
            (fun _ l' => l'.campaign.repos ≠ [])) = true := by
    decide +kernel
  obtain ⟨p, l, hout, htest⟩ := Turn.exists_setOut htest
  obtain ⟨hsome, htest⟩ := of_decide_eq_true htest
  obtain ⟨p', l', hout', htest⟩ := Turn.exists_setOut htest
  have hsome' := of_decide_eq_true htest
  have hreplays : Passage.Replays .successful (.ofSample hout) (.ofSample hout') :=
    ⟨rfl, Untouched.refl _ _ _⟩
  have hchain : [Passage.ofSample hout, Passage.ofSample hout'].IsChain
      fun before after => ∃ b, Passage.Replays b before after := by
    simpa using ⟨_, hreplays⟩
  refine ⟨_, rfl, fun r hr => ?_, hchain, (replay hchain).2.1⟩
  rw [r.processed_eq]
  rcases (by simpa using hr : r = _ ∨ r = _) with rfl | rfl
  · exact hsome
  · exact hsome'

/-- Two runs with a pointer that is not steady: its path goes through the pointer itself, so the
second run is led past the result set of the first, and takes a repository that the first has not
taken. -/
theorem not_replay_of_unsteady :
    let files := Turn.sampleFiles [("sub", .directory []), ("x", .link "sub"),
      ("none.txt", .file "".toUTF8 false),
      ("other", .directory [("failed", .directory [("repos.txt", .file "org/b\n".toUTF8 false)])])]
    let t := Turn.sample "x/../x" (files.place ["tmp", "x"] (.link "/other"))
      (.all (some ⟨"none.txt"⟩))
    ∃ p l, t.setOut = (p, .ok l) ∧ l.ListsNothing ∧
      let t' := Turn.sample "x/../x" (t.after l p l.campaign.repos).files (.previous .failed)
        ⟨"b", by decide⟩
      ∃ p' l', t'.setOut = (p', .ok l') ∧ l'.ListsNothing ∧
        Run.reposWith .failed (t.resultsOf l p l.campaign.repos) = [] ∧
        l'.campaign.repos ≠ [] := by
  intro files t
  have htest : t.setsOutTo (fun p l =>
      Run.reposWith .failed (t.resultsOf l p l.campaign.repos) = [] ∧
        (Turn.sample "x/../x" (t.after l p l.campaign.repos).files (.previous .failed)
          ⟨"b", by decide⟩).setsOutTo (fun _ l' => l'.campaign.repos ≠ [])) = true := by
    decide +kernel
  obtain ⟨p, l, hout, htest⟩ := Turn.exists_setOut htest
  obtain ⟨hnone, htest⟩ := of_decide_eq_true htest
  obtain ⟨p', l', hout', htest⟩ := Turn.exists_setOut htest
  exact ⟨p, l, hout, (Turn.sample_spec hout []).1, p', l', hout', (Turn.sample_spec hout' []).1,
    hnone, of_decide_eq_true htest⟩

end Foreach

end Fleet

import Fleet.Commit
import Fleet.Proofs.Exchanges
import Fleet.Proofs.Text.Lines

namespace Fleet

/-! # What `git` is asked to do in a commit

In a working copy that is there, `git` is asked whether anything has changed, and if its answer is
not blank it is asked, once, to commit (`Workshop.CommitExchanges`).  Where there is no working copy
it is asked nothing.

`Workshop.commit_exchanges` says so of every turn of a commit, each in the state that the turns
before it have left.
-/

namespace Git

/-- The request that tells what has changed in a working copy. -/
def statusRequest (root : Path) (repo : Repository) : Request :=
  ⟨root / repo.org / repo.name, "git", ["status", "--porcelain"]⟩

/-- The request that commits what has changed in a working copy. -/
def commitRequest (root : Path) (message : String) (repo : Repository) : Request :=
  ⟨root / repo.org / repo.name, "git", ["commit", "--all", "--message", message]⟩

/-- There is something in a text that is not white space. -/
def SaysSomething (text : String) : Prop := ∃ c ∈ text.toList, Text.isBlank c = false

/-- Looking at the lines one by one is looking at the text. -/
theorem tellsChange_iff {status : String} : tellsChange status = true ↔ SaysSomething status := by
  have hlines := Text.all_allBlank_lines status.toList
  have htells : tellsChange status = !Text.allBlank status.toList := by
    rw [tellsChange, ← hlines, List.not_all_eq_any_not]
  rw [htells, Text.allBlank, List.not_all_eq_any_not]
  simp [SaysSomething]

end Git

namespace Workshop

open Git

/-! ## One turn -/

/-- The exchanges of a repository at its turn in a commit and what it counts as, by the files that
it finds and the answers that it gets. -/
inductive CommitExchanges (root : Path) (message : String) (fs : FileSystem) (repo : Repository) :
    List Exchange → Outcome → Prop where
  /-- there is no working copy -/
  | absent (habsent : fs.isPresent (repo.workDir root) = false) :
      CommitExchanges root message fs repo [] .skipped
  | unknown {e} (hthere : fs.isPresent (repo.workDir root) = true) :
      CommitExchanges root message fs repo [.captured (statusRequest root repo) (.error e)] .failed
  /-- nothing has changed -/
  | clean {status} (hthere : fs.isPresent (repo.workDir root) = true)
      (hclean : ¬SaysSomething status) :
      CommitExchanges root message fs repo [.captured (statusRequest root repo) (.ok status)]
        .skipped
  | notCommitted {status e} (hthere : fs.isPresent (repo.workDir root) = true)
      (hchanged : SaysSomething status) :
      CommitExchanges root message fs repo
        [.captured (statusRequest root repo) (.ok status),
          .executed (commitRequest root message repo) (.error e)] .failed
  | committed {status} (hthere : fs.isPresent (repo.workDir root) = true)
      (hchanged : SaysSomething status) :
      CommitExchanges root message fs repo
        [.captured (statusRequest root repo) (.ok status),
          .executed (commitRequest root message repo) (.ok ())] .succeeded

namespace CommitExchanges

variable {root : Path} {message : String} {fs : FileSystem} {repo : Repository}
  {made : List Exchange} {outcome : Outcome}

theorem eq_nil_iff (h : CommitExchanges root message fs repo made outcome) :
    made = [] ↔ fs.isPresent (repo.workDir root) = false := by
  cases h with
  | absent habsent => simp [habsent]
  | unknown hthere | clean hthere | notCommitted hthere | committed hthere => simp [hthere]

theorem skipped_iff (h : CommitExchanges root message fs repo made outcome) :
    outcome = .skipped ↔ made = [] ∨
      ∃ status, made = [.captured (statusRequest root repo) (.ok status)] := by
  cases h <;> simp

theorem succeeded_iff (h : CommitExchanges root message fs repo made outcome) :
    outcome = .succeeded ↔ ∃ status, made = [.captured (statusRequest root repo) (.ok status),
      .executed (commitRequest root message repo) (.ok ())] := by
  cases h <;> simp

end CommitExchanges

variable {σ : Type} (x : Executor σ) (root : Path) (message : String)

/-- Asking for changes is one exchange, and its answer tells whether there are any. -/
theorem isChanged_exchanges (repo : Repository) (w : Workshop σ) :
    ∃ answer w', Act.Exchanges (isChanged x.witnessed (repo.workDir root))
        (isChanged x (repo.workDir root)) w [.captured (statusRequest root repo) answer] ∧
      isChanged x (repo.workDir root) w = (w', answer.map tellsChange) := by
  rw [isChanged_eq, isChanged_eq]
  exact ⟨_, _, (Act.Exchanges.capture x (statusRequest root repo) w).andThen rfl (.done _), rfl⟩

/-- The exchanges of a turn are those of one of the ways that it can take. -/
theorem commitOne_exchanges (repo : Repository) (w : Workshop σ) :
    ∃ made, Act.Exchanges (commitOne x.witnessed root message · repo)
        (commitOne x root message · repo) w made ∧
      CommitExchanges root message w.files repo made (commitOne x root message w repo).2 := by
  rw [show commitOne x root message w repo = _ from congrFun (commitOne_eq x root message repo) w,
    commitOne_eq, commitOne_eq, Act.choose_eq]
  cases hthere : w.files.isPresent (repo.workDir root) with
  | false => exact ⟨[], .choose_of_not hthere (.tell _ _), .absent hthere⟩
  | true =>
    obtain ⟨answer, w', hask, hchanged⟩ :=
      isChanged_exchanges x root repo (w.say (Run.heading repo))
    rw [if_pos rfl, Act.andThen_tell, Act.andThen_of_eq hchanged]
    rcases answer with e | status
    · exact ⟨_, .choose_of_holds hthere (.afterTell (hask.andThen hchanged (.tell _ _))),
        .unknown hthere⟩
    · cases hsays : tellsChange status with
      | false =>
        rw [Except.map, hsays] at hchanged
        have hclean : ¬SaysSomething status := by simp [← tellsChange_iff, hsays]
        rw [Except.map, hsays]
        exact ⟨_, .choose_of_holds hthere (.afterTell (hask.andThen hchanged (.tell _ _))),
          .clean hthere hclean⟩
      | true =>
        rw [Except.map, hsays] at hchanged
        have hsomething := tellsChange_iff.1 hsays
        let w'' := w'.say ("Committing changes in " ++ repo.fullName)
        have hcommit : Act.Exchanges (Git.commitAll x.witnessed (repo.workDir root) message)
            (Git.commitAll x (repo.workDir root) message) w''
            [.executed (commitRequest root message repo)
              (Git.commitAll x (repo.workDir root) message w'').2] :=
          .execute x (commitRequest root message repo) w''
        refine ⟨_, .choose_of_holds hthere (.afterTell (hask.andThen hchanged
          (.afterTell (hcommit.finish _)))), ?_⟩
        simp only [Except.map, hsays, Act.andThen_tell, Act.finish_snd]
        rcases (Git.commitAll x (repo.workDir root) message w'').2 with e | ⟨⟨⟩⟩
        · exact .notCommitted hthere hsomething
        · exact .committed hthere hsomething

/-! ## All turns -/

/-- A commit takes the repositories one after the other, and each turn goes one of the ways of
`CommitExchanges`, by the files that the turns before it have left and the answers of `git`.  What
the executor is asked to do in a commit are the exchanges of the turns, in order, and no others.

So `git` is asked nothing exactly where there is no working copy, and a repository counts as done
exactly if `git` told of a change and was then asked once to commit, which it did. -/
theorem commit_exchanges (repos : List Repository) (display : Sink) (files : FileSystem)
    (state : σ) :
    let start : Workshop σ := { display, files, executor := state }
    let before (k : Nat) := commit x (repos.take k) root message start
    let stop := commit x repos root message start
    ∃ turns : List Turn, turns.length = repos.length ∧
      commit x.witnessed repos root message (start.withHistory []) =
        stop.withHistory (exchangesOf turns).reverse ∧
      stop.summary = tally turns ∧
      stop.summary.done + stop.summary.skipped + stop.summary.errored = repos.length ∧
      ∀ k (hk : k < repos.length) (ht : k < turns.length),
        CommitExchanges root message (before k).files repos[k] turns[k].exchanges
            turns[k].outcome ∧
          (before (k + 1)).summary = (before k).summary.add turns[k].outcome ∧
          (turns[k].exchanges = [] ↔
            (before k).files.isPresent (repos[k].workDir root) = false) ∧
          (turns[k].outcome = .skipped ↔ turns[k].exchanges = [] ∨
            ∃ status, turns[k].exchanges =
                [.captured (statusRequest root repos[k]) (.ok status)]) ∧
          (turns[k].outcome = .succeeded ↔ ∃ status, turns[k].exchanges =
            [.captured (statusRequest root repos[k]) (.ok status),
              .executed (commitRequest root message repos[k]) (.ok ())]) := by
  intro start before stop
  obtain ⟨turns, hlength, hhistory, hsummary, htotal, hturns⟩ :=
    turns_of_start (commitOne_exchanges x root message) repos (w := start) rfl
  have hsummary : stop.summary = tally turns := hsummary
  refine ⟨turns, hlength, hhistory, hsummary, hsummary ▸ htotal, fun k hk ht => ?_⟩
  obtain ⟨hcourse, hcounted⟩ := hturns k hk ht
  exact ⟨hcourse, hcounted, hcourse.eq_nil_iff, hcourse.skipped_iff, hcourse.succeeded_iff⟩

end Workshop

end Fleet

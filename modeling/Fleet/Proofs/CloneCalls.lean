import Fleet.Proofs.Exchanges

namespace Fleet

/-! # What `git` is asked to do in a clone

What a repository finds at its turn and what `git` answers tell which commands are run for it and
what it counts as (`Workshop.CloneExchanges`): none if its working copy is there, none if there is
no place for it, else one that clones it, and behind that one which makes the branch, if the clone
has succeeded and `git` would not take the name of the branch for an option.

`Workshop.clone_exchanges` says so of every turn of a clone, each in the state that the turns before
it have left.
-/

namespace Git

/-- The arguments that `git` takes for options: those in front of `--` that begin with a hyphen. -/
def options (args : List String) : List String :=
  (args.takeWhile (· ≠ "--")).filter (·.toList.head? = some '-')

/-- The working copy that a command makes or runs in. -/
def target (request : Request) : Path :=
  match request.args with
  | ["clone", _, _, name] => request.dir / name
  | _ => request.dir

/-- `git` would take the name of a branch for an option, or there is none. -/
def NoBranchName (branch : String) : Prop := branch = "" ∨ branch.toList.head? = some '-'

theorem isBadBranch_iff {branch : String} : isBadBranch branch = true ↔ NoBranchName branch := by
  simp [isBadBranch, NoBranchName]

/-- The request that clones a repository into its place. -/
def cloneRequest (root : Path) (host : String) (repo : Repository) : Request :=
  ⟨root / repo.org, "git",
    ["clone", "--",
      "https://" ++ repo.host.getD host ++ "/" ++ repo.org ++ "/" ++ repo.name ++ ".git",
      repo.name]⟩

/-- The request that makes a branch in a working copy. -/
def branchRequest (root : Path) (branch : String) (repo : Repository) : Request :=
  ⟨root / repo.org / repo.name, "git", ["checkout", "-b", branch]⟩

theorem options_cloneRequest (root : Path) (host : String) (repo : Repository) :
    options (cloneRequest root host repo).args = [] := by
  simp [options, cloneRequest]

theorem options_branchRequest (root : Path) {branch : String} (repo : Repository)
    (h : ¬NoBranchName branch) : options (branchRequest root branch repo).args = ["-b"] := by
  have hname : branch.toList.head? ≠ some '-' := fun hdash => h (.inr hdash)
  have hdashes : branch ≠ "--" := by
    rintro rfl
    exact hname rfl
  simp [options, branchRequest, hdashes, hname]

end Git

namespace Workshop

open Git

/-! ## One turn -/

/-- The exchanges of a repository at its turn in a clone and what it counts as, by the files that it
finds and the answers that it gets. -/
inductive CloneExchanges (campaign : String) (root : Path) (host : String) (fs : FileSystem)
    (repo : Repository) : List Exchange → Outcome → Prop where
  /-- the working copy is there -/
  | present (hthere : fs.isPresent (repo.workDir root) = true) :
      CloneExchanges campaign root host fs repo [] .skipped
  /-- the directory of the organisation cannot be made -/
  | noPlace {files e} (habsent : fs.isPresent (repo.workDir root) = false)
      (hplace : fs.makeDirectories (root / repo.org) = (files, .error e)) :
      CloneExchanges campaign root host fs repo [] .failed
  | notCloned {files e} (habsent : fs.isPresent (repo.workDir root) = false)
      (hplace : fs.makeDirectories (root / repo.org) = (files, .ok ())) :
      CloneExchanges campaign root host fs repo
        [.executed (cloneRequest root host repo) (.error e)] .failed
  /-- it is cloned, but its branch has no name that could be given to `git` -/
  | noName {files} (habsent : fs.isPresent (repo.workDir root) = false)
      (hplace : fs.makeDirectories (root / repo.org) = (files, .ok ()))
      (hname : NoBranchName campaign) :
      CloneExchanges campaign root host fs repo
        [.executed (cloneRequest root host repo) (.ok ())] .failed
  | noBranch {files e} (habsent : fs.isPresent (repo.workDir root) = false)
      (hplace : fs.makeDirectories (root / repo.org) = (files, .ok ()))
      (hname : ¬NoBranchName campaign) :
      CloneExchanges campaign root host fs repo
        [.executed (cloneRequest root host repo) (.ok ()),
          .executed (branchRequest root campaign repo) (.error e)] .failed
  | cloned {files} (habsent : fs.isPresent (repo.workDir root) = false)
      (hplace : fs.makeDirectories (root / repo.org) = (files, .ok ()))
      (hname : ¬NoBranchName campaign) :
      CloneExchanges campaign root host fs repo
        [.executed (cloneRequest root host repo) (.ok ()),
          .executed (branchRequest root campaign repo) (.ok ())] .succeeded

namespace CloneExchanges

variable {campaign : String} {root : Path} {host : String} {fs : FileSystem} {repo : Repository}
  {made : List Exchange} {outcome : Outcome}

theorem skipped_iff (h : CloneExchanges campaign root host fs repo made outcome) :
    outcome = .skipped ↔ fs.isPresent (repo.workDir root) = true := by
  cases h with
  | present hthere => simp [hthere]
  | noPlace habsent | notCloned habsent | noName habsent | noBranch habsent | cloned habsent =>
    simp [habsent]

theorem succeeded_iff (h : CloneExchanges campaign root host fs repo made outcome) :
    outcome = .succeeded ↔ made = [.executed (cloneRequest root host repo) (.ok ()),
      .executed (branchRequest root campaign repo) (.ok ())] := by
  cases h <;> simp

/-- No command makes a working copy that was there at its turn or runs in one, and nothing but what
is an option here is an option to `git`. -/
theorem target_options (h : CloneExchanges campaign root host fs repo made outcome)
    {e : Exchange} (he : e ∈ made) :
    fs.isPresent (target e.request) = false ∧
      (options e.request.args = [] ∨ options e.request.args = ["-b"]) := by
  have hclone := options_cloneRequest root host repo
  cases h with
  | present _ | noPlace _ _ => cases he
  | notCloned habsent | noName habsent =>
    obtain rfl := List.mem_singleton.1 he
    exact ⟨habsent, .inl hclone⟩
  | noBranch habsent _ hname | cloned habsent _ hname =>
    have hbranch := options_branchRequest root repo hname
    rcases List.mem_pair.1 he with rfl | rfl
    · exact ⟨habsent, .inl hclone⟩
    · exact ⟨habsent, .inr hbranch⟩

end CloneExchanges

variable {σ : Type} (x : Executor σ) (campaign : String) (root : Path) (host : String)

/-- Where a branch is to be made, `git` is asked to if it has a name. -/
theorem checkoutNew_exchanges (repo : Repository) (w : Workshop σ) :
    ∃ made, Act.Exchanges (checkoutNew x.witnessed (repo.workDir root) campaign)
        (checkoutNew x (repo.workDir root) campaign) w made ∧
      ((NoBranchName campaign ∧ made = [] ∧
          ∃ e, (checkoutNew x (repo.workDir root) campaign w).2 = .error e) ∨
        (¬NoBranchName campaign ∧ made = [.executed (branchRequest root campaign repo)
          (checkoutNew x (repo.workDir root) campaign w).2])) := by
  rw [checkoutNew_eq, checkoutNew_eq, ← isBadBranch_iff]
  split
  · next hname => exact ⟨[], .done _, .inl ⟨hname, rfl, _, rfl⟩⟩
  · next hname => exact ⟨_, .execute x (branchRequest root campaign repo) w, .inr ⟨hname, rfl⟩⟩

/-- Once there is a place, the commands are run one after the other, up to the first that fails. -/
theorem cloneAndBranch_exchanges {fs files : FileSystem} {repo : Repository}
    (habsent : fs.isPresent (repo.workDir root) = false)
    (hplace : fs.makeDirectories (root / repo.org) = (files, .ok ())) (w : Workshop σ) :
    ∃ made, Act.Exchanges (cloneAndBranch x.witnessed campaign root host repo)
        (cloneAndBranch x campaign root host repo) w made ∧
      CloneExchanges campaign root host fs repo made
        (.ofAnswer (cloneAndBranch x campaign root host repo w).2) := by
  rw [cloneAndBranch_eq, cloneAndBranch_eq]
  have hclone : Act.Exchanges
      (Git.clone x.witnessed (root / repo.org) (repo.cloneUrl host) repo.name)
      (Git.clone x (root / repo.org) (repo.cloneUrl host) repo.name) w
      [.executed (cloneRequest root host repo)
        (Git.clone x (root / repo.org) (repo.cloneUrl host) repo.name w).2] :=
    .execute x (cloneRequest root host repo) w
  rcases hcloned : Git.clone x (root / repo.org) (repo.cloneUrl host) repo.name w with
    ⟨w', e | ⟨⟨⟩⟩⟩
  · rw [hcloned] at hclone
    refine ⟨_, hclone.andThen hcloned (.done _), ?_⟩
    rw [Act.andThen_of_eq hcloned]
    exact .notCloned habsent hplace
  · rw [hcloned] at hclone
    obtain ⟨made, hmade, hbranch⟩ := checkoutNew_exchanges x campaign root repo w'
    refine ⟨_, hclone.andThen hcloned hmade, ?_⟩
    rw [Act.andThen_of_eq hcloned]
    rcases hbranch with ⟨hname, rfl, e, herror⟩ | ⟨hname, rfl⟩
    · rw [herror]
      exact .noName habsent hplace hname
    · rcases (checkoutNew x (repo.workDir root) campaign w').2 with e | ⟨⟨⟩⟩
      · exact .noBranch habsent hplace hname
      · exact .cloned habsent hplace hname

/-- The exchanges of a turn are those of one of the ways that it can take. -/
theorem cloneOne_exchanges (repo : Repository) (w : Workshop σ) :
    ∃ made, Act.Exchanges (cloneOne x.witnessed campaign root host · repo)
        (cloneOne x campaign root host · repo) w made ∧
      CloneExchanges campaign root host w.files repo made
        (cloneOne x campaign root host w repo).2 := by
  rw [show cloneOne x campaign root host w repo = _ from
    congrFun (cloneOne_eq x campaign root host repo) w, cloneOne_eq, cloneOne_eq, Act.choose_eq]
  cases hthere : w.files.isPresent (repo.workDir root) with
  | true => exact ⟨[], .choose_of_holds hthere (.tell _ _), .present hthere⟩
  | false =>
    rw [if_neg (by simp), Act.andThen_tell]
    -- the place is made before a command is run
    rcases hplace : w.files.makeDirectories (root / repo.org) with ⟨files, made⟩
    have hchange : Act.change (·.makeDirectories (root / repo.org))
        (w.say ("== Cloning " ++ repo.fullName ++ " into " ++ (repo.workDir root).text ++ " =>")) =
          (w.ready root repo files, made) := by
      rw [Act.change, say_files, hplace]
      rfl
    rw [Act.andThen_of_eq hchange]
    rcases made with e | ⟨⟨⟩⟩
    · exact ⟨[], .choose_of_not hthere (.afterTell ((Act.Exchanges.change _).andThen hchange
        (.tell _ _))), .noPlace hthere hplace⟩
    · obtain ⟨made, hmade, hcourse⟩ := cloneAndBranch_exchanges x campaign root host hthere hplace
        (w.ready root repo files)
      refine ⟨made, .choose_of_not hthere (.afterTell ((Act.Exchanges.change _).andThen
        hchange (hmade.finish _))), ?_⟩
      rw [Act.finish_snd]
      exact hcourse

/-! ## All turns -/

/-- A clone takes the repositories one after the other, and each turn goes one of the ways of
`CloneExchanges`, by the files that the turns before it have left and the answers of `git`.  What
the executor is asked to do in a clone are the exchanges of the turns, in order, and no others.

So a repository is skipped exactly if its working copy is there at its turn, and counts as done
exactly if both commands were run and succeeded.  No command makes a working copy that was there at
its turn or runs in one, and `git` is given no options but its own `-b`. -/
theorem clone_exchanges (repos : List Repository) (display : Sink) (files : FileSystem)
    (state : σ) :
    let start : Workshop σ := { display, files, executor := state }
    let before (k : Nat) := clone x campaign (repos.take k) root host start
    let stop := clone x campaign repos root host start
    ∃ turns : List Turn, turns.length = repos.length ∧
      clone x.witnessed campaign repos root host (start.withHistory []) =
        stop.withHistory (exchangesOf turns).reverse ∧
      stop.summary = tally turns ∧
      stop.summary.done + stop.summary.skipped + stop.summary.errored = repos.length ∧
      ∀ k (hk : k < repos.length) (ht : k < turns.length),
        CloneExchanges campaign root host (before k).files repos[k] turns[k].exchanges
            turns[k].outcome ∧
          (before (k + 1)).summary = (before k).summary.add turns[k].outcome ∧
          (turns[k].outcome = .skipped ↔
            (before k).files.isPresent (repos[k].workDir root) = true) ∧
          (turns[k].outcome = .succeeded ↔ turns[k].exchanges =
            [.executed (cloneRequest root host repos[k]) (.ok ()),
              .executed (branchRequest root campaign repos[k]) (.ok ())]) ∧
          ∀ e ∈ turns[k].exchanges, (before k).files.isPresent (target e.request) = false ∧
            (options e.request.args = [] ∨ options e.request.args = ["-b"]) := by
  intro start before stop
  obtain ⟨turns, hlength, hhistory, hsummary, htotal, hturns⟩ :=
    turns_of_start (cloneOne_exchanges x campaign root host) repos (w := start) rfl
  have hsummary : stop.summary = tally turns := hsummary
  refine ⟨turns, hlength, hhistory, hsummary, hsummary ▸ htotal, fun k hk ht => ?_⟩
  obtain ⟨hcourse, hcounted⟩ := hturns k hk ht
  exact ⟨hcourse, hcounted, hcourse.skipped_iff, hcourse.succeeded_iff,
    fun e he => hcourse.target_options he⟩

end Workshop

end Fleet

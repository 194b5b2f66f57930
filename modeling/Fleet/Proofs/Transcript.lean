import Fleet.Proofs.Turns

namespace Fleet

/-! # What a run shows and what it keeps

A display that takes everything shows one block for each repository, in the order of the list
(`Run.Block`): a notice for one without a working copy, and else a heading and behind it all that
goes to the log.  Nothing stands between the blocks, and a log holds nothing of another block
(`Run.display_is_blocks`).
-/

namespace Sink

variable {sink : Sink}

/-- A display without an end takes a line as it is. -/
theorem sayLine_of_endless (h : sink.room = none) (line : String) :
    (sink.sayLine line).room = none ∧
      (sink.sayLine line).received.toList = sink.received.toList ++ Text.encode (line ++ "\n") := by
  simp [sayLine, say, write, h]

end Sink

namespace Talk

variable {α : Type}

/-- A display without an end that a copy is passed on to takes all that the copy takes. -/
theorem teed_of_endless (talk : Talk α) {tee : Tee} (h : tee.sink.room = none) :
    (talk.teed tee).2.sink.room = none ∧
      (talk.teed tee).2.sink.received.toList = tee.sink.received.toList ++ talk.said := by
  induction talk generalizing tee with
  | done a => simp [teed, said, h]
  | say bytes next ih =>
    have htaken : (tee.say bytes).sink.room = none ∧
        (tee.say bytes).sink.received.toList = tee.sink.received.toList ++ bytes := by
      simp [Tee.say, Sink.say, Sink.write, h]
    obtain ⟨hroom, hreceived⟩ := ih (.ok ()) htaken.1
    exact ⟨hroom, by rw [teed, hreceived, htaken.2, said, List.append_assoc]⟩
  | flush next ih => exact ih (.ok ()) h

end Talk

namespace Run

variable {σ ρ : Type} {x : Executor σ} {r : Recorder ρ} {job : Job} {repo : Repository}
  {p : Progress σ ρ}

/-- What goes to the log of a repository in whose working copy the command is run: what the executor
writes, and if it fails the line about that. -/
def transcript (x : Executor σ) (job : Job) (repo : Repository) (p : Progress σ ρ) : List UInt8 :=
  let talk := x.execute (request job repo) p.executor p.files
  talk.said ++ match talk.heard.1 with
    | .ok () => []
    | .error e =>
      Text.encode ("Error when executing command in " ++ repo.fullName ++ ": " ++ e.message ++ "\n")

/-- What is shown of a repository at its turn, and what comes of it.  Every line is spelled out
here. -/
inductive Block (x : Executor σ) (job : Job) (repo : Repository) (p : Progress σ ρ) :
    List UInt8 → Result → Prop where
  /-- There is no working copy: a line says so, and the log is empty. -/
  | notice (habsent : p.files.isPresent (repo.workDir job.workRoot) = false) :
      Block x job repo p
        (Text.encode ("Not running against " ++ repo.fullName ++ " as the directory " ++
          (repo.workDir job.workRoot).text ++ " does not exist - has it been cloned?\n"))
        ⟨repo, .skipped, ""⟩
  /-- The command is run: behind the heading stands what goes to the log, byte by byte. -/
  | ran (hthere : p.files.isPresent (repo.workDir job.workRoot) = true) :
      Block x job repo p
        (Text.encode ("== " ++ repo.fullName ++ " =>\n") ++ transcript x job repo p)
        ⟨repo, .ofAnswer (x.execute (request job repo) p.executor p.files).heard.1,
          String.ofList (Text.decodeLossy (transcript x job repo p))⟩

/-! ## One repository -/

/-- The line in front of what is done in a repository. -/
theorem heading_line (repo : Repository) :
    heading repo ++ "\n" = "== " ++ repo.fullName ++ " =>\n" := by
  simp [heading, String.append_assoc]

/-- The line about a repository without a working copy. -/
theorem absence_line (repo : Repository) (dir : Path) :
    absence "Not running against " repo dir ++ "\n" =
      "Not running against " ++ repo.fullName ++ " as the directory " ++ dir.text ++
        " does not exist - has it been cloned?\n" := by
  simp [absence, String.append_assoc]

/-- The log ends with the line about the error, if there was one. -/
theorem transcript_eq (x : Executor σ) (job : Job) (repo : Repository) (p : Progress σ ρ) :
    transcript x job repo p = (x.execute (request job repo) p.executor p.files).said ++
      match (x.execute (request job repo) p.executor p.files).heard.1 with
      | .ok () => []
      | .error e => Text.encode (complaint repo e ++ "\n") := rfl

theorem resultOf_transcript (x : Executor σ) (job : Job) (repo : Repository) (p : Progress σ ρ) :
    let talk := x.execute (request job repo) p.executor p.files
    resultOf repo talk.said talk.heard.1 = ⟨repo, .ofAnswer talk.heard.1,
      String.ofList (Text.decodeLossy (transcript x job repo p))⟩ := by
  intro talk
  rw [transcript_eq]
  cases talk.heard.1 with
  | ok _ => simp [resultOf, Outcome.ofAnswer, talk]
  | error e => simp [resultOf, Outcome.ofAnswer, talk]

/-- A display without an end shows the heading and all that goes to the log. -/
theorem execute_display (h : p.display.room = none) :
    (execute x job repo p).2.display.room = none ∧
      (execute x job repo p).2.display.received.toList = p.display.received.toList ++
        (Text.encode ("== " ++ repo.fullName ++ " =>\n") ++ transcript x job repo p) := by
  obtain ⟨hroom, hheaded⟩ := Sink.sayLine_of_endless h (heading repo)
  rw [heading_line] at hheaded
  have htaken := Talk.teed_of_endless (x.execute (request job repo) p.executor p.files)
    (show ({ sink := p.display.sayLine (heading repo) } : Talk.Tee).sink.room = none from hroom)
  have hheard := Talk.teed_fst (x.execute (request job repo) p.executor p.files)
    { sink := p.display.sayLine (heading repo) }
  rcases htold : (x.execute (request job repo) p.executor p.files).teed
    { sink := p.display.sayLine (heading repo) } with ⟨⟨answer, executor, files⟩, tee⟩
  rw [htold] at htaken hheard
  obtain ⟨hroom', hreceived⟩ := htaken
  simp only at hroom' hreceived
  simp only [transcript_eq, ← hheard]
  rw [request] at htold
  simp only [execute, htold]
  cases answer with
  | ok _ => exact ⟨hroom', by simp [hreceived, hheaded, request]⟩
  | error e => simp [Talk.Tee.say, Sink.say, Sink.write, hroom', hreceived, hheaded, request]

/-- A step of a run shows the block of its repository behind what has been shown. -/
theorem block_step (x : Executor σ) (r : Recorder ρ) (job : Job) (repo : Repository)
    {p : Progress σ ρ} (h : p.display.room = none) :
    ∃ block, Block x job repo p block (visit x job repo p).1 ∧
      (step x r job p repo).display.room = none ∧
      (step x r job p repo).display.received.toList = p.display.received.toList ++ block := by
  have hshown : (step x r job p repo).display = (visit x job repo p).2.display := rfl
  rw [hshown]
  cases hthere : p.files.isPresent (repo.workDir job.workRoot) with
  | false =>
    rw [visit_of_absent x hthere]
    have htaken := Sink.sayLine_of_endless h
      (absence "Not running against " repo (repo.workDir job.workRoot))
    rw [absence_line] at htaken
    exact ⟨_, .notice hthere, htaken⟩
  | true =>
    rw [visit_of_present x hthere, (execute_result x job repo p).1, resultOf_transcript]
    exact ⟨_, .ran hthere, execute_display h⟩

/-! ## All repositories -/

/-- A run shows one block for each of its results, one behind the other. -/
theorem blocks_run (x : Executor σ) (r : Recorder ρ) (job : Job) (repos : List Repository)
    {p : Progress σ ρ} (h : p.display.room = none) :
    ∃ blocks : List (List UInt8), blocks.length = repos.length ∧
      (run x r job repos p).display.received.toList =
        p.display.received.toList ++ blocks.flatten ∧
      ∀ k (hk : k < repos.length) (hb : k < blocks.length)
        (hr : k < (results x r job repos p).length),
        Block x job repos[k] (run x r job (repos.take k) p) blocks[k]
          (results x r job repos p)[k] := by
  induction repos generalizing p with
  | nil => exact ⟨[], rfl, by simp, by simp⟩
  | cons repo rest ih =>
    obtain ⟨block, hblock, hroom, hshown⟩ := block_step x r job repo h
    obtain ⟨blocks, hlength, hreceived, hblocks⟩ := ih hroom
    refine ⟨block :: blocks, by simp [hlength], ?_, ?_⟩
    · rw [run_cons, hreceived, hshown, List.flatten_cons, List.append_assoc]
    · intro k hk hb hr
      cases k with
      | zero => exact hblock
      | succ k =>
        simpa [results] using hblocks k (by simpa using hk) (by simpa using hb)
          (by simpa [results] using hr)

/-- On a display that takes everything, a run shows one block for each repository, in order, and
nothing else.  The block of a repository that is skipped is a notice, and its log is empty; any
other block is a heading and then the bytes that the executor wrote, with a line about the error if
there was one, and the log is the text of these bytes. -/
theorem display_is_blocks (x : Executor σ) (r : Recorder ρ) (job : Job) (repos : List Repository)
    (files : FileSystem) (state : σ) (kept : ρ) (shown : Array UInt8) (stuck : Bool) :
    let start : Progress σ (ρ × List Result) :=
      { display := { received := shown, stuck }, files, executor := state, records := (kept, []) }
    let before (k : Nat) := run x r.logged job (repos.take k) start
    let stop := run x r.logged job repos start
    let results := stop.records.2.reverse
    ∃ blocks : List (List UInt8),
      blocks.length = repos.length ∧ results.length = repos.length ∧
      stop.display.received.toList = shown.toList ++ blocks.flatten ∧
      ∀ k (hk : k < repos.length) (hb : k < blocks.length) (hr : k < results.length),
        Block x job repos[k] (before k) blocks[k] results[k] := by
  intro start before stop results
  have hrecords := records_run x r job repos start
  have hresults : results = Run.results x r.logged job repos start := by
    simpa [start, results, stop] using congrArg List.reverse hrecords
  obtain ⟨blocks, hlength, hreceived, hblocks⟩ :=
    blocks_run x r.logged job repos (p := start) rfl
  rw [hresults]
  exact ⟨blocks, hlength, length_results repos, hreceived, hblocks⟩

end Run

end Fleet

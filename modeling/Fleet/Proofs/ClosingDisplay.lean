import Fleet.Proofs.Room

namespace Fleet

/-! # A display that closes while a process runs

What a computation does on a display of any kind is one of the ways in which it can go, by what
becomes of each of its writes (`Talk.Goes`, `Talk.goes_on`).

The executor of processes attends to a command (`ChildProcess.attended`): it receives every line and
writes it while the display is open, and keeps account of what it starts and receives.  There are two
ways in which that can go (`ChildProcess.Fares`).  Either the announcement is not taken and nothing is started, or the command
is started once, all of its lines are received, and it comes to the same, however many of them are
written.
-/

/-! ## Displays of any kind -/

/-- A write, and what became of it. -/
abbrev Write := List UInt8 × Except IoError Unit

/-- A display answers writes that follow one another as it is told. -/
def Sink.Answers (d : Sink) : List Write → Prop
  | [] => True
  | (bytes, taken) :: rest => (d.write bytes).2 = taken ∧ (d.write bytes).1.Answers rest

namespace Talk

variable {α β γ : Type}

/-- A way in which a computation can go: its writes, and what it comes to. -/
inductive Goes : Talk α → List Write → α → Prop where
  | done (a : α) : Goes (.done a) [] a
  | say {bytes next taken writes a} (h : Goes (next taken) writes a) :
      Goes (.say bytes next) ((bytes, taken) :: writes) a
  | flush {next answer writes a} (h : Goes (next answer) writes a) : Goes (.flush next) writes a

/-- Every display makes a computation go one of its ways. -/
theorem goes_on (talk : Talk α) (d : Sink) :
    ∃ writes, talk.Goes writes (talk.on d).1 ∧ d.Answers writes := by
  induction talk generalizing d with
  | done a => exact ⟨[], .done a, trivial⟩
  | say bytes next ih =>
    obtain ⟨writes, hgoes, hanswers⟩ := ih (d.write bytes).2 (d.write bytes).1
    exact ⟨_ :: writes, .say hgoes, rfl, hanswers⟩
  | flush next ih =>
    obtain ⟨writes, hgoes, hanswers⟩ := ih d.flush d
    exact ⟨writes, .flush hgoes, hanswers⟩

/-- What is done in two parts goes a way of the first and then one of the second. -/
theorem Goes.of_bind {talk : Talk α} {f : α → Talk β} {writes : List Write} {b : β}
    (h : (talk >>= f).Goes writes b) :
    ∃ a first later, talk.Goes first a ∧ (f a).Goes later b ∧ writes = first ++ later := by
  induction talk generalizing writes with
  | done a => exact ⟨a, [], writes, .done a, h, rfl⟩
  | say bytes next ih =>
    cases h with
    | say hrest =>
      obtain ⟨a, first, later, hfirst, hlater, rfl⟩ := ih _ hrest
      exact ⟨a, _ :: first, later, .say hfirst, hlater, rfl⟩
  | flush next ih =>
    cases h with
    | flush hrest =>
      obtain ⟨a, first, later, hfirst, hlater, rfl⟩ := ih _ hrest
      exact ⟨a, first, later, .flush hfirst, hlater, rfl⟩

/-! ## Displays with an end -/

/-- A display that is full takes nothing more. -/
theorem on_received_of_full (talk : Talk α) {d : Sink} (h : d.room = some 0) :
    (talk.on d).2.received = d.received := by
  induction talk generalizing d with
  | done a => rfl
  | say bytes next ih =>
    have hroom : (d.write bytes).1.room = some 0 := by simp [Sink.write_room, h]
    have hreceived : (d.write bytes).1.received = d.received := by
      cases bytes <;> simp [Sink.write, h]
    rw [on, ih _ hroom, hreceived]
  | flush next ih => exact ih d.flush h

/-- A display with room for `n` bytes takes the first `n` of those that it would take without an
end. -/
theorem on_received (talk : Talk α) (received : Array UInt8) (stuck : Bool) (n : Nat) :
    ∃ said, (talk.on ⟨received, none, stuck⟩).2.received.toList = received.toList ++ said ∧
      (talk.on ⟨received, some n, stuck⟩).2.received.toList = received.toList ++ said.take n := by
  induction talk generalizing received n with
  | done a => exact ⟨[], by simp [on], by simp [on]⟩
  | say bytes next ih =>
    obtain ⟨said, hall, hfirst⟩ := ih (.ok ()) (received.appendList bytes) (n - bytes.length)
    refine ⟨bytes ++ said, ?_, ?_⟩
    · rw [on, Sink.write, hall]
      simp
    · by_cases hfits : bytes.length ≤ n
      · simp only [on, Sink.write, if_pos hfits]
        rw [hfirst]
        simp [List.take_append, List.take_of_length_le hfits]
      · -- the write fills the display, whatever is said behind it
        simp only [on, Sink.write, if_neg hfits]
        rw [on_received_of_full _ rfl]
        simp [List.take_append_of_le_length (Nat.le_of_not_le hfits)]
  | flush next ih => exact ih _ received n

end Talk

namespace ChildProcess

/-! ## Receiving every line -/

/-- Lines are written one after the other up to the first that is not taken, and nothing behind
it. -/
inductive PassedOn : List String → List Write → Prop where
  | nil : PassedOn [] []
  | taken {line rest later} (h : PassedOn rest later) :
      PassedOn (line :: rest) ((indented line, .ok ()) :: later)
  | refused {line rest} (e : IoError) : PassedOn (line :: rest) [(indented line, .error e)]

section

variable {lines : List String} {account account' : Account} {writes : List Write}

/-- A display that has closed gets nothing more, and every line is received all the same. -/
theorem receive_closed (lines : List String) (starts : Nat) (received : List String) :
    receive lines ⟨starts, false, received⟩ = .done ⟨starts, false, lines.reverse ++ received⟩ := by
  induction lines generalizing received with
  | nil => rfl
  | cons line rest ih =>
    simp only [receive, Bool.false_eq_true, if_false]
    rw [ih, List.reverse_cons, List.append_assoc, List.singleton_append]

/-- However the display answers, every line is received. -/
theorem goes_receive (hopen : account.isOpen = true)
    (h : (receive lines account).Goes writes account') :
    PassedOn lines writes ∧ account'.starts = account.starts ∧
      account'.received = lines.reverse ++ account.received := by
  induction lines generalizing account writes with
  | nil =>
    cases h
    exact ⟨.nil, rfl, rfl⟩
  | cons line rest ih =>
    simp only [receive, hopen, if_true] at h
    cases h with
    | @say _ _ taken later _ h =>
    cases taken with
    | ok =>
      obtain ⟨hpassed, hstarts, hreceived⟩ := ih rfl h
      exact ⟨.taken hpassed, hstarts, by rw [hreceived]; simp⟩
    | error e =>
      -- from here on there is one way only, and nothing is written on it
      change (receive rest ⟨account.starts, false, _⟩).Goes later account' at h
      rw [receive_closed] at h
      cases h
      exact ⟨.refused e, rfl, by simp⟩

end

/-! ## Attending to a command -/

/-- What a command comes to once it is started: its answer, its lines, and the files it leaves. -/
def comesTo (spawn : Spawn) (request : Request) (fs : FileSystem) :
    Except Error Unit × List String × FileSystem :=
  match spawn request fs with
  | .error e => (.error (.spawn request.command e), [], fs)
  | .ok child => (answerOf request child, linesOf child, child.files)

/-- How a command can fare on a display, whatever becomes of its writes. -/
inductive Fares (spawn : Spawn) (request : Request) (fs : FileSystem) :
    List Write → Except Error Unit → Account → FileSystem → Prop where
  /-- its announcement is not taken, and it is never started -/
  | unheard (e : IoError) :
      Fares spawn request fs [(announcing request, .error e)] (.error (.io e)) {} fs
  /-- it is started once, all of its lines are received, and it comes to what it always does -/
  | started {later account answer lines left}
      (hcomes : comesTo spawn request fs = (answer, lines, left))
      (hpassed : PassedOn lines later) (hstarts : account.starts = 1)
      (hreceived : account.received.reverse = lines) :
      Fares spawn request fs ((announcing request, .ok ()) :: later) answer account left

section

variable {spawn : Spawn} {request : Request} {fs left : FileSystem} {writes : List Write}
  {told : Except Error Unit} {account : Account}

theorem goes_attended (h : (attended spawn request fs).Goes writes (told, account, left)) :
    Fares spawn request fs writes told account left := by
  cases h with
  | @say _ _ taken later _ h =>
  cases taken with
  | error e =>
    cases h
    exact .unheard e
  | ok =>
    dsimp only [start] at h
    cases hspawn : spawn request fs with
    | error e =>
      rw [hspawn] at h
      cases h
      exact .started (by rw [comesTo, hspawn]) .nil rfl rfl
    | ok child =>
      rw [hspawn] at h
      obtain ⟨account, first, last, hfirst, hlast, rfl⟩ := h.of_bind
      cases hlast
      obtain ⟨hpassed, hstarts, hreceived⟩ := goes_receive rfl hfirst
      rw [List.append_nil]
      exact .started (by rw [comesTo, hspawn]) hpassed hstarts (by simp [hreceived])

/-- Of the display only its answer to the announcement matters. -/
theorem Fares.told_eq {d : Sink} (h : Fares spawn request fs writes told account left)
    (hanswers : d.Answers writes) :
    (told, (), left) = match (d.write (announcing request)).2 with
      | .error e => (.error (.io e), (), fs)
      | .ok () => ((comesTo spawn request fs).1, (), (comesTo spawn request fs).2.2) := by
  cases h with
  | unheard e => rw [hanswers.1]
  | started hcomes => rw [hanswers.1, hcomes]

/-- Every display makes a command fare in one of the ways. -/
theorem fares_on (spawn : Spawn) (request : Request) (fs : FileSystem) (d : Sink) :
    let told := (((executor spawn).execute request () fs).on d).1
    ∃ writes account, d.Answers writes ∧
      Fares spawn request fs writes told.1 account told.2.2 := by
  obtain ⟨writes, hgoes, hanswers⟩ := (attended spawn request fs).goes_on d
  simp only [executor, Talk.on_bind]
  exact ⟨writes, _, hanswers, goes_attended hgoes⟩

theorem told_on (spawn : Spawn) (request : Request) (fs : FileSystem) (d : Sink) :
    (((executor spawn).execute request () fs).on d).1 =
      match (d.write (announcing request)).2 with
      | .error e => (.error (.io e), (), fs)
      | .ok () => ((comesTo spawn request fs).1, (), (comesTo spawn request fs).2.2) := by
  obtain ⟨_, _, hanswers, hfares⟩ := fares_on spawn request fs d
  exact hfares.told_eq hanswers

end

/-- What a display can do to a command, and what it cannot.

Running a command is attending to it and closing its account, and whatever becomes of the writes, the
command fares in one of two ways.  If the announcement is not taken, that is the answer, and
nothing is started.  If it is taken, the command is started once, its lines are written up to the
first that is not taken and nothing behind it, all of them are received, and what it comes to does
not depend on the display.

So it fares on every display `d`, where it comes to the same as on one that never fails unless the
announcement is refused.  With room for `n` bytes, `d` takes the first `n` of those that it takes
without an end. -/
theorem execute_fares (spawn : Spawn) (request : Request) (fs : FileSystem) :
    let talk := (executor spawn).execute request () fs
    talk = (attended spawn request fs >>= fun (told, _, left) => pure (told, (), left)) ∧
      (∀ writes told account left,
        (attended spawn request fs).Goes writes (told, account, left) →
          Fares spawn request fs writes told account left) ∧
      ∀ d : Sink,
        (∃ writes account, d.Answers writes ∧
          Fares spawn request fs writes (talk.on d).1.1 account (talk.on d).1.2.2) ∧
        (talk.on d).1 = (match (d.write (announcing request)).2 with
          | .error e => (.error (.io e), (), fs)
          | .ok () => (talk.on {}).1) ∧
        ∀ n, ∃ said,
          (talk.on { d with room := none }).2.received.toList = d.received.toList ++ said ∧
          (talk.on { d with room := some n }).2.received.toList =
            d.received.toList ++ said.take n := by
  intro talk
  refine ⟨rfl, fun _ _ _ _ => goes_attended, fun d => ?_⟩
  refine ⟨fares_on spawn request fs d, ?_, Talk.on_received talk d.received d.stuck⟩
  have hunbroken : (talk.on {}).1 =
      ((comesTo spawn request fs).1, (), (comesTo spawn request fs).2.2) :=
    told_on spawn request fs {}
  rw [hunbroken]
  exact told_on spawn request fs d

/-- The display closes in the indent of the first of two lines.  Both are received, and how the
process ended is told as ever. -/
theorem execute_fares_sample :
    let spawn : Spawn := fun _ fs =>
      .ok { stdout := [0x61, 0x0A, 0x62, 0x0A], stderr := [], status := .exited 3, files := fs }
    let request : Request := ⟨⟨"work"⟩, "make", []⟩
    let d : Sink := { room := some 18 }
    let writes := [(announcing request, .ok ()), (indented "a", .error .brokenPipe)]
    let told : Except Error Unit := .error (.commandFailed "make" "exit status: 3" "")
    let account : Account := { starts := 1, isOpen := false, received := ["b", "a"] }
    (attended spawn request {}).Goes writes (told, account, {}) ∧
      Fares spawn request {} writes told account {} ∧ d.Answers writes ∧
      (((executor spawn).execute request () {}).on d).1.1 = told ∧
      (((executor spawn).execute request () {}).on d).2.text = "Executing: make\n  " := by
  intro spawn request d writes told account
  obtain ⟨-, hways, -⟩ := execute_fares spawn request {}
  have hgoes : (attended spawn request {}).Goes writes (told, account, {}) :=
    .say (.say (.done _))
  have hanswers : d.Answers writes := ⟨by decide +kernel, by decide +kernel, trivial⟩
  exact ⟨hgoes, hways _ _ _ _ hgoes, hanswers, by decide +kernel, by decide +kernel⟩

end ChildProcess

end Fleet

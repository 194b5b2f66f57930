import Fleet.ChildProcess
import Fleet.Proofs.Clone

namespace Fleet

/-! # Displays that run out of room

Of two displays one has no more room than the other (`Sink.noRoomier_total`), and stays so as long
as the same is written to both.  A write comes to the same on both unless the smaller one refuses
it, and then that one is full (`Sink.NoRoomier.write_cases`).

A process writes as much as it likes and does not heed what becomes of it (`Talk.Deaf`).  What does
matter is its announcement: if it is not taken, nothing is started.  `ChildProcess.remembering` is
the executor that runs processes and remembers which commands got that far, so that they can be told
from those that were only asked for.
-/

/-! ## More and less room -/

namespace Sink

variable {d d' : Sink}

/-- A display has no more room than another. -/
def NoRoomier (d d' : Sink) : Prop := ∀ n ∈ d'.room, ∃ m ∈ d.room, m ≤ n

theorem noRoomier_total (d d' : Sink) : d.NoRoomier d' ∨ d'.NoRoomier d := by
  unfold NoRoomier
  cases d.room <;> cases d'.room <;> simp [Nat.le_total]

/-- A display without room has no more than any. -/
theorem NoRoomier.of_full (h : d.room = some 0) : d.NoRoomier d' :=
  fun _ _ => ⟨0, h, Nat.zero_le _⟩

theorem write_room (d : Sink) (bytes : List UInt8) :
    (d.write bytes).1.room = d.room.map (· - bytes.length) := by
  unfold write
  split
  · next h => simp [h]
  next n h =>
  split
  · simp [h]
  · next hlong => simp [h, Nat.sub_eq_zero_of_le (Nat.le_of_not_le hlong)]

/-- A write is taken if there is room for all of it; else it takes the room that is left. -/
theorem write_cases (d : Sink) (bytes : List UInt8) :
    ((∀ n ∈ d.room, bytes.length ≤ n) ∧ (d.write bytes).2 = .ok ()) ∨
      ((∃ n ∈ d.room, n < bytes.length) ∧ (d.write bytes).2 = .error .brokenPipe ∧
        (d.write bytes).1.room = some 0) := by
  unfold write
  split
  · next h => simp [h]
  next n h =>
  split
  · next hfits => simp [h, hfits]
  · next hlong => simp [h, Nat.lt_of_not_le hlong]

theorem NoRoomier.write (h : d.NoRoomier d') (bytes : List UInt8) :
    (d.write bytes).1.NoRoomier (d'.write bytes).1 := by
  simp only [NoRoomier, write_room, Option.mem_def, Option.map_eq_some_iff]
  rintro _ ⟨n, hn, rfl⟩
  obtain ⟨m, hm, hle⟩ := h n hn
  exact ⟨_, ⟨m, hm, rfl⟩, Nat.sub_le_sub_right hle _⟩

/-- A write comes to the same on two displays, unless the one with no more room refuses it and has
no room left. -/
theorem NoRoomier.write_cases (h : d.NoRoomier d') (bytes : List UInt8) :
    (d.write bytes).2 = (d'.write bytes).2 ∨
      ((d.write bytes).2 = .error .brokenPipe ∧ (d'.write bytes).2 = .ok () ∧
        (d.write bytes).1.room = some 0) := by
  rcases Sink.write_cases d bytes with ⟨hfits, hd⟩ | ⟨-, hd, hfull⟩ <;>
    rcases Sink.write_cases d' bytes with ⟨-, hd'⟩ | ⟨hlong', hd', -⟩
  · exact .inl (hd.trans hd'.symm)
  · obtain ⟨n, hn, hlong⟩ := hlong'
    obtain ⟨m, hm, hle⟩ := h n hn
    exact absurd (hfits m hm) (by omega)
  · exact .inr ⟨hd, hd', hfull⟩
  · exact .inl (hd.trans hd'.symm)

end Sink

namespace Talk

variable {α β : Type}

/-- Talking takes room and makes none. -/
theorem on_room (talk : Talk α) (d : Sink) :
    ∃ k, (talk.on d).2.room = d.room.map (· - k) := by
  induction talk generalizing d with
  | done a => exact ⟨0, by simp [on]⟩
  | say bytes next ih =>
    obtain ⟨k, hk⟩ := ih (d.write bytes).2 (d.write bytes).1
    refine ⟨bytes.length + k, ?_⟩
    rw [on, hk, Sink.write_room, Option.map_map]
    simp [Function.comp_def, Nat.sub_sub]
  | flush next ih => exact ih d.flush d

/-- A computation that comes to the same on two displays, whichever of them has more room. -/
def Deaf (talk : Talk α) : Prop :=
  ∀ d d' : Sink, d.NoRoomier d' →
    (talk.on d).1 = (talk.on d').1 ∧ (talk.on d).2.NoRoomier (talk.on d').2

theorem bind_bind {γ : Type} (talk : Talk α) (f : α → Talk β) (g : β → Talk γ) :
    talk >>= f >>= g = talk >>= fun a => f a >>= g := by
  induction talk with
  | done a => rfl
  | say bytes next ih => exact congrArg (Talk.say bytes) (funext ih)
  | flush next ih => exact congrArg Talk.flush (funext ih)

theorem deaf_pure (a : α) : (pure a : Talk α).Deaf := fun _ _ h => ⟨rfl, h⟩

end Talk

/-! ## Child processes -/

namespace ChildProcess

variable {α : Type}

/-- The lines of a process leave a display no roomier than another if it was not before. -/
theorem receive_noRoomier (lines : List String) {account : Account} {d d' : Sink}
    (h : d.NoRoomier d') :
    ((receive lines account).on d).2.NoRoomier ((receive lines account).on d').2 := by
  induction lines generalizing account d d' with
  | nil => exact h
  | cons line rest ih =>
    simp only [receive]
    split
    · have hafter := h.write (indented line)
      simp only [Talk.on]
      rcases h.write_cases (indented line) with hsame | ⟨-, -, hfull⟩
      · rw [hsame]
        exact ih hafter
      · -- the smaller display is full, and stays so whatever is received from here on
        obtain ⟨k, hk⟩ := Talk.on_room (receive rest _) (d.write (indented line)).1
        refine .of_full (hk.trans ?_)
        rw [hfull, Option.map_some, Nat.zero_sub]
    · exact ih h

/-- What a process writes is passed on as far as it is taken, and comes to nothing. -/
theorem deaf_receive (lines : List String) (account : Account) {β : Type} (b : β) :
    (receive lines account >>= fun _ => pure b).Deaf := by
  intro d d' hroom
  rw [Talk.on_bind, Talk.on_bind]
  exact ⟨rfl, receive_noRoomier lines hroom⟩

/-- A command that is announced first and does not heed the display once it is started. -/
def IsAnnounced (fs : FileSystem) (talk : Talk (Except Error α × Unit × FileSystem)) : Prop :=
  ∃ request go, talk = announced request () fs go ∧ (go ()).Deaf

/-- The executor announces a command and attends to it, and forgets what was kept. -/
theorem execute_eq_announced (spawn : Spawn) (request : Request) (fs : FileSystem) :
    (executor spawn).execute request () fs = announced request () fs fun _ =>
      match spawn request fs with
      | .error e => pure (.error (.spawn request.command e), (), fs)
      | .ok child => receive (linesOf child) { starts := 1 } >>= fun _ =>
        pure (answerOf request child, (), child.files) := by
  refine congrArg (Talk.say (announcing request)) (funext fun taken => ?_)
  cases taken with
  | error e => rfl
  | ok =>
    dsimp only [start]
    cases spawn request fs with
    | error e => rfl
    | ok child => exact Talk.bind_bind ..

theorem isAnnounced_execute (spawn : Spawn) (request : Request) (fs : FileSystem) :
    IsAnnounced fs ((executor spawn).execute request () fs) := by
  refine ⟨request, _, execute_eq_announced spawn request fs, ?_⟩
  cases spawn request fs with
  | error e => exact Talk.deaf_pure _
  | ok child => exact deaf_receive _ _ _

theorem isAnnounced_capture (spawn : Spawn) (request : Request) (fs : FileSystem) :
    IsAnnounced fs ((executor spawn).capture request () fs) := by
  simp only [executor]
  refine ⟨request, _, rfl, ?_⟩
  cases spawn request fs with
  | error e => exact Talk.deaf_pure _
  | ok child =>
    dsimp only
    split
    · exact Talk.deaf_pure _
    · exact Talk.deaf_pure _

/-! ### Remembering what was started -/

/-- Remembers commands beside what a computation comes to. -/
def keeping (calls : List Call) (talk : Talk (Except Error α × Unit × FileSystem)) :
    Talk (Except Error α × List Call × FileSystem) := do
  let (result, _, fs) ← talk
  return (result, calls, fs)

theorem keeping_on (calls : List Call) (talk : Talk (Except Error α × Unit × FileSystem))
    (d : Sink) :
    (keeping calls talk).on d = (((talk.on d).1.1, calls, (talk.on d).1.2.2), (talk.on d).2) := by
  rw [keeping, Talk.on_bind]
  rfl

/-- Remembers a command if the first thing that is written, its announcement, is taken. -/
def noting (call : Call) (calls : List Call) :
    Talk (Except Error α × Unit × FileSystem) → Talk (Except Error α × List Call × FileSystem)
  | .say bytes next => .say bytes fun taken =>
    keeping (if taken.isOk then call :: calls else calls) (next taken)
  | talk => keeping calls talk

/-- The executor that runs processes, which also remembers every command that it goes on to start,
latest first: those whose announcement is taken. -/
def remembering (spawn : Spawn) : Executor (List Call) where
  execute request calls fs :=
    noting ⟨.execute, request⟩ calls ((executor spawn).execute request () fs)
  capture request calls fs :=
    noting ⟨.capture, request⟩ calls ((executor spawn).capture request () fs)

theorem length_announcing (request : Request) : 0 < (announcing request).length := by
  have hlength : (announcing request).length =
      (announcement request.command request.args).utf8ByteSize + "\n".utf8ByteSize := by
    simp [announcing, Text.encode]
  rw [hlength]
  exact Nat.add_pos_right _ (by decide)

section

variable {request : Request} {fs : FileSystem} {go : Unit → Talk (Except Error α × Unit × FileSystem)}
  {call : Call} {calls : List Call} {d : Sink}

theorem noting_taken (h : (d.write (announcing request)).2 = .ok ()) :
    (noting call calls (announced request () fs go)).on d =
      let told := (go ()).on (d.write (announcing request)).1
      ((told.1.1, call :: calls, told.1.2.2), told.2) := by
  simp only [announced, noting, Talk.on, h, keeping_on]
  rfl

theorem noting_refused {e : IoError} (h : (d.write (announcing request)).2 = .error e) :
    (noting call calls (announced request () fs go)).on d =
      ((.error (.io e), calls, fs), (d.write (announcing request)).1) := by
  simp only [announced, noting, Talk.on, h, keeping_on]
  rfl

/-- Remembering changes nothing else. -/
theorem noting_on (call : Call) (calls : List Call)
    (talk : Talk (Except Error α × Unit × FileSystem)) (d : Sink) :
    ∃ noted, (noting call calls talk).on d =
      (((talk.on d).1.1, noted, (talk.on d).1.2.2), (talk.on d).2) := by
  cases talk with
  | done a => exact ⟨calls, keeping_on ..⟩
  | say bytes next => exact ⟨_, keeping_on ..⟩
  | flush next => exact ⟨calls, keeping_on ..⟩

end

end ChildProcess

end Fleet

import Fleet.Proofs.Room
import Fleet.Proofs.Text.Utf8

namespace Fleet

/-! # Passing on what a process writes

What a process writes is cut into lines as bytes, and each line is read as text on its own.  Nothing
is lost or changed by that: the lines are those of the text that is read from all bytes in one go,
apart from the carriage returns at their ends (`ChildProcess.forwardLines_eq`).  Each of them is
written once, in order and indented, behind the announcement (`ChildProcess.forwards_all`).
-/

namespace Text

/-- Pieces without the last, if there is nothing in it. -/
def withoutEmptyEnd {α : Type} (pieces : List (List α)) : List (List α) :=
  match pieces.getLast? with
  | some [] => pieces.dropLast
  | _ => pieces

/-- Drops every carriage return from the end. -/
def dropReturns (line : List Char) : List Char := dropEndWhile (· == '\r') line

section

variable {α β : Type} {pieces : List (List α)}

theorem withoutEmptyEnd_of_empty (h : pieces.getLast? = some []) :
    withoutEmptyEnd pieces = pieces.dropLast := by
  rw [withoutEmptyEnd, h]

theorem withoutEmptyEnd_of_ne (h : pieces.getLast? ≠ some []) :
    withoutEmptyEnd pieces = pieces := by
  unfold withoutEmptyEnd
  split
  · next hempty => exact absurd hempty h
  · rfl

theorem withoutEmptyEnd_subset (pieces : List (List α)) : withoutEmptyEnd pieces ⊆ pieces := by
  unfold withoutEmptyEnd
  split
  · exact pieces.dropLast_subset
  · exact List.Subset.refl _

/-- What leaves nothing but the empty piece empty can be done before or after. -/
theorem withoutEmptyEnd_map {f : List α → List β} (hf : ∀ piece, f piece = [] ↔ piece = [])
    (pieces : List (List α)) :
    withoutEmptyEnd (pieces.map f) = (withoutEmptyEnd pieces).map f := by
  have hempty : (pieces.map f).getLast? = some [] ↔ pieces.getLast? = some [] := by
    simp [List.getLast?_map, hf]
  by_cases h : pieces.getLast? = some []
  · rw [withoutEmptyEnd_of_empty h, withoutEmptyEnd_of_empty (hempty.2 h), List.map_dropLast]
  · rw [withoutEmptyEnd_of_ne h, withoutEmptyEnd_of_ne (fun h' => h (hempty.1 h'))]

/-- A piece for each separator, and one more if there is something behind the last. -/
theorem length_withoutEmptyEnd [BEq α] [LawfulBEq α] [DecidableEq α] (sep : α) (cs : List α) :
    (withoutEmptyEnd (splitOn sep cs)).length =
      cs.count sep + if cs = [] ∨ cs.getLast? = some sep then 0 else 1 := by
  have hempty := getLast?_splitOn_eq_nil_iff sep cs
  split
  · next h =>
    rw [withoutEmptyEnd_of_empty (hempty.2 h), List.length_dropLast, length_splitOn]
    rfl
  · next h =>
    rw [withoutEmptyEnd_of_ne (fun hlast => h (hempty.1 hlast)), length_splitOn]

end

theorem dropEndWhile_congr {p q : Char → Bool} {cs : List Char} (h : ∀ c ∈ cs, p c = q c) :
    dropEndWhile p cs = dropEndWhile q cs := by
  induction cs using List.reverseRecOn with
  | nil => rfl
  | append_singleton cs c ih =>
    rw [dropEndWhile_append_singleton, dropEndWhile_append_singleton, h c (by simp),
      ih fun c hc => h c (by simp [hc])]

theorem mem_of_mem_dropReturns {line : List Char} {c : Char} (h : c ∈ dropReturns line) :
    c ∈ line := (List.rdropWhile_prefix _ _).subset h

end Text

namespace Talk

variable {α β : Type}

/-- What a computation writes, one write after the other, if every write is taken, and nothing
refuses to be flushed. -/
def writes : Talk α → List (List UInt8)
  | done _ => []
  | say bytes next => bytes :: (next (.ok ())).writes
  | flush next => (next (.ok ())).writes

@[simp] theorem writes_pure (a : α) : (pure a : Talk α).writes = [] := rfl

theorem writes_bind (talk : Talk α) (f : α → Talk β) :
    (talk >>= f).writes = talk.writes ++ (f talk.heard).writes := by
  induction talk with
  | done a => rfl
  | say bytes next ih => exact congrArg (bytes :: ·) (ih (.ok ()))
  | flush next ih => exact ih (.ok ())

/-- A display that takes everything has taken what was written. -/
theorem on_unbroken_received (talk : Talk α) (d : Sink) (hroom : d.room = none)
    (hstuck : d.stuck = false) :
    (talk.on d).2.received.toList = d.received.toList ++ talk.writes.flatten := by
  induction talk generalizing d with
  | done a => simp [on, writes]
  | say bytes next ih =>
    have hnext := ih (.ok ()) ⟨d.received.appendList bytes, none, d.stuck⟩ rfl hstuck
    simp only [on, Sink.write, hroom]
    rw [hnext]
    simp [writes]
  | flush next ih =>
    simp only [on, Sink.flush, hstuck]
    exact ih _ d hroom hstuck

end Talk

namespace ChildProcess

open Text

/-! ## The lines -/

/-- The line end that is dropped from a line holds no line feed: that was cut off before. -/
theorem dropLineEnd_of_notMem {line : List Char} (h : '\n' ∉ line) :
    dropLineEnd line = dropReturns line :=
  dropEndWhile_congr fun c hc => by
    have hne : c ≠ '\n' := fun heq => h (heq ▸ hc)
    simp [hne]

theorem linesOfBytes_eq (bytes : List UInt8) :
    linesOfBytes bytes = withoutEmptyEnd (splitOn lineFeed bytes) := by
  rw [linesOfBytes]
  split
  · next h => exact (withoutEmptyEnd_of_empty h).symm
  · next h => exact (withoutEmptyEnd_of_ne h).symm

/-- The lines that are passed on are those of the text that is read from all bytes in one go. -/
theorem forwardLines_eq (bytes : List UInt8) :
    forwardLines bytes =
      (withoutEmptyEnd (splitOn '\n' (decodeLossy bytes))).map (String.ofList ∘ dropReturns) := by
  rw [forwardLines, linesOfBytes_eq, splitOn_decodeLossy,
    withoutEmptyEnd_map fun _ => decodeLossy_eq_nil_iff, List.map_map]
  refine List.map_congr_left fun piece hpiece => ?_
  have hnot : '\n' ∉ decodeLossy piece :=
    notMem_decodeLossy (notMem_of_mem_splitOn _ _ _ (withoutEmptyEnd_subset _ hpiece))
  simp only [Function.comp, dropLineEnd_of_notMem hnot]

theorem length_forwardLines (bytes : List UInt8) :
    (forwardLines bytes).length =
      bytes.count lineFeed + if bytes = [] ∨ bytes.getLast? = some lineFeed then 0 else 1 := by
  rw [← length_withoutEmptyEnd, forwardLines, List.length_map, linesOfBytes_eq]

theorem notMem_of_mem_forwardLines {bytes : List UInt8} {line : String}
    (h : line ∈ forwardLines bytes) : '\n' ∉ line.toList := by
  rw [forwardLines_eq] at h
  obtain ⟨piece, hpiece, rfl⟩ := List.mem_map.1 h
  have hnot := notMem_of_mem_splitOn _ _ _ (withoutEmptyEnd_subset _ hpiece)
  simpa using fun hmem => hnot (mem_of_mem_dropReturns hmem)

/-! ## What is written -/

/-- Every line is written, once and in order. -/
theorem writes_receive (lines : List String) {account : Account} (h : account.isOpen = true) :
    (receive lines account).writes = lines.map indented := by
  induction lines generalizing account with
  | nil => rfl
  | cons line rest ih =>
    simp only [receive, h, if_true]
    exact congrArg (indented line :: ·) (ih rfl)

/-- A command is announced, and what it writes is passed on behind that. -/
theorem writes_execute {spawn : Spawn} {request : Request} {fs : FileSystem} {child : Completed}
    (h : spawn request fs = .ok child) :
    ((executor spawn).execute request () fs).writes =
      announcing request ::
        (forwardLines child.stdout ++ forwardLines child.stderr).map indented := by
  simp only [execute_eq_announced, announced, h, Talk.writes, Talk.writes_bind, writes_receive,
    Talk.writes_pure, List.append_nil, linesOf]

/-- Whatever bytes a process writes on one of its streams, the lines that are passed on are got from
the text that is read from all of them in one go: it is cut at the line feeds, the last piece counts
if there is something in it, and the carriage returns at the end of each piece are dropped.  There
is one line for each line feed and one for what stands behind the last, and no line holds any.

Behind the announcement each line is written once, in order, with four spaces in front and a line
feed behind, and a display that takes everything has taken just that. -/
theorem forwards_all (bytes : List UInt8) :
    forwardLines bytes =
        (withoutEmptyEnd (splitOn '\n' (decodeLossy bytes))).map (String.ofList ∘ dropReturns) ∧
      (forwardLines bytes).length =
        bytes.count lineFeed + (if bytes ≠ [] ∧ bytes.getLast? ≠ some lineFeed then 1 else 0) ∧
      (∀ line ∈ forwardLines bytes, '\n' ∉ line.toList) ∧
      ∀ (spawn : Spawn) (request : Request) (fs : FileSystem) (child : Completed),
        spawn request fs = .ok child →
        (child.stdout = bytes ∧ child.stderr = []) ∨ (child.stdout = [] ∧ child.stderr = bytes) →
        let talk := (executor spawn).execute request () fs
        talk.writes = announcing request ::
            (forwardLines bytes).map (fun line => encode ("    " ++ line ++ "\n")) ∧
          ∀ d : Sink, d.room = none → d.stuck = false →
            (talk.on d).2.received.toList = d.received.toList ++ talk.writes.flatten := by
  refine ⟨forwardLines_eq bytes, ?_, fun _ => notMem_of_mem_forwardLines, ?_⟩
  · rw [length_forwardLines]
    by_cases hnil : bytes = [] <;> by_cases hlast : bytes.getLast? = some lineFeed <;>
      simp [hnil, hlast]
  · intro spawn request fs child hspawn hstream
    refine ⟨?_, fun d => Talk.on_unbroken_received _ d⟩
    have hnone : forwardLines [] = [] := rfl
    rw [writes_execute hspawn]
    rcases hstream with ⟨hout, herr⟩ | ⟨hout, herr⟩
    · rw [hout, herr, hnone, List.append_nil]
      rfl
    · rw [hout, herr, hnone, List.nil_append]
      rfl

/-- Two carriage returns, characters that are broken off by a line feed and by the end, an empty
line and no line feed at the end. -/
theorem forwards_all_sample :
    let bytes : List UInt8 := [0x61, 0x0D, 0x0D, 0x0A, 0xC3, 0x0A, 0x0A, 0xE2, 0x82, 0x0D]
    let spawn : Spawn := fun _ fs =>
      .ok { stdout := bytes, stderr := [], status := .exited 0, files := fs }
    forwardLines bytes = ["a", "\uFFFD", "", "\uFFFD"] ∧
      ((executor spawn).execute ⟨⟨"work"⟩, "make", []⟩ () {}).writes =
        ["Executing: make\n", "    a\n", "    \uFFFD\n", "    \n", "    \uFFFD\n"].map encode := by
  intro bytes spawn
  have hlines : forwardLines bytes = ["a", "\uFFFD", "", "\uFFFD"] := by decide +kernel
  refine ⟨hlines, ?_⟩
  obtain ⟨-, -, -, hwritten⟩ := forwards_all bytes
  rw [(hwritten spawn _ _ _ rfl (.inl ⟨rfl, rfl⟩)).1, hlines]
  rfl

end ChildProcess

end Fleet

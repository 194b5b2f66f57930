import Fleet.Shell.Invocation

namespace Fleet.Shell

/-! # What shells have in common

A shell, the shells that it starts and the programs work with the same files, and with the same open
streams: what one of them reads, the others do not read again.  A `Channel` is one open stream;
shells know it by its number.  What is written and not put into a file is collected in sinks.
-/

/-- An open stream. -/
inductive Channel where
  /-- nothing can be read, and what is written is lost -/
  | nowhere
  /-- zeros without end -/
  | zeros
  /-- nothing can be written -/
  | full
  /-- what is left to be read -/
  | source (bytes : List UInt8)
  /-- what is written is collected; `isPipe` if somebody reads it at once, `isError` if it is told
  from what else gets there -/
  | sink (number : Nat) (isPipe isError : Bool)
  /-- a file, and how much of it has been passed; `appends` if writing goes to its end -/
  | file (loc : Location) (offset : Nat) (reads writes appends : Bool)

/-- What all shells and programs have in common. -/
structure World where
  files : FileSystem
  channels : List (Nat × Channel) := []
  /-- what the sinks have got, latest first -/
  sinks : List (Nat × List (Bool × List UInt8)) := []
  /-- the number of the next channel or sink -/
  fresh : Nat := 0
  nextPid : Nat
  /-- signals that are on their way, each with the process that it goes to -/
  sent : List (Nat × Nat) := []
  /-- how long the programs have slept, and for how long that may go on -/
  slept : Nat := 0
  deadline : Option Deadline := none

namespace World

/-- The channel of a number. -/
def channel? (w : World) (n : Nat) : Option Channel := w.channels.lookup n

/-- Opens a channel. -/
def opened (w : World) (p : Channel) : Nat × World :=
  (w.fresh, { w with channels := (w.fresh, p) :: w.channels, fresh := w.fresh + 1 })

/-- Changes a channel. -/
def withChannel (w : World) (n : Nat) (p : Channel) : World :=
  { w with channels := w.channels.map fun (k, old) => (k, if k == n then p else old) }

/-- Opens a sink. -/
def withSink (w : World) : Nat × World :=
  (w.fresh, { w with fresh := w.fresh + 1, sinks := (w.fresh, []) :: w.sinks })

/-- What a sink has got. -/
def collected (w : World) (k : Nat) : List (Bool × List UInt8) :=
  ((w.sinks.lookup k).getD []).reverse

/-- Forgets a sink. -/
def withoutSink (w : World) (k : Nat) : World :=
  { w with sinks := w.sinks.filter fun (n, _) => n != k }

/-- What becomes of writing. -/
inductive Outcome where
  | written
  /-- nobody can write there -/
  | refused (e : IoError)
  /-- nobody reads it any more -/
  | unread

/-- How much is written to a pipe before its reader stops reading. -/
def maxPipe : Nat := 4194304

/-- What a file at a location holds. -/
def contentAt (w : World) (loc : Location) : List UInt8 :=
  match w.files.root.get? loc with
  | some (.file content _) => content.data.toList
  | _ => []

/-- Writes to a channel. -/
def write (w : World) (n : Nat) (bytes : List UInt8) : Outcome × World :=
  match w.channel? n with
  | none => (.refused (.os 9), w)
  | some (.source _) => (.refused (.os 9), w)
  | some .nowhere | some .zeros => (.written, w)
  | some .full => (if bytes.isEmpty then .written else .refused (.os 28), w)
  | some (.sink k isPipe isError) =>
    if bytes.isEmpty then (.written, w)
    else
      let size := if isPipe then
          ((w.collected k).map fun (_, chunk) => chunk.length).foldl (· + ·) 0
        else 0
      if maxPipe < size then (.unread, w)
      else (.written, { w with
        sinks := w.sinks.map fun (j, chunks) =>
          (j, if j == k then (isError, bytes) :: chunks else chunks) })
  | some (.file loc offset reads writes appends) =>
    if !writes then (.refused (.os 9), w)
    else match w.files.root.get? loc with
      | some (.file content executable) =>
        let start := if appends then content.size else offset
        let old := content.data.toList
        let all : List UInt8 := if content.size ≤ start then
            old ++ List.replicate (start - content.size) 0 ++ bytes
          else old.take start ++ bytes ++ old.drop (start + bytes.length)
        let w := { w with files := w.files.place loc (.file ⟨all.toArray⟩ executable) }
        (.written,
          w.withChannel n (.file loc (start + bytes.length) reads writes appends))
      | _ => (.written, w)

/-- What is left to be read from a channel, and whether it is a file. -/
def readable (w : World) (n : Nat) : Except IoError (List UInt8 × Bool) :=
  match w.channel? n with
  | some (.source bytes) => .ok (bytes, false)
  | some .nowhere => .ok ([], false)
  | some .zeros => .ok (List.replicate Invocation.manyZeros 0, false)
  | some (.file loc offset true _ _) => .ok ((w.contentAt loc).drop offset, true)
  | _ => .error (.os 9)

/-- Passes so many bytes of what is left to be read. -/
def passed (w : World) (n count : Nat) : World :=
  match w.channel? n with
  | some (.source bytes) => w.withChannel n (.source (bytes.drop count))
  | some (.file loc offset reads writes appends) =>
    w.withChannel n (.file loc (offset + count) reads writes appends)
  | _ => w

/-- What is left of the time until the end that was set. -/
def timeLeft (w : World) : Option Deadline :=
  w.deadline.map fun d => { d with time := d.time - w.slept }

/-- Sends a signal. -/
def withSignal (w : World) (pid signal : Nat) : World :=
  { w with sent := w.sent ++ [(pid, signal)] }

end World

end Fleet.Shell

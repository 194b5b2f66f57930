import Fleet.IoError
import Fleet.Text.Utf8

namespace Fleet

/-! # Displays

A run tells what it does on a display, and a display can break: a `Sink` takes bytes until it has
no more room, keeps what fits of the write that is too long, and refuses everything after it.  It may
also refuse to be flushed.

`Talk` is a computation that writes to a display it does not know and flushes it, and is told each
time whether that was done.  `Talk.on` has it talk to a sink.  `Talk.teed` has it talk to a copy that
takes everything, which is passed on to a sink that may take it or not.
-/

/-- A display: the bytes that it has taken, how many it will still take if there is an end, and
whether it refuses to be flushed. -/
structure Sink where
  received : Array UInt8 := #[]
  room : Option Nat := none
  stuck : Bool := false
  deriving DecidableEq, Repr, Inhabited

namespace Sink

/-- Writes to a display.  If there is no room for all bytes, those that fit are taken. -/
def write (s : Sink) (bytes : List UInt8) : Sink × Except IoError Unit :=
  match s.room with
  | none => ({ s with received := s.received.appendList bytes }, .ok ())
  | some n =>
    if bytes.length ≤ n then
      ({ s with received := s.received.appendList bytes, room := some (n - bytes.length) }, .ok ())
    else
      ({ s with received := s.received.appendList (bytes.take n), room := some 0 },
        .error .brokenPipe)

/-- Asks a display to show what it has taken, which it keeps as it is. -/
def flush (s : Sink) : Except IoError Unit := if s.stuck then .error .brokenPipe else .ok ()

/-- Writes to a display, whether it takes it or not. -/
def say (s : Sink) (bytes : List UInt8) : Sink := (s.write bytes).1

/-- Writes a line to a display, whether it takes it or not. -/
def sayLine (s : Sink) (line : String) : Sink := s.say (Text.encode (line ++ "\n"))

/-- Writes a line to a display. -/
def writeLine (s : Sink) (line : String) : Sink × Except IoError Unit :=
  s.write (Text.encode (line ++ "\n"))

/-- The text that a display has taken. -/
def text (s : Sink) : String := String.ofList (Text.decodeLossy s.received.toList)

end Sink

/-- A computation that writes to a display. -/
inductive Talk (α : Type) where
  /-- It has ended. -/
  | done (a : α)
  /-- It writes, and goes on according to whether the write was taken. -/
  | say (bytes : List UInt8) (next : Except IoError Unit → Talk α)
  /-- It flushes, and goes on according to whether that was refused. -/
  | flush (next : Except IoError Unit → Talk α)

namespace Talk

variable {α β : Type}

/-- Goes on with another computation. -/
def bind : Talk α → (α → Talk β) → Talk β
  | done a, f => f a
  | say bytes next, f => say bytes fun taken => (next taken).bind f
  | flush next, f => flush fun done => (next done).bind f

instance : Monad Talk where
  pure := done
  bind := bind

/-- Talks to a display. -/
def on : Talk α → Sink → α × Sink
  | done a, sink => (a, sink)
  | say bytes next, sink =>
    let (sink, taken) := sink.write bytes
    (next taken).on sink
  | flush next, sink => (next sink.flush).on sink

/-- What a copy and a display that it is passed on to have taken. -/
structure Tee where
  copy : Array UInt8 := #[]
  sink : Sink
  deriving DecidableEq, Repr

/-- Writes to the copy, and passes it on whether the display takes it or not. -/
def Tee.say (t : Tee) (bytes : List UInt8) : Tee :=
  ⟨t.copy.appendList bytes, t.sink.say bytes⟩

/-- Talks to a copy, which takes everything and is flushed whether the display is or not. -/
def teed : Talk α → Tee → α × Tee
  | done a, tee => (a, tee)
  | say bytes next, tee => (next (.ok ())).teed (tee.say bytes)
  | flush next, tee => (next (.ok ())).teed tee

/-- The text that a copy has taken. -/
def Tee.log (t : Tee) : String := String.ofList (Text.decodeLossy t.copy.toList)

end Talk

end Fleet

import Fleet.Display
import Fleet.Error
import Fleet.FileSystem.Walk
import Fleet.Text.ShellWord

namespace Fleet

/-! # Executors

Everything outside is reached by running a command in a directory.  An `Executor` says what comes of
it: what is written to the display meanwhile, what changes among the files, and whether the command
succeeded.  It may remember what it likes from one command to the next.

A command can be run in two ways: with its output going to the display, or with its output kept.
-/

/-- A command to be run. -/
structure Request where
  dir : Path
  command : String
  args : List String
  deriving DecidableEq, Repr, Inhabited

/-- What comes of running commands; `σ` is what the executor remembers. -/
structure Executor (σ : Type) where
  /-- Runs a command whose output goes to the display. -/
  execute : Request → σ → FileSystem → Talk (Except Error Unit × σ × FileSystem)
  /-- Runs a command whose output is kept. -/
  capture : Request → σ → FileSystem → Talk (Except Error String × σ × FileSystem)

/-- The two ways to run a command. -/
inductive Manner where
  | execute
  | capture
  deriving DecidableEq, Repr

/-- A command that was run, and how. -/
structure Call where
  manner : Manner
  request : Request
  deriving DecidableEq, Repr

namespace Executor

variable {σ : Type}

/-- The same executor, which also remembers every command, latest first. -/
def logged (x : Executor σ) : Executor (σ × List Call) where
  execute request state fs := do
    let (result, s, fs) ← x.execute request state.1 fs
    return (result, (s, ⟨.execute, request⟩ :: state.2), fs)
  capture request state fs := do
    let (result, s, fs) ← x.capture request state.1 fs
    return (result, (s, ⟨.capture, request⟩ :: state.2), fs)

end Executor

/-! ## Announcing a command -/

/-- How many characters of an argument are shown at most. -/
def maxShownArg : Nat := 30

/-- The arguments as they are announced; a long one is left out. -/
def summarizedArgs (args : List String) : List String :=
  args.map fun arg => if maxShownArg < arg.length then "..." else arg

/-- The line that announces a command. -/
def announcement (command : String) (args : List String) : String :=
  let summary := " ".intercalate (summarizedArgs args)
  if summary.isEmpty then "Executing: " ++ command else "Executing: " ++ command ++ " " ++ summary

end Fleet

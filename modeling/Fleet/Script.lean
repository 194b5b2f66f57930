import Fleet.Executor
import Fleet.FileSystem.Ensure

namespace Fleet

/-! # Scripted executors

An executor that runs nothing and answers by rules: the first rule that a request matches says what
is written, what is changed among the files and what comes of the command.  A request that no rule
matches succeeds and writes nothing.
-/

/-- What comes of a command. -/
inductive Answer where
  | ok (output : String)
  | failed (status stderr : String)
  | spawn (source : IoError)
  | io (source : IoError)
  deriving DecidableEq, Repr

/-- What comes of a command, for a request. -/
def Answer.result (command : String) : Answer → Except Error String
  | ok output => .ok output
  | failed status stderr => .error (.commandFailed command status stderr)
  | spawn source => .error (.spawn command source)
  | io source => .error (.io source)

/-- A rule of a script.  What it does not say about a request may be anything. -/
structure Rule where
  /-- the end of the path of the directory -/
  dirEnd : Option String := none
  command : Option String := none
  firstArg : Option String := none
  /-- how many requests came before -/
  nth : Option Nat := none
  prints : List (List UInt8) := []
  /-- what was written is flushed -/
  flushes : Bool := false
  makes : List String := []
  writes : List (String × ByteArray) := []
  removes : List String := []
  answer : Answer := .ok ""

namespace Rule

/-- One text ends with another. -/
def endsWith (text tail : String) : Bool := tail.toList.isSuffixOf text.toList

/-- A request that came after `n` others is one of those the rule is for. -/
def applies (rule : Rule) (request : Request) (n : Nat) : Bool :=
  rule.dirEnd.all (endsWith request.dir.text) &&
    rule.command.all (· == request.command) &&
    rule.firstArg.all (fun arg => request.args.head? == some arg) &&
    rule.nth.all (· == n)

end Rule

namespace Rule

/-- Does what the rule says to the files, from the directory of the request. -/
def change (rule : Rule) (dir : Path) (fs : FileSystem) : FileSystem :=
  let fs := rule.makes.foldl (fun fs p => fs.ensureDirectory (dir / p)) fs
  let fs := rule.writes.foldl (fun fs (p, content) => fs.ensureFile (dir / p) content) fs
  rule.removes.foldl (fun fs p => fs.ensureGone (dir / p)) fs

/-- Goes on unless the display has refused. -/
def unlessRefused {α : Type} (refused : IoError → α) (go : Talk α) : Except IoError Unit → Talk α
  | .ok () => go
  | .error e => .done (refused e)

/-- Writes piece after piece, up to the first that is not taken. -/
def print {α : Type} (refused : IoError → α) (go : Talk α) : List (List UInt8) → Talk α
  | [] => go
  | piece :: rest => .say piece (unlessRefused refused (print refused go rest))

end Rule

namespace Script

/-- Answers a request that came after `n` others. -/
def answer (rules : List Rule) (request : Request) (n : Nat) (fs : FileSystem) :
    Talk (Except Error String × Nat × FileSystem) :=
  match rules.find? fun rule => rule.applies request n with
  | none => .done (.ok "", n + 1, fs)
  | some rule =>
    let refused (e : IoError) := (.error (.io e), n + 1, fs)
    let go := .done (rule.answer.result request.command, n + 1, rule.change request.dir fs)
    rule.prints |> Rule.print refused
      (if rule.flushes then .flush (Rule.unlessRefused refused go) else go)

/-- The executor that follows rules; it remembers how many requests there were. -/
def executor (rules : List Rule) : Executor Nat where
  execute request n fs := do
    let (result, n, fs) ← answer rules request n fs
    return (result.map fun _ => (), n, fs)
  capture request n fs := answer rules request n fs

end Script

end Fleet

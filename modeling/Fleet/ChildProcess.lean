import Fleet.Executor
import Fleet.Text.Blank
import Fleet.Text.Lines

namespace Fleet

/-! # Child processes

The executor that runs a command as a process of its own.  The command is announced first, and not
started if the announcement is not taken.  Of the two ways of running it, one receives every line
that the process writes and passes it on, indented; from the first line that is not taken on it goes
on receiving and passes on nothing more.  The other keeps what the process writes.

What a process does is a function of the command, its directory and the files.
-/

/-- How a process ended; if a signal ended it, it may have left an image of its memory. -/
inductive ExitStatus where
  | exited (code : Nat)
  | killed (signal : Nat) (coreDumped : Bool := false)
  deriving DecidableEq, Repr, Inhabited

namespace ExitStatus

/-- The names of the signals. -/
def signalName? (signal : Nat) : Option String :=
  [(1, "SIGHUP"), (2, "SIGINT"), (3, "SIGQUIT"), (4, "SIGILL"), (5, "SIGTRAP"), (6, "SIGABRT"),
    (7, "SIGBUS"), (8, "SIGFPE"), (9, "SIGKILL"), (10, "SIGUSR1"), (11, "SIGSEGV"),
    (12, "SIGUSR2"), (13, "SIGPIPE"), (14, "SIGALRM"), (15, "SIGTERM"), (16, "SIGSTKFLT"),
    (17, "SIGCHLD"), (18, "SIGCONT"), (19, "SIGSTOP"), (20, "SIGTSTP"), (21, "SIGTTIN"),
    (22, "SIGTTOU"), (23, "SIGURG"), (24, "SIGXCPU"), (25, "SIGXFSZ"), (26, "SIGVTALRM"),
    (27, "SIGPROF"), (28, "SIGWINCH"), (29, "SIGIO"), (30, "SIGPWR"), (31, "SIGSYS")].lookup signal

/-- How the end of a process is told. -/
def text : ExitStatus → String
  | exited code => "exit status: " ++ toString code
  | killed signal coreDumped =>
    "signal: " ++ toString signal ++
      (match signalName? signal with
        | some name => " (" ++ name ++ ")"
        | none => "") ++
      (if coreDumped then " (core dumped)" else "")

def isSuccess : ExitStatus → Bool
  | exited code => code == 0
  | killed .. => false

end ExitStatus

/-- A process that has ended: what it wrote, how it ended, and the files it left. -/
structure Completed where
  stdout : List UInt8
  stderr : List UInt8
  status : ExitStatus
  files : FileSystem

/-- What a command does as a process, unless it cannot be started. -/
abbrev Spawn := Request → FileSystem → Except IoError Completed

namespace ChildProcess

/-- Drops every line feed and carriage return from the end. -/
def dropLineEnd (line : List Char) : List Char :=
  Text.dropEndWhile (fun c => c == '\n' || c == '\r') line

/-- The byte that ends a line. -/
def lineFeed : UInt8 := 10

/-- The lines of what a process writes; the last counts only if there is something in it. -/
def linesOfBytes (bytes : List UInt8) : List (List UInt8) :=
  let pieces := Text.splitOn lineFeed bytes
  match pieces.getLast? with
  | some [] => pieces.dropLast
  | _ => pieces

/-- The lines that are passed on. -/
def forwardLines (bytes : List UInt8) : List String :=
  (linesOfBytes bytes).map fun line => String.ofList (dropLineEnd (Text.decodeLossy line))

/-- A line as it is passed on. -/
def indented (line : String) : List UInt8 := Text.encode ("    " ++ line ++ "\n")

/-- The lines that are received from a process: what it writes on one stream, then on the other. -/
def linesOf (child : Completed) : List String :=
  forwardLines child.stdout ++ forwardLines child.stderr

/-- What is known of a command while it is attended to. -/
structure Account where
  /-- how often it was started -/
  starts : Nat := 0
  /-- whether every line so far was taken by the display -/
  isOpen : Bool := true
  /-- the lines that were received from it, latest first -/
  received : List String := []

/-- Receives every line, and writes it as long as the display has taken all before it. -/
def receive : List String → Account → Talk Account
  | [], account => .done account
  | line :: rest, account =>
    let account := { account with received := line :: account.received }
    if account.isOpen then
      .say (indented line) fun taken => receive rest { account with isOpen := taken.isOk }
    else receive rest account

/-- The bytes that announce a command. -/
def announcing (request : Request) : List UInt8 :=
  Text.encode (announcement request.command request.args ++ "\n")

/-- Announces a command and goes on if the announcement is taken. -/
def announced {α κ : Type} (request : Request) (kept : κ) (fs : FileSystem)
    (go : Unit → Talk (Except Error α × κ × FileSystem)) : Talk (Except Error α × κ × FileSystem) :=
  .say (announcing request) fun
    | .error e => .done (.error (.io e), kept, fs)
    | .ok () => go ()

/-- Starts a command, and counts it. -/
def start (spawn : Spawn) (request : Request) (fs : FileSystem) (account : Account) :
    Except IoError Completed × Account :=
  (spawn request fs, { account with starts := account.starts + 1 })

/-- The answer that the end of a process gives. -/
def answerOf (request : Request) (child : Completed) : Except Error Unit :=
  if child.status.isSuccess then .ok ()
  else .error (.commandFailed request.command child.status.text "")

/-- Runs a command and passes on what it writes, and keeps account of it. -/
def attended (spawn : Spawn) (request : Request) (fs : FileSystem) :
    Talk (Except Error Unit × Account × FileSystem) :=
  announced request {} fs fun _ =>
    match start spawn request fs {} with
    | (.error e, account) => return (.error (.spawn request.command e), account, fs)
    | (.ok child, account) => do
      let account ← receive (linesOf child) account
      return (answerOf request child, account, child.files)

/-- The executor that runs processes.  The account of a command is closed with it. -/
def executor (spawn : Spawn) : Executor Unit where
  execute request _ fs := do
    let (answer, _, files) ← attended spawn request fs
    return (answer, (), files)
  capture request _ fs :=
    announced request () fs fun _ =>
      match spawn request fs with
      | .error e => return (.error (.spawn request.command e), (), fs)
      | .ok child =>
        let text (bytes : List UInt8) := String.ofList (Text.decodeLossy bytes)
        if child.status.isSuccess then return (.ok (text child.stdout), (), child.files)
        else
          return (.error (.commandFailed request.command child.status.text (text child.stderr)), (),
            child.files)

end ChildProcess

end Fleet

import Fleet.Shell.Jobs

namespace Fleet.Shell

/-! # Signals

The commands that send signals and that say what is done when one comes.
-/

namespace Signal

open Session Builtin

/-- The number of a signal that is named or numbered; zero only if `least` is. -/
def number? (least : Nat) (word : String) : Option Nat :=
  match Number.natural? word with
  | some n => if n < 65 && least ≤ n then some n else none
  | none =>
    let upper := String.ofList (word.toList.map Char.toUpper)
    (SignalName.all.idxOf? upper).bind fun n => if least ≤ n then some n else none

/-- The signals that a process takes no notice of. -/
def ignored : List Nat := [0, 17, 18, 23, 28]

/-- A signal comes to this shell. -/
def receive (signal : Nat) : Act Unit := do
  let s ← getShell
  match if signal = 9 then none else s.traps.lookup signal with
  | some action =>
    if !action.isEmpty then change fun s => { s with pending := s.pending ++ [signal] }
  | none => if !ignored.contains signal then throw (.killed signal)

/-- Sends a signal to a process: whether there is one. -/
def send (pid signal : Nat) : Act Bool := do
  let s ← get
  if pid = s.shell.pid then
    receive signal
    return true
  else if s.jobs.any fun job => job.pid == pid && job.isOver then return false
  else if s.jobs.any fun job => job.pid == pid then
    modify fun s => { s with jobs := s.jobs.map fun job =>
      if job.pid == pid && job.status.isNone && !ignored.contains signal then
        { job with status := some (.killed signal) }
      else job }
    return true
  else if s.shell.root ≤ pid && pid < s.world.nextPid then
    changeWorld fun w => w.withSignal pid signal
    return true
  else return false

/-- When the time is over, the signal comes for that. -/
def hurry : Act Unit := do
  let s ← get
  match s.world.deadline with
  | some d =>
    if d.time ≤ s.world.slept && !s.shell.isLate then
      change fun s => { s with isLate := true }
      receive d.signal
  | none => pure ()

/-- The signals that came to this shell while another one ran. -/
def collect : Act Unit := do
  let s ← get
  let own := s.world.sent.filter fun (pid, _) => pid == s.shell.pid
  if !own.isEmpty then
    changeWorld fun w => { w with sent := w.sent.filter fun (pid, _) => pid != s.shell.pid }
    for (_, signal) in own do receive signal

/-- How signals are sent. -/
def usage : String :=
  "Usage: kill [-s sigspec | -signum | -sigspec] [pid | job]... or\nkill -l [exitstatus]"

/-- Sends a signal to processes. -/
def sendAll (signal : Nat) (words : List String) : Act Nat := do
  if words.isEmpty then fail usage
  let mut status := 0
  for word in words do
    -- a job has no group of its own that a signal could be sent to
    let isThere ← match word.toList with
      | '%' :: _ => do
        let _ ← Jobs.named word
        pure false
      | '-' :: digits => do send (← number (String.ofList digits)) signal
      | _ => do send (← number word) signal
    if !isThere then
      warn "No such process\n"
      status := 1
  return status

/-- Sends signals, or tells their names. -/
def kill : Action := fun args => do
  match args with
  | [] => fail usage
  | first :: rest =>
    match first.toList with
    | '-' :: name =>
      match number? 1 (String.ofList name) with
      | some signal => sendAll signal rest
      | none =>
        if name = ['0'] then sendAll 0 rest
        else
          let (given, words) ← options "ls:" args
          let mut signal := 15
          for (c, value) in given do
            if c == 's' then
              match number? 0 value with
              | some n => signal := n
              | none => fail ("invalid signal number or name: " ++ value)
          if given.any fun (c, _) => c == 'l' then
            match words with
            | [] => printLines ("0" :: SignalName.all.tail)
            | word :: _ =>
              let n ← number word
              match SignalName.all[if 128 < n then n - 128 else n]? with
              | some name => printLines [name]
              | none => fail ("invalid signal number or exit status: " ++ word)
          else sendAll signal words
    | _ => sendAll 15 args

/-- Says what is to be done when signals come, or tells it. -/
def trap : Action := fun args => do
  let (_, words) ← options "" args
  match words with
  | [] =>
    let s ← getShell
    printLines <| (List.range 32).filterMap fun n => (s.traps.lookup n).map fun action =>
      "trap -- " ++ quoted action ++ " " ++ (SignalName.all[n]?).getD ""
  | [one] => setAll none [one]
  | action :: signals =>
    if (number? 0 action).isSome then setAll none words
    else setAll (if action = "-" then none else some action) signals
where
  /-- Says what is done at each of the signals. -/
  setAll (action : Option String) : List String → Act Nat
    | [] => return 0
    | word :: rest => do
      match number? 0 word with
      | none =>
        let _ ← write 2 (Text.encode ("trap: " ++ word ++ ": bad trap\n"))
        return 1
      | some n =>
        change fun s =>
          let others := s.traps.filter fun (k, _) => k != n
          { s with traps := match action with
            | some text => (n, text) :: others
            | none => others }
        setAll action rest

/-- Tells that a process was ended by a signal, unless the time is over and this one ends too. -/
def tell (status : ExitStatus) : Act Unit := do
  hurry
  match status with
  | .killed signal _ =>
    match SignalName.description? signal with
    | some text =>
      let _ ← write 2 (Text.encode (text ++ "\n"))
    | none => pure ()
  | .exited _ => pure ()

end Signal

end Fleet.Shell

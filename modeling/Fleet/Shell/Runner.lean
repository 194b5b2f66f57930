import Fleet.Shell.Further
import Fleet.Shell.Grammar
import Fleet.Shell.Process

namespace Fleet.Shell

/-! # Running texts

A `Runner` runs the commands and expands the words that stand inside others.  With it a text is run
line by line, signals are dealt with, and shells run beside this one.  A shell that runs beside
another one is followed to its end before the other goes on; what a shell starts in the background
is followed when somebody waits for it, or at the end.
-/

/-- What runs the commands and expands the words inside other ones. -/
structure Runner where
  command : Manner → Command → Act Unit
  /-- expands the pieces of a word; with `inUse` they stand in the place of a value -/
  word : Purpose → Bool → Word → Act (List Mark)

namespace Runner

open Session Process

/-! ## Texts -/

/-- A text that is read from its first line on. -/
def source (text : String) : Source := { rest := text.toList }

/-- A text that is read by an extended shell; its last line has an end. -/
def wholeSource (text : String) (line : Nat) : Source :=
  let cs := text.toList
  let ends := cs.isEmpty || cs.getLast? == some '\n'
  { rest := if ends then cs else cs ++ ['\n'], line, extended := true }

/-- Writes a message about the text that is being read. -/
def remark (line : Nat) (text : String) : Act Unit := do
  let s ← getShell
  let _ ← write 2 (Text.encode (s.source.getD s.name ++ ": line " ++ toString line ++ ": " ++
    text ++ "\n"))

/-- Tells what is odd about a text, the latest first. -/
def remarkAll (notes : List (Nat × String)) : Act Unit := do
  for (line, text) in notes.reverse do remark line ("warning: " ++ text)

/-- Tells what is wrong with a text that began in a line. -/
def misread (text : String) (first : Nat) (flaw : Flaw) : Act Unit := do
  let s ← getShell
  let lines := Text.splitOn '\n' text.toList
  let line := "\x60" ++ String.ofList ((lines[flaw.line - first]?).getD []) ++ "'"
  let given := match s.given with
    | some word => word ++ ": "
    | none => ""
  let messages := match flaw.trouble with
    | .token sign => ["syntax error near unexpected token \x60" ++ sign ++ "'", line]
    | .missing sign => ["unexpected EOF while looking for matching \x60" ++ sign ++ "'"]
    | .ended => ["syntax error: unexpected end of file"]
    | .words messages => messages ++ [line]
    | .other => [flaw.text]
  let lead := s.source.getD s.name ++ ": " ++ given ++ "line " ++ toString flaw.line ++ ": "
  for message in messages do
    let _ ← write 2 (Text.encode (lead ++ message ++ "\n"))
  done 2

/-- Runs the commands of a line; a mistake that gives them up is forgotten, unless this is a shell
that was started for them. -/
def lineOf (r : Runner) (m : Manner) (c : Command) : Act Unit := fun s =>
  match r.command m c s with
  | .error .fault t | .error .abandon t =>
    if t.shell.extended && t.shell.nesting = 0 then .ok () t else .error .fault t
  | other => other

/-- Runs the commands of a text, line by line: whether there were any. -/
def linesFrom (r : Runner) (m : Manner) (text : String) (first : Nat) :
    Nat → Source → Act Bool
  | 0, _ => return false
  | n + 1, source => do
    let s ← getShell
    let aliases := if s.extended && !s.customs.contains "expand_aliases" then [] else s.aliases
    let grouping := s.customs.contains "extglob"
    match Script.line.run { source with aliases, grouping } with
    | .error flaw rest =>
      if s.extended then
        remarkAll rest.notes
        misread text first flaw
        return true
      else
        change fun s => { s with line := flaw.line, origin := 1 }
        fail (if flaw.text = "Bad substitution" then flaw.text else "Syntax error: " ++ flaw.text)
    | .ok (.commands c) rest =>
      remarkAll rest.notes
      let isLast := rest.rest.all (· == '\n')
      r.lineOf (if isLast then m else { tested := m.tested }) c
      let _ ← linesFrom r m text first n { rest with notes := [] }
      return true
    | .ok .nothing rest => linesFrom r m text first n rest
    | .ok .finished _ => return false

/-- Runs the commands of a text that begins in a line: whether there were any. -/
def text (r : Runner) (m : Manner) (text : String) (first : Nat := 1) : Act Bool := do
  let whole := if (← getShell).extended then wholeSource text first else source text
  linesFrom r m text first (text.length + 2) whole

/-! ## Signals and ends -/

/-- Does what is to be done at a signal or an event, after which the status is as it was. -/
def react (r : Runner) (event : Nat) : Act Unit := do
  let s ← getShell
  match s.traps.lookup event with
  | some action =>
    let _ ← r.text {} action
    change fun t => { t with line := s.line, status := s.status, statuses := s.statuses }
  | none => pure ()

/-- Does what is to be done at the signals that came. -/
def attend (r : Runner) : Act Unit := do
  let s ← getShell
  change fun s => { s with pending := [] }
  for signal in s.pending do r.react signal

/-- Does what is to be done at an event, which does not happen again meanwhile. -/
def provoke (r : Runner) (event : Nat) : Act Unit := do
  let s ← getShell
  match s.traps.lookup event with
  | some action =>
    change fun t => { t with traps := t.traps.filter fun (k, _) => k != event }
    let _ ← r.text { tested := true } action
    let again (t : State) : State :=
      if (t.traps.lookup event).isSome then t else { t with traps := (event, action) :: t.traps }
    change fun t => { again t with
      line := s.line, status := s.status, statuses := s.statuses, doing := s.doing }
  | none => pure ()

/-- Functions do not notice the event, unless an option says so. -/
def isNoticed (s : State) (event : Nat) : Bool :=
  s.extended && (s.calls.isEmpty || s.has (if event = State.failure then 'E' else 'T'))

/-- What comes after a command: a strict shell ends if it has failed, and signals are dealt with. -/
def settle (r : Runner) (m : Manner) (checks : Bool) : Act Unit := do
  let s ← getShell
  if checks && !m.tested && s.status ≠ 0 then
    if isNoticed s State.failure then r.provoke State.failure
    if s.has 'e' then throw .exit
  if !s.pending.isEmpty then r.attend
  if m.exits then throw .exit

/-- Runs a job to its end, if it ends by a time. -/
def finish (r : Runner) (limit : Option Nat) (job : Job) : Act Unit := fun s =>
  let ready : Session := { shell := job.shell, world := s.world }
  let (status, t) : ExitStatus × Session :=
    match r.command { exits := true, descends := true } (.apart job.shell.line job.body) ready with
    | .error (.killed signal) t => (.killed signal, t)
    | .ok _ t | .error _ t => (.exited t.shell.status, t)
  let ending := job.started + (t.world.slept - s.world.slept)
  if limit.any (· < ending) then .ok () s
  else .ok () { s with
    world := { t.world with
      files := { t.world.files with cwd := s.world.files.cwd }
      slept := max s.world.slept ending }
    jobs := s.jobs.map fun other =>
      if other.pid == job.pid then { other with status := some status } else other }

/-- Runs jobs, all of them or those up to one, as far as they end by a time. -/
def finishAll (r : Runner) (upTo limit : Option Nat) : Act Unit := do
  for job in (← get).jobs do
    if job.status.isNone && upTo.all fun pid => job.pid ≤ pid then r.finish limit job

/-- Runs the jobs that nobody has waited for, after the end of the shell. -/
def left (r : Runner) (s : Session) : Session :=
  let ready : Session := { s with world := { s.world with deadline := none } }
  match (r.finishAll none none).run ready with
  | .ok _ t | .error _ t => { t with world := { t.world with
      slept := s.world.slept
      deadline := s.world.deadline } }

/-- Does something in a shell to its end: what is to be done there, and the jobs that are left. -/
def concluded (r : Runner) (body : Act Unit) (s : Session) : ExitStatus × Session :=
  match body s with
  | .error (.killed signal) t => (.killed signal, r.left t)
  | .ok _ t | .error _ t =>
    let saved := t.shell.status
    match t.shell.traps.lookup 0 with
    | none => (.exited saved, r.left t)
    | some action =>
      let ready : Session := { t with shell := { t.shell with
        traps := t.shell.traps.filter fun (k, _) => k != 0
        leaving := some saved } }
      match (r.text {} action).run ready with
      | .error (.killed signal) u => (.killed signal, r.left u)
      | .error .exit u => (.exited u.shell.status, r.left u)
      | .ok _ u | .error _ u => (.exited saved, r.left u)

/-- Does something in a shell that runs beside this one. -/
def forked (r : Runner) (body : Act Unit) : Act ExitStatus := fun s =>
  let pid := s.world.nextPid
  let child : Session :=
    { shell := s.shell.child pid, world := { s.world with nextPid := pid + 1 } }
  let (status, t) := r.concluded body child
  .ok status { s with
    world := { t.world with files := { t.world.files with cwd := s.world.files.cwd } } }

/-- What comes of a shell that ran beside this one; with `instead` it took the place of this one. -/
def waited (instead : Bool) (status : ExitStatus) : Act Unit := do
  match instead, status with
  | true, .killed signal _ => throw (.killed signal)
  | _, _ =>
    if !instead then Signal.tell status
    done (codeOf status)
    Signal.collect

/-! ## What commands write -/

/-- Runs commands in a shell beside this one: what they write, and how they end. -/
def collected (r : Runner) (body : Command) : Act (List UInt8 × ExitStatus) := do
  let (sink, world) := (← get).world.withSink
  let (channel, world) := world.opened (.sink sink false false)
  modify fun s => { s with world }
  let inner : Act Unit := do
    Expansion.connect 1 (some channel)
    change fun s => if s.extended then { s with
      options := s.options.filter fun c => c != 'e' || s.customs.contains "inherit_errexit"
      depth := s.depth + 1 } else s
    r.command { exits := true, descends := true } body
  let status ← r.forked inner
  let bytes := ((← get).world.collected sink).flatMap (·.2)
  changeWorld (·.withoutSink sink)
  return (bytes, status)

/-- What commands write, without the ends of lines at its end. -/
def substituted (r : Runner) (body : Command) : Act String := do
  match body with
  | .nothing => return ""
  | body =>
    let (bytes, status) ← r.collected body
    Signal.tell status
    change fun s => { s with substituted := codeOf status }
    Signal.collect
    if (← getShell).extended && bytes.contains 0 then
      warnPlainly "warning: command substitution: ignored null byte in input"
    let text := Text.decodeLossy (bytes.filter (· != 0))
    return String.ofList (Text.dropEndWhile (· == '\n') text)

/-! ## Streams that words name -/

/-- The stream that is named by a path in a word: the last one that is free. -/
def freeStream (s : State) : Nat :=
  ((List.range 54).find? fun k => (s.streams.lookup (63 - k)).isNone).elim 9 (63 - ·)

/-- A path for a stream on which commands write, or from which they read when the command is over
that it is given to. -/
def streamPath (r : Runner) (body : Command) (reads : Bool) : Act String := do
  let n := freeStream (← getShell)
  if reads then
    let (sink, world) := (← get).world.withSink
    let (channel, world) := world.opened (.sink sink false false)
    modify fun s => { s with world }
    Expansion.connect n (some channel)
    change fun s => { s with readers := (sink, body) :: s.readers }
  else
    let (bytes, _) ← r.collected body
    let (channel, world) := (← get).world.opened (.source bytes)
    modify fun s => { s with world }
    Expansion.connect n (some channel)
  return "/dev/fd/" ++ toString n

/-- Lets commands read what was written for them. -/
def feed (r : Runner) (readers : List (Nat × Command)) : Act Unit := do
  for (sink, body) in readers do
    let bytes := ((← get).world.collected sink).flatMap (·.2)
    let (channel, world) := ((← get).world.withoutSink sink).opened (.source bytes)
    modify fun s => { s with world }
    let inner : Act Unit := do
      Expansion.connect 0 (some channel)
      r.command { exits := true } body
    let _ ← r.forked inner

/-- Does something, after which the streams that words have named are closed. -/
def withPaths (r : Runner) (body : Act Unit) : Act Unit := do
  let s ← getShell
  change fun s => { s with readers := [] }
  let close (t : Session) : Session :=
    let streams := t.shell.streams.filter fun (n, _) =>
      n < 10 || 63 < n || (s.streams.lookup n).isSome
    { t with shell := { t.shell with streams } }
  thenAlways body close
  let readers := (← getShell).readers
  change fun t => { t with readers := s.readers }
  r.feed readers.reverse

end Runner

end Fleet.Shell

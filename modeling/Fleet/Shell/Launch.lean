import Fleet.Shell.Beginning
import Fleet.Shell.Wording

namespace Fleet.Shell

/-! # Running programs

A shell starts a program and waits for its end.  A program that is a shell itself runs its text in
the same world if this shell has started it, and in a world of its own if another program has.
-/

namespace Runner

open Session Process

/-- Runs the commands of the file that a variable names, before those of a script. -/
def prepare (r : Runner) : Act Unit := do
  let s ← getShell
  match if s.extended then s.valueOf? "BASH_ENV" else none with
  | some path =>
    match ← Beginning.scriptIn path with
    | .ok text =>
      change fun t => { t with source := some path }
      let _ ← r.text {} text
      change fun t => { t with source := none }
    | .error _ => pure ()
  | none => pure ()

/-- Reads the command line of a shell that has just been called, and runs what it asks for. -/
def begun (r : Runner) (args : List String) : Act Unit := do
  let q ← Beginning.request args
  let text ← Beginning.textOf q
  let isGiven := q.text.isSome
  change fun s => { s with name := q.name.getD s.name, params := q.params, line := 1 }
  if (← getShell).extended then
    r.prepare
    if isGiven then change fun s =>
      { s with given := some "-c" }.putAs "BASH_EXECUTION_STRING" { value := some text }
    let _ ← r.text { exits := isGiven, descends := isGiven } text
  else
    let _ ← r.text {} text

/-- How many programs start each other at most. -/
def maxStarts : Nat := 1000

/-- Runs a shell in a world of its own. -/
def launchShell (r : Runner) (extended : Bool) (i : Invocation) : Ended :=
  let pid := 4242
  let world : World := { files := i.files, nextPid := pid + 1, deadline := i.deadline }
  let (input, world) := world.opened (.source i.input)
  let (sink, world) := world.withSink
  let (output, world) := world.opened (.sink sink false false)
  let (errors, world) := world.opened (.sink sink false true)
  let (streams, world) := i.further.foldl (fun (streams, world) (n, bytes) =>
    let (channel, world) := world.opened (.source bytes)
    ((n, channel) :: streams, world)) ([(0, input), (1, output), (2, errors)], world)
  let shell := Beginning.shell extended i.program pid i.env i.files streams
  let (status, s) := r.concluded (r.begun i.args) { shell, world }
  let rest := match s.world.channel? input with
    | some (.source bytes) => bytes.length
    | _ => 0
  { output := s.world.collected sink
    status
    files := { s.world.files with cwd := i.files.cwd }
    taken := i.input.length - rest
    slept := s.world.slept }

/-- Runs a program in a world of its own. -/
def launch (r : Runner) : Nat → Program → Invocation → Ended
  | 0, _, i => i.ends 2
  | n + 1, program, i =>
    match program with
    | .utility u => u i
    | .caller c =>
      let starter : Starter :=
        { start := fun i words =>
            let name := words.headD ""
            match Program.find i.files ((i.env.lookup "PATH").getD Program.usualPath) name with
            | .ok found => .ok (launch r n found.program
                { i with program := found.name, args := found.lead ++ words.tail })
            | .error e =>
              if e = .notProgram then .ok (launch r n (.shell false)
                { i with program := "/bin/sh", args := pathOf i.env i.files name :: words.tail })
              else .error e
          locate := fun i name =>
            match Program.find i.files ((i.env.lookup "PATH").getD "") name with
            | .ok found => some found.path
            | .error e => if e = .notProgram then some (pathOf i.env i.files name) else none }
      c starter i
    | .shell extended => r.launchShell extended i

/-- Starts a program that has been found. -/
def started (r : Runner) (found : Program.Found) (args : List String) : Act ExitStatus := do
  let words := found.lead ++ args
  match found.program with
  | .shell extended =>
    let s ← get
    let pid := s.world.nextPid
    let inner : Act Unit := do
      modify fun t => { t with shell := { (Beginning.shell extended found.name pid
        s.shell.environment t.world.files t.shell.streams) with traps := t.shell.traps } }
      r.begun words
    r.forked inner
  | program =>
    let i ← invocation found.name found.path words
    takeOver found.name (r.launch maxStarts program i)

/-- A program that takes the place of an extended shell stands where the shell stood. -/
def descend : Act Unit := change fun s =>
  match (s.store.lookup "SHLVL").bind fun v => v.value.bind Number.natural? with
  | some n => s.putAs "SHLVL" { value := some (toString (n - 1)), exported := true }
  | none => s

/-- Runs a program. -/
def external (r : Runner) (m : Manner) (name : String) (args : List String) : Act Unit := do
  match ← program name with
  | .error e => done (← notStarted name e)
  | .ok found =>
    let takesPlace := m.exits && (← getShell).traps.isEmpty
    if takesPlace && m.descends then descend
    let status ← r.started found args
    if name = "sleep" then r.finishAll none (some (← get).world.slept)
    waited takesPlace status

end Runner

end Fleet.Shell

import Fleet.Shell.Inquiry

namespace Fleet.Shell

/-! # Running commands

A script is run by following its commands, each of which is something that a shell does.
`Runner.step` says what a command does, given a runner for what stands inside it, and
`Runner.ofDepth` takes so many steps.
-/

namespace Runner

open Session Process

/-- How many rounds a loop makes at most. -/
def patience : Nat := 1000000

/-! ## Loops -/

/-- Ends a loop that goes on and on: the time is over. -/
def exhaust {α : Type} : Act α := do
  changeWorld fun w => { w with slept := max w.slept ((w.deadline.map (·.time)).getD 0) }
  Signal.hurry
  throw .exit

/-- Runs a loop at most so many times; `status` is that of the last round. -/
def loop (r : Runner) (m : Manner) (condition body : Command) (negated : Bool) :
    Nat → Nat → Act Unit
  | 0, _ => exhaust
  | n + 1, status => do
    match ← round (r.command { tested := true } condition) with
    | .out h => throw h
    | .finished => done status
    | .next =>
      if ((← getShell).status == 0) == negated then done status
      else
        match ← round (r.command m body) with
        | .out h => throw h
        | .finished => return
        | .next => loop r m condition body negated n (← getShell).status

/-- Runs a loop that counts, at most so many times; `status` is that of the last round. -/
def count (r : Runner) (m : Manner) (test next : Word) (body : Command) : Nat → Nat → Act Unit
  | 0, _ => exhaust
  | n + 1, status => do
    match ← r.calculated 1 test with
    | none => done 1
    | some 0 => done status
    | some _ =>
      match ← round (r.command m body) with
      | .out h => throw h
      | .finished => return
      | .next =>
        let status := (← getShell).status
        match ← r.calculated 1 next with
        | none => done 1
        | some _ => count r m test next body n status

/-- Gives the variable of a loop a value: whether that could be done. -/
def assignInLoop (name value : String) : Act Bool := do
  let s ← getShell
  if s.extended && ((s.holding? name).map (·.readOnly)).getD false then
    warnPlainly (name ++ ": readonly variable")
    done 1
    return false
  else
    assign name value
    return true

/-- Runs a loop over values; `title` is what is shown before every round. -/
def each (r : Runner) (m : Manner) (title name : String) (body : Command) : List String → Act Unit
  | [] => return
  | value :: rest => do
    if (← getShell).extended then r.traceHere title
    if ← assignInLoop name value then
      match ← round (r.command m body) with
      | .out h => throw h
      | .finished => return
      | .next => each r m title name body rest

/-- Runs a loop over the fields of words. -/
def forEach (r : Runner) (m : Manner) (name : String) (words : List Word) (body : Command) :
    Act Unit := do
  let s ← getShell
  if s.extended && !Word.isName name.toList then
    warnPlainly ("\x60" ++ name ++ "': not a valid identifier")
    done 1
  else
    let values ← r.fields [] words
    let title := "for " ++ name ++ " in " ++ " ".intercalate (words.map Word.written)
    done 0
    inLoop (r.each m title name body values)

/-! ## Choices -/

/-- One of the patterns matches a text. -/
def accepts (r : Runner) (text : String) : List Word → Act Bool
  | [] => return false
  | pattern :: rest => do
    let marks ← r.expand .text pattern
    let s ← getShell
    if isLike s (s.extended && s.customs.contains "extglob") marks text then return true
    else accepts r text rest

/-- Runs a command, unless there is none to be run: then all is well. -/
def orNothing (r : Runner) (m : Manner) (c : Command) : Act Unit := do
  match c with
  | .nothing =>
    done 0
    r.settle m false
  | c => r.command m c

/-- Runs what the cases say about a text; with `falls` the next case is run whatever its patterns
are, and with `hasRun` one was run already. -/
def choose (r : Runner) (m : Manner) (text : String) (falls hasRun : Bool) :
    List (List Word × Command × Passage) → Act Unit
  | [] => if hasRun then r.settle m false else r.orNothing m .nothing
  | (patterns, body, passage) :: rest => do
    let fits ← if falls then pure true else r.accepts text patterns
    if !fits then choose r m text false hasRun rest
    else match passage, rest with
      | .finish, _ | _, [] => r.orNothing m body
      | passage, rest =>
        r.orNothing { tested := m.tested } body
        choose r m text (passage == .fall) true rest

/-! ## Shells side by side -/

/-- Runs commands side by side, each reading what the one before it has written. -/
def pipeline (r : Runner) : Option Nat → List Command → Act (List ExitStatus)
  | _, [] => return []
  | input, c :: rest => do
    let inner (output : Option Nat) : Act Unit := do
      if input.isSome then Expansion.connect 0 input
      if output.isSome then Expansion.connect 1 output
      r.command { exits := true } c
    if rest.isEmpty then
      let status ← r.forked (inner none)
      Signal.tell status
      Signal.collect
      return [status]
    else
      let (sink, world) := (← get).world.withSink
      let (channel, world) := world.opened (.sink sink true false)
      modify fun s => { s with world }
      let status ← r.forked (inner (some channel))
      let bytes := ((← get).world.collected sink).flatMap (·.2)
      let (next, world) := ((← get).world.withoutSink sink).opened (.source bytes)
      modify fun s => { s with world }
      Signal.tell status
      Signal.collect
      let others ← pipeline r (some next) rest
      return status :: others

/-- The status of commands that ran side by side: that of the last one, or of the last one that has
failed. -/
def statusOfAll (strict : Bool) (codes : List Nat) : Nat :=
  let last := codes.getLastD 0
  if strict then ((codes.reverse.find? (· != 0)).getD 0) else last

/-- Starts a command in the background. -/
def background (body : Command) : Act Unit := modify fun s =>
  let pid := s.world.nextPid
  let (channel, world) := { s.world with nextPid := pid + 1 }.opened .nowhere
  let streams := (0, channel) :: s.shell.streams.filter fun (k, _) => k != 0
  let (number, others) := Jobs.room s.jobs
  let job : Job := {
    number
    pid
    shell := { s.shell.child pid with streams }
    body
    started := s.world.slept }
  { s with
    world
    jobs := others ++ [job]
    shell := { s.shell with lastJob := some pid, status := 0 } }

/-! ## Commands -/

/-- Notes the status of a command that ran alone. -/
def ranAlone : Act Unit := change fun s =>
  if s.extended then { s with statuses := [s.status] } else s

/-- Tells how long a command has taken. -/
def clocked : Act Unit := do
  let _ ← write 2 (Text.encode "\nreal\t0m0.000s\nuser\t0m0.000s\nsys\t0m0.000s\n")

/-- Runs a command, given what runs the commands inside it. -/
def run (r : Runner) (m : Manner) (c : Command) : Act Unit := do
  if (← getShell).has 'n' then return
  let within : Manner := { tested := m.tested }
  let asked : Manner := { tested := true }
  let inside : Manner := { m with descends := false }
  match c with
  | .nothing => r.settle m false
  | .sequence first second =>
    r.command within first
    r.command m second
  | .both first second =>
    r.command asked first
    if (← getShell).status = 0 then r.command m second else r.settle m false
  | .either first second =>
    r.command asked first
    if (← getShell).status ≠ 0 then r.command m second else r.settle m false
  | .negate body =>
    r.command asked body
    done (if (← getShell).status = 0 then 1 else 0)
    r.settle m false
  | .branch condition yes no =>
    r.command asked condition
    if (← getShell).status = 0 then r.command inside yes else r.orNothing inside no
  | .loop condition body negated =>
    inLoop (r.loop within condition body negated patience 0)
    r.settle m false
  | .count line first test next body =>
    change fun s => { s with line }
    match ← r.calculated 1 first with
    | none => done 1
    | some _ => inLoop (r.count within test next body patience 0)
    r.settle m false
  | .forEach line name words body =>
    change fun s => { s with line }
    r.forEach within name words body
    r.settle m false
  | .choose line word cases =>
    change fun s => { s with line }
    if (← getShell).extended then r.traceHere ("case " ++ Word.written word ++ " in")
    let text ← r.textOfWord .text word
    r.choose inside text false false cases
  | .calculate line text =>
    change fun s => { s with line }
    let v ← r.calculated 0 text
    done (if v.any (· != 0) then 0 else 1)
    ranAlone
    r.settle m true
  | .ask line question =>
    change fun s => { s with line }
    done (← asCommand "[[" (r.answer "" question))
    ranAlone
    r.settle m true
  | .timed body =>
    r.orNothing within body
    clocked
    r.settle m false
  | .define line name body =>
    change fun s => { s with
      functions := (name, line, body) :: s.functions.filter fun (other, _) => other != name }
    done 0
    r.settle m false
  | .redirected line body redirects =>
    change fun s => { s with line }
    r.withPaths do
      let targets ← r.targets redirects
      withStreams do
        if ← Expansion.redirectAll targets then r.command within body
        else
          let isExtended := (← getShell).extended
          done (if isExtended then 1 else 2)
          if isExtended then r.settle within true
    r.settle m false
  | .apart line body =>
    change fun s => { s with line }
    let takesPlace := m.exits && (← getShell).traps.isEmpty
    let status ← r.forked (r.command { m with exits := true, descends := true } body)
    waited takesPlace status
    ranAlone
    r.settle m true
  | .background line body =>
    change fun s => { s with line }
    background body
    r.settle m false
  | .pipe commands =>
    let codes := (← r.pipeline none commands).map codeOf
    let strict := (← getShell).has '6'
    done (statusOfAll strict codes)
    change fun s => if s.extended then { s with statuses := codes } else s
    r.settle m true
  | .simple line assignments words redirects =>
    change fun s => { s with line, substituted := 0 }
    if (← getShell).extended then
      change fun s => { s with doing := c }
      r.furtherSimple m assignments words redirects
    else r.simple m assignments words redirects
    ranAlone
    r.settle m true

/-- Runs commands and expands words by one step. -/
def step (r : Runner) : Runner := ⟨r.run, r.parts⟩

/-- The runner that goes so deep; what is deeper breaks down. -/
def ofDepth : Nat → Runner
  | 0 => ⟨fun _ _ => throw (.killed 11), fun _ _ _ => throw (.killed 11)⟩
  | n + 1 => (ofDepth n).step

/-- How deep commands stand inside each other at most. -/
def maxDepth : Nat := 10000

/-- The runner of a process. -/
def usual : Runner := ofDepth maxDepth

end Runner

end Fleet.Shell

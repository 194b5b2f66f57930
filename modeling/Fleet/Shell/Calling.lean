import Fleet.Shell.Launch

namespace Fleet.Shell

/-! # Commands that run commands

The commands of the shell itself that run others, functions, and what is done with the words of a
simple command.
-/

namespace Runner

open Session Process

/-! ## Waiting -/

/-- Waits for a job that has been found: its status. -/
def await (r : Runner) (pid : Nat) : Act (Option Nat) := do
  r.finishAll (some pid) none
  match (← get).jobs.find? fun job => job.pid == pid with
  | some job =>
    let status := job.status.getD (.exited 0)
    if !job.waited then Signal.tell status
    modify fun s => { s with jobs := s.jobs.map fun other =>
      if other.pid == pid then { other with waited := true } else other }
    return some (codeOf status)
  | none => return none

/-- Waits for one job. -/
def waitFor (r : Runner) (word : String) : Act Nat := do
  let pid ← if word.toList.head? == some '%' then pure (← Jobs.named word).pid
    else Builtin.number word
  return (← r.await pid).getD 127

/-- Waits for all jobs. -/
def waitForAll (r : Runner) : Act Nat := do
  r.finishAll none none
  Signal.hurry
  modify fun s => { s with jobs := s.jobs.map fun job => { job with waited := true } }
  return 0

/-- Waits for jobs. -/
def wait (r : Runner) (words : List String) : Act Nat :=
  if words.isEmpty then r.waitForAll
  else words.foldlM (fun _ word => r.waitFor word) 0

/-- Waits for one job of an extended shell. -/
def furtherWaitFor (r : Runner) (word : String) : Act Nat := do
  let jobs := (← get).jobs
  let cs := word.toList
  if cs.head? == some '%' then
    let found := match String.ofList (cs.drop 1) with
      | "" | "%" | "+" => jobs.getLast?
      | "-" => jobs.dropLast.getLast?
      | digits => jobs.find? fun job => some job.number == Number.natural? digits
    match found with
    | some job => return (← r.await job.pid).getD 127
    | none =>
      warn (word ++ ": no such job")
      return 127
  else match Number.natural? word with
    | none =>
      warn ("\x60" ++ word ++ "': not a pid or valid job spec")
      return 1
    | some pid =>
      match ← r.await pid with
      | some status => return status
      | none =>
        warn ("pid " ++ word ++ " is not a child of this shell")
        return 127

/-- Waits for jobs of an extended shell. -/
def furtherWait (r : Runner) (args : List String) : Act Nat := do
  match ← Usage.options "wait" "fnp:" args with
  | none => return 2
  | some (given, words) =>
    if given.any (·.1 == 'n') then
      let left := (← get).jobs.filter fun job => !job.waited
      match left.head? with
      | some job => return (← r.await job.pid).getD 127
      | none => return 127
    else if words.isEmpty then r.waitForAll
    else words.foldlM (fun _ word => r.furtherWaitFor word) 0

/-! ## Texts that are run -/

/-- Runs a text, and goes on behind it if it is left early. -/
def untilBack (r : Runner) (text : String) : Act Bool := fun s =>
  match (r.text {} text).run s with
  | .error .back t => .ok true t
  | other => other

/-- Runs the commands in a file. -/
def sourced (r : Runner) (name : String) : Act Nat := do
  let path ← scriptNamed name
  match ← Beginning.scriptIn path with
  | .error e =>
    if e = .isDirectory then return 0
    else fail ("cannot open " ++ path ++ ": " ++ Expansion.reasonOf "No such file" e)
  | .ok text =>
    let s ← getShell
    change fun s => { s with command := some path, origin := 1 }
    let any ← r.untilBack text
    change fun t => { t with line := s.line, origin := s.origin }
    let status := (← getShell).status
    return if any then status else 0

/-- The path of a script that an extended shell finds. -/
def scriptPath (s : Session) (name : String) : String :=
  if name.toList.contains '/' then name
  else
    let path := (s.shell.valueOf? "PATH").getD ""
    let dirs := if s.shell.customs.contains "sourcepath" then
        (Text.splitOn ':' path.toList).map String.ofList
      else []
    let paths := dirs.map fun dir => if dir.isEmpty then name else (Path.mk dir / name).text
    let isFile (p : String) : Bool := match s.world.files.status ⟨p⟩ with
      | .ok (_, .file _ _) => true
      | _ => false
    (paths.find? isFile).getD name

/-- Runs the commands in a file, with parameters of their own if there are words for them. -/
def furtherSourced (r : Runner) (command : String) (args : List String) : Act Nat := do
  match ← Usage.options command "" args with
  | none => return 2
  | some (_, []) =>
    warn "filename argument required"
    Usage.told command
  | some (_, name :: params) =>
    let path := scriptPath (← get) name
    match ← Beginning.scriptIn path with
    | .error e =>
      if e = .isDirectory then warn (path ++ ": is a directory")
      else warnPlainly (path ++ ": " ++ reason e)
      return 1
    | .ok text =>
      let s ← getShell
      change fun t => { t with
        command := none
        source := some path
        given := none
        depth := t.depth + 1
        calls := "source" :: t.calls
        params := if params.isEmpty then t.params else params }
      let after (u : Session) : Session := { u with shell := { u.shell with
        line := s.line, source := s.source, given := s.given, depth := s.depth, calls := s.calls
        params := if params.isEmpty then u.shell.params else s.params } }
      let any ← thenAlways (r.untilBack text) after
      let status := (← getShell).status
      done (if any then status else 0)
      r.react State.goingBack
      return (← getShell).status

/-- Runs the words as the text of a script. -/
def evaluated (r : Runner) (m : Manner) (words : List String) : Act Nat := do
  let s ← getShell
  change fun s => { s with origin := 1 }
  let any ← r.text { tested := m.tested } (" ".intercalate words)
  change fun t => { t with line := s.line, origin := s.origin }
  let status := (← getShell).status
  return if any then status else 0

/-- Runs the words as a text in an extended shell. -/
def furtherEvaluated (r : Runner) (m : Manner) (args : List String) : Act Nat := do
  match ← Usage.options "eval" "" args with
  | none => return 2
  | some (_, words) =>
    let s ← getShell
    change fun t => { t with command := none, given := some "eval", depth := t.depth + 1 }
    let after (u : Session) : Session := { u with shell := { u.shell with
      line := s.line, given := s.given, depth := s.depth } }
    let any ← thenAlways (r.text { tested := m.tested } (" ".intercalate words) s.line) after
    let status := (← getShell).status
    return if any then status else 0

/-! ## Programs in the place of the shell -/

/-- Ends the shell as the program has ended that took its place. -/
def replacedBy (status : ExitStatus) : Act Nat := do
  done (codeOf status)
  -- what was to be done at the end of the shell is forgotten with it
  change fun s => { s with traps := [] }
  match status with
  | .killed signal _ => throw (.killed signal)
  | .exited _ => throw .exit

/-- Lets a program take the place of the shell. -/
def instead (r : Runner) (name : String) (args : List String) : Act Nat := do
  match ← program name with
  | .error e =>
    let status ← notStarted name e
    done status
    throw .exit
  | .ok found =>
    let status ← r.started found args
    replacedBy status

/-- Tells why no program can take the place of an extended shell: the status. -/
def notReplaced (name : String) (e : IoError) : Act Nat := do
  let s ← get
  let full := if FileSystem.startsAtRoot name then name
    else s.shell.directory ++ "/" ++
      if "./".toList.isPrefixOf name.toList then String.ofList (name.toList.drop 2) else name
  if !name.toList.contains '/' && e = .noEntry then
    warn (name ++ ": not found")
    return 127
  else if e = .noEntry then
    let isThere := (s.world.files.status ⟨name⟩).toOption.isSome
    warnPlainly (full ++ ": " ++
      if isThere then "cannot execute: required file not found" else reason e)
    return 127
  else
    let e := if isDirectory s.world.files name then .isDirectory else e
    warnPlainly (full ++ ": " ++ reason e)
    warn (full ++ ": cannot execute: " ++ reason e)
    return 126

/-- Lets a program take the place of an extended shell. -/
def furtherInstead (r : Runner) (args : List String) : Act Nat := do
  match ← Usage.options "exec" "cla:" args with
  | none => return 2
  | some (_, []) => return 0
  | some (given, name :: args) =>
    match ← program name with
    | .error e =>
      let status ← notReplaced name e
      if (← getShell).customs.contains "execfail" then return status
      else
        done status
        throw .exit
    | .ok found =>
      if given.any (·.1 == 'c') then
        change fun s => { s with store := s.store.map fun (name, v) =>
          (name, { v with exported := false }) }
      let called := ((given.find? (·.1 == 'a')).map (·.2)).getD found.name
      let called := if given.any (·.1 == 'l') then "-" ++ called else called
      descend
      let status ← r.started { found with name := called } args
      replacedBy status

/-! ## Commands of the shell itself -/

/-- Tells what a name means, or does nothing. -/
def told (args : List String) : Act Nat := do
  let (given, words) ← Builtin.options "pvV" args
  match given.getLast?, words with
  | some ('v', _), word :: _ => Builtin.brief word
  | some ('V', _), word :: _ => Builtin.type [word]
  | _, _ => return 0

/-- Tells what names mean in an extended shell, or does nothing. -/
def furtherTold (args : List String) : Act Nat := do
  match ← Usage.options "command" "pvV" args with
  | none => return 2
  | some (given, words) =>
    if words.isEmpty || given.all (·.1 == 'p') then return 0
    else Further.describe (given.any (·.1 == 'V')) words

/-- Does what a command of the shell itself does. -/
def ownAction (r : Runner) (m : Manner) (name : String) (args : List String) : Act Nat :=
  match Builtin.action? name, name, args with
  | some action, _, args => action args
  | none, "wait", args => r.wait args
  | none, "eval", args => if args.isEmpty then pure 0 else r.evaluated m args
  | none, ".", file :: _ => r.sourced file
  | none, "exec", name :: args => r.instead name args
  | none, "command", args => told args
  | none, _, _ => pure 0

/-- Does what a command of an extended shell does. -/
def furtherAction (r : Runner) (m : Manner) (name : String) (args : List String) : Act Nat :=
  match name with
  | "wait" => r.furtherWait args
  | "eval" => r.furtherEvaluated m args
  | "." | "source" => r.furtherSourced name args
  | "exec" => r.furtherInstead args
  | "command" => furtherTold args
  | name => match Further.action? name with
    | some action => action args
    | none => pure 0

/-- Does what a command of an extended shell does that may be named by another one. -/
def namedAction (r : Runner) (m : Manner) (name : String) (args : List String) : Act Nat := do
  match name, args with
  | "builtin", [] => return 0
  | "builtin", name :: args =>
    if Further.has name then
      change fun s => { s with command := some name }
      r.furtherAction m name args
    else
      warn (name ++ ": not a shell builtin")
      return 1
  | name, args => r.furtherAction m name args

/-- The commands whose mistakes are those of the text that they run. -/
def reading : List String := ["eval", "source", "."]

/-- Runs a command of the shell itself; its mistakes end the shell if `ends`. -/
def own (r : Runner) (m : Manner) (ends : Bool) (name : String) (args : List String) :
    Act Unit := do
  let s ← getShell
  change fun t => { t with command := some name }
  let action := if s.extended then r.namedAction m name args else r.ownAction m name args
  let inner : Act Unit := do done (← action)
  let after (t : Session) : Session := { t with shell := { t.shell with command := s.command } }
  let ends := ends || (s.extended && reading.contains name)
  fun s => match inner s with
    | .error .fault t => if ends then .error .fault (after t) else .ok () (after t)
    | .ok _ t => .ok () (after t)
    | .error h t => .error h (after t)

/-! ## Functions -/

/-- Runs the body of a function, and goes on behind it if it is left early. -/
def bodyOf (r : Runner) (m : Manner) (body : Command) : Act Unit := fun s =>
  match r.command { tested := m.tested } body s with
  | .error .back t => .ok () t
  | other => other

/-- Runs a function. -/
def function (r : Runner) (m : Manner) (line : Nat) (body : Command) (args : List String) :
    Act Unit := do
  let s ← getShell
  change fun s => { s with params := args, loops := 0, origin := line, within := 0 }
  thenAlways (r.bodyOf m body) fun t => { t with shell := { t.shell with
    params := s.params, loops := s.loops, origin := s.origin, within := s.within } }

/-- Runs a function of an extended shell. -/
def furtherFunction (r : Runner) (m : Manner) (name : String) (body : Command)
    (args : List String) : Act Unit := do
  let s ← getShell
  let old := if s.has 'T' then none else s.traps.lookup State.goingBack
  let usual := if s.given.isSome then "environment" else s.name
  change fun t => { t with
    params := args
    loops := 0
    calls := name :: t.calls
    source := some (t.source.getD usual)
    traps := if s.has 'T' then t.traps else t.traps.filter fun (k, _) => k != State.goingBack }
  let inner : Act Unit := do
    r.bodyOf m body
    r.react State.goingBack
  thenAlways inner fun t =>
    let traps := match old, t.shell.traps.lookup State.goingBack with
      | some action, none => (State.goingBack, action) :: t.shell.traps
      | _, _ => t.shell.traps
    { t with shell := { t.shell with
      params := s.params, loops := s.loops, calls := s.calls, source := s.source, line := s.line
      traps } }

/-! ## Simple commands -/

/-- The sign in front of a command that is shown. -/
def signOf (r : Runner) : Act String := do
  let s ← getShell
  let sign := (s.valueOf? "PS4").getD ""
  let lead ← match (Script.parts (8 * sign.length + 16) .document).run (source sign) with
    | .ok word _ =>
      change fun s => { s with options := s.options.filter (· != 'x') }
      let lead ← r.textOfWord .document word
      change fun s => { s with options := 'x' :: s.options }
      pure lead
    | .error _ _ => pure sign
  let again := if s.extended then List.replicate (s.depth - 1) (lead.toList.headD '+') else []
  return String.ofList again ++ lead

/-- Shows a line before something is run, if the option says so. -/
def traceLine (r : Runner) (streams : List (Nat × Nat)) (text : String) : Act Unit := do
  if (← getShell).has 'x' then
    let sign ← r.signOf
    match streams.lookup 2 with
    | some channel =>
      let (_, world) := (← get).world.write channel (Text.encode (sign ++ text ++ "\n"))
      modify fun s => { s with world }
    | none => pure ()

/-- Shows a line, if the option says so. -/
def traceHere (r : Runner) (text : String) : Act Unit := do
  r.traceLine (← getShell).streams text

/-- Shows a command before it is run, if the option says so. -/
def trace (r : Runner) (streams : List (Nat × Nat)) (given words : List String) : Act Unit :=
  r.traceLine streams (" ".intercalate (given ++ words))

/-- A word as an extended shell shows it before a command is run. -/
def shownWord (word : String) : String := if word.isEmpty then "''" else Quotation.asNeeded word

/-- Shows the words of a command of an extended shell. -/
def traceWords (r : Runner) (streams : List (Nat × Nat)) (words : List String) : Act Unit := do
  let s ← getShell
  if s.has 'x' then
    for (lead, items) in s.lists.reverse do
      let item (i : Item) : String := match i.key with
        | some key => "[" ++ Quotation.single key ++ "]=" ++ Quotation.single i.text
        | none => Quotation.single i.text
      r.traceLine streams (lead ++ "(" ++ " ".intercalate (items.map item) ++ ")")
    let shown := words.map fun word => match s.lists.lookup word with
      | some _ => (Builtin.binding word).1
      | none => shownWord word
    r.traceLine streams (" ".intercalate shown)
    if ["export", "readonly"].contains (words.headD "") then
      for word in words.tail do
        match Builtin.binding word with
        | (name, some value) =>
          if (s.lists.lookup word).isNone then
            r.traceLine streams (name ++ "=" ++ Quotation.asNeeded value)
        | (_, none) => pure ()

/-- What the first word of a command is. -/
inductive Kind where
  | function (line : Nat) (body : Command)
  /-- a command of the shell; its mistakes end the shell if `special` -/
  | own (special : Bool)
  | external

/-- What a name is; functions count unless `direct`. -/
def kindOf (s : State) (direct : Bool) (name : String) : Kind :=
  match if direct then none else s.functions.lookup name with
  | some (line, body) => .function line body
  | none =>
    if s.extended then (if Further.has name then .own false else .external)
    else if Builtin.has name then .own (!direct && Builtin.special.contains name) else .external

/-- Runs what the words of a command say. -/
def obey (r : Runner) (m : Manner) (direct : Bool) (command : List String) : Act Unit := do
  let s ← getShell
  match command with
  | [] => done 0
  | name :: args =>
    match kindOf s direct name with
    | .function line body =>
      if s.extended then r.furtherFunction m name body args else r.function m line body args
    | .own special => r.own m special name args
    | .external => r.external m name args

/-- Runs a simple command. -/
def simple (r : Runner) (m : Manner) (assignments : List Assignment) (words : List Word)
    (redirects : List Redirect) : Act Unit := do
  let all ← r.fields [] words
  let targets ← r.targets redirects
  let s ← getShell
  let (direct, command) := behindCommands all
  let kind := command.head?.map (kindOf s direct)
  let isSpecial := match kind with
    | some (.own special) => special
    | _ => false
  let isFunction := match kind with
    | some (.function _ _) => true
    | _ => false
  let act : Act Unit := do
    if all.isEmpty then done (← getShell).substituted
    else r.obey m direct command
  let body : Act Unit := do
    if !(← Expansion.redirectAll targets) then
      done 2
      if isSpecial then throw .fault
    else if isFunction || !(assignments.isEmpty || isSpecial || all.isEmpty) then
      withHidden do
        let given ← r.assignAllHidden assignments
        r.trace s.streams given all
        act
    else
      let given ← r.assignAll assignments
      if command.head? == some "exec" then
        for .mk name _ _ _ in assignments do
          change fun s => s.put name { (s.holding? name).getD { value := none } with
            exported := true }
      r.trace s.streams given all
      act
  if isSpecial && command = ["exec"] then body else withStreams body

/-- Gives variables values and shows that. -/
def furtherAssign (r : Runner) : List Assignment → Act Unit
  | [] => return
  | binding :: rest => do
    let text ← r.assignOne binding
    let isList := match binding with
      | .mk _ _ _ [.list _] => true
      | _ => false
    r.traceHere (if isList then binding.written else text)
    furtherAssign r rest

/-- Runs a simple command of an extended shell. -/
def furtherSimple (r : Runner) (m : Manner) (assignments : List Assignment) (words : List Word)
    (redirects : List Redirect) : Act Unit := r.withPaths do
  change fun s => { s with lists := [] }
  if isNoticed (← getShell) State.beginning then r.provoke State.beginning
  let streams := (← getShell).streams
  let all ← r.fields [] words
  let (direct, command) := behindCommands all
  let redirected (act : Act Unit) : Act Unit := do
    let targets ← r.targets redirects
    if ← Expansion.redirectAll targets then act else done 1
  if all.isEmpty then
    withStreams <| redirected do
      r.furtherAssign assignments
      done (← getShell).substituted
    change fun s => s.putAs "_" { value := some "" }
  else
    let m := { m with descends := m.descends && redirects.isEmpty }
    let body : Act Unit := do
      r.traceWords streams all
      redirected (r.obey m direct command)
    let isFunction := match command.head?.map (kindOf (← getShell) direct) with
      | some (.function _ _) => true
      | _ => false
    let given : Act Unit :=
      if assignments.isEmpty && !isFunction then body
      else withHidden do
        let given ← r.assignAllHidden assignments
        for text in given do r.traceLine streams text
        body
    if command = ["exec"] then given else withStreams given
    change fun s => s.putAs "_" { value := some (all.getLastD "") }

end Runner

end Fleet.Shell

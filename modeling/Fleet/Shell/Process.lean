import Fleet.Shell.Expansion
import Fleet.Shell.Naming

namespace Fleet.Shell

/-! # Shells and programs side by side

How a shell begins, what it hands to the programs that it starts, and what it takes over from them.
-/

/-- How a command is run. -/
structure Manner where
  /-- nothing is done after it, so a program may take the place of the shell -/
  exits : Bool := false
  /-- its status is looked at -/
  tested : Bool := false
  /-- an extended shell stands one level lower when a program takes its place -/
  descends : Bool := false

/-- How a loop goes on after a round. -/
inductive Round where
  | next
  | finished
  | out (h : Halt)

namespace Process

open Session

/-- The status that a command has whose process has ended. -/
def codeOf : ExitStatus → Nat
  | .exited code => code
  | .killed signal _ => 128 + signal

/-- Runs one round of a loop. -/
def round (body : Act Unit) : Act Round := fun s =>
  match body s with
  | .ok _ t => .ok .next t
  | .error (.leave loops again) t =>
    if 1 < loops then .ok (.out (.leave (loops - 1) again)) t
    else .ok (if again then .next else .finished) t
  | .error h t => .error h t

/-- Does something, after which the streams are as they were. -/
def withStreams {α : Type} (body : Act α) : Act α := do
  let streams := (← getShell).streams
  thenAlways body fun s => { s with shell := { s.shell with streams } }

/-- Does something inside a loop. -/
def inLoop (body : Act Unit) : Act Unit := do
  let loops := (← getShell).loops
  change fun s => { s with loops := loops + 1 }
  thenAlways body fun s => { s with shell := { s.shell with loops } }

/-- Gives hidden variables their old values back. -/
def restored (s : State) (hidden : List (String × Option Variable)) : State :=
  hidden.foldl (fun s (name, old) => match old with
    | some v => s.put name v
    | none => s.without name) s

/-- Does something with variables that are hidden until its end. -/
def withHidden {α : Type} (body : Act α) : Act α := do
  let frames := (← getShell).hidden
  change fun s => { s with hidden := [] :: s.hidden }
  thenAlways body fun s =>
    let s' := restored s.shell (s.shell.hidden.headD [])
    { s with shell := { s' with hidden := frames } }

/-- Gives a variable a value that is hidden again. -/
def assignHidden (name value : String) : Act Unit := do
  change fun s => match s.hidden with
    | frame :: others => { s with hidden := ((name, s.holding? name) :: frame) :: others }
    | [] => s
  assign name value
  change fun s => s.put name { (s.holding? name).getD { value := none } with exported := true }

/-- What a program is called with that this shell starts; an extended shell tells it its path. -/
def invocation (name path : String) (args : List String) : Act Invocation := do
  let s ← get
  let given := (s.shell.streams.lookup 0).bind fun channel =>
    (s.world.readable channel).toOption
  let (input, isFile) := given.getD ([], false)
  let further := s.shell.streams.filterMap fun (n, channel) =>
    if n < 3 then none
    else (s.world.readable channel).toOption.map fun (bytes, _) => (n, bytes)
  return {
    program := name
    args
    input
    isFile
    further
    env := if s.shell.extended then s.shell.environment ++ [("_", path)] else s.shell.environment
    files := s.world.files
    deadline := if s.shell.isLate then none else s.world.timeLeft }

/-- Writes what a program has written, as far as that is possible. -/
def deliver (name : String) : Bool → List (Bool × List UInt8) → Act Bool
  | good, [] => return good
  | good, (isError, bytes) :: rest => do
    match ← write (if isError then 2 else 1) bytes with
    | some e =>
      if good && !isError then
        let _ ← write 2 (Text.encode (name ++ ": write error: " ++ reason e ++ "\n"))
      deliver name (good && isError) rest
    | none => deliver name good rest

/-- Takes over what a program has left. -/
def takeOver (name : String) (ended : Ended) : Act ExitStatus := do
  let cwd := (← get).world.files.cwd
  let shell ← getShell
  changeWorld fun w =>
    let w := { w with files := { ended.files with cwd }, slept := w.slept + ended.slept }
    match shell.streams.lookup 0 with
    | some channel => w.passed channel ended.taken
    | none => w
  fun s => match deliver name true ended.output s with
    | .ok good t =>
      .ok (if !good && ended.status == .exited 0 then .exited 1 else ended.status) t
    | .error (.killed signal) t => .ok (.killed signal) t
    | .error h t => .error h t

/-- The words of a command behind those that say how it is looked for, if there are such. -/
def behindOptions : List String → Option (List String)
  | "-p" :: rest => behindOptions rest
  | "--" :: rest => some rest
  | word :: rest =>
    if word.toList.head? == some '-' && word ≠ "-" then none else some (word :: rest)
  | [] => none

/-- Passes the words that say that a command is not looked for among functions: whether there are
any, and the words behind them. -/
def behindFrom : Nat → List String → Bool × List String
  | 0, words => (false, words)
  | n + 1, words =>
    match words with
    | "command" :: rest =>
      match behindOptions rest with
      | some (word :: more) => (true, (behindFrom n (word :: more)).2)
      | _ => (false, words)
    | words => (false, words)

/-- Passes the words that say that a command is not looked for among functions. -/
def behindCommands (words : List String) : Bool × List String :=
  behindFrom words.length words

/-- The words behind these are not split if they are assignments. -/
def declares (words : List String) : Bool :=
  match (behindCommands words).2 with
  | name :: _ => ["alias", "export", "readonly", "local"].contains name
  | [] => false

/-- Finds the script that a name in a path stands for. -/
def scriptNamed (name : String) : Act String := do
  if name.toList.contains '/' then return name
  else
    let s ← get
    let path := (s.shell.valueOf? "PATH").getD ""
    let dirs := (Text.splitOn ':' path.toList).map String.ofList
    let paths := dirs.map fun dir => if dir.isEmpty then name else (Path.mk dir / name).text
    let isFile (p : String) : Bool := match s.world.files.status ⟨p⟩ with
      | .ok (_, .file _ _) => true
      | _ => false
    match paths.find? isFile with
    | some p => return p
    | none => fail (name ++ ": not found")

/-- The path that a name stands for in a path of directories. -/
def pathOf (env : Variables) (files : FileSystem) (name : String) : String :=
  if name.toList.contains '/' then name
  else
    let dirs := (Text.splitOn ':' ((env.lookup "PATH").getD "").toList).map String.ofList
    let paths := dirs.map fun dir => if dir.isEmpty then name else (Path.mk dir / name).text
    (paths.find? fun p => files.isPresent ⟨p⟩).getD name

/-- A path leads to a directory. -/
def isDirectory (files : FileSystem) (path : String) : Bool :=
  match files.status ⟨path⟩ with
  | .ok (_, node) => node.isDirectory
  | .error _ => false

/-- Tells why a program cannot be started: the status. -/
def notStarted (name : String) (e : IoError) : Act Nat := do
  let s ← get
  let isPath := name.toList.contains '/'
  if !s.shell.extended then warn (name ++ ": " ++ Expansion.reasonOf "not found" e)
  else if e = .denied && isDirectory s.world.files name && isPath then
    warnPlainly (name ++ ": " ++ reason .isDirectory)
  else if isPath then
    let isThere := (s.world.files.status ⟨name⟩).toOption.isSome
    warnPlainly (name ++ ": " ++ if e = .noEntry && isThere then
      "cannot execute: required file not found" else reason e)
  else if e = .noEntry || e = .nameTooLong then warnPlainly (name ++ ": command not found")
  else
    let path := (s.shell.valueOf? "PATH").getD ""
    warnPlainly (pathOf [("PATH", path)] s.world.files name ++ ": " ++ reason e)
  return if e = .noEntry || e = .notDirectory || e = .linkLoop || e = .nameTooLong then 127 else 126

/-- Finds a program for a shell; a file that names no interpreter is read by a shell. -/
def program (name : String) : Act (Except IoError Program.Found) := do
  let s ← get
  let path := (s.shell.valueOf? "PATH").getD ""
  match Program.find s.world.files path name with
  | .ok found => return .ok found
  | .error e =>
    if e = .notProgram then
      let file := pathOf [("PATH", path)] s.world.files name
      return .ok { program := .shell s.shell.extended, name := s.shell.name, lead := [file], path := file }
    else return .error e

end Process

end Fleet.Shell

import Fleet.Shell.Usage

namespace Fleet.Shell

/-! # Directories of an extended shell

The commands that go to directories, and those that keep directories to come back to.
-/

namespace Directories

open Session

/-- Why it is not possible to go to a directory. -/
def refusal (fs : FileSystem) (path : String) : String :=
  match fs.status ⟨path⟩ with
  | .ok _ => reason .notDirectory
  | .error e => reason e

/-- The places where a directory is looked for. -/
def places (s : State) (word : String) : List String :=
  let fixed := FileSystem.startsAtRoot word ||
    [".", ".."].contains ((FileSystem.names word).headD "") || word.isEmpty
  if fixed then [""]
  else match s.valueOf? "CDPATH" with
    | some path => (Text.splitOn ':' path.toList).map String.ofList ++ [""]
    | none => [""]

/-- Goes to a directory that is named: the place where it was found. -/
def goTo (physical : Bool) (word : String) : Act (Option String) := do
  let s ← getShell
  let gone ← (places s word).foldlM (fun (gone : Option String) place => do
    if gone.isSome then return gone
    else
      let target := if place.isEmpty then word else (Path.mk place / word).text
      let isThere ← Builtin.goTo physical (if target.isEmpty then "." else target)
      return if isThere then some place else none) none
  if gone.isNone then warn (word ++ ": " ++ refusal (← get).world.files word)
  return gone

/-- Goes to a directory. -/
def cd : Builtin.Action := fun args => do
  match ← Usage.options "cd" "LPe@" args with
  | none => return 2
  | some (given, words) =>
    let physical := (given.filter fun (c, _) => c == 'L' || c == 'P').getLast?.any (·.1 == 'P')
    let s ← getShell
    if 1 < words.length then
      warn "too many arguments"
      return 1
    else
      let wanted : Except String (String × Bool) := match words with
        | "-" :: _ => ((s.valueOf? "OLDPWD").map fun dir => (dir, true)).elim
            (.error "OLDPWD not set") .ok
        | word :: _ => .ok (word, false)
        | [] => ((s.valueOf? "HOME").map fun dir => (dir, false)).elim (.error "HOME not set") .ok
      match wanted with
      | .error text =>
        warn text
        return 1
      | .ok (word, isTold) =>
        match ← goTo physical word with
        | none => return 1
        | some place =>
          if isTold || !place.isEmpty then Usage.printLines [(← getShell).directory] else return 0

/-- Tells the directory. -/
def pwd : Builtin.Action := fun args => do
  match ← Usage.options "pwd" "LP" args with
  | none => return 2
  | some (given, _) =>
    if given.getLast?.any (·.1 == 'P') then
      Usage.printLines [(FileSystem.pathOf (← get).world.files.cwd).text]
    else Usage.printLines [(← getShell).directory]

/-- A directory with a short sign for the home at its start. -/
def shortened (s : State) (dir : String) : String :=
  match s.valueOf? "HOME" with
  | some home =>
    let rest := dir.toList.drop home.length
    if !home.isEmpty && home.toList.isPrefixOf dir.toList &&
        (rest.isEmpty || rest.head? == some '/') then "~" ++ String.ofList rest
    else dir
  | none => dir

/-- The directory and those that are kept. -/
def all (s : State) : List String := s.directory :: s.stack

/-- Tells the directory and those that are kept. -/
def tell : Act Nat := do
  let s ← getShell
  Usage.printLines [" ".intercalate ((all s).map (shortened s))]

/-- The place that a word names, counted from one of the ends. -/
def placeOf? (count : Nat) (word : String) : Option (Option Nat) :=
  match word.toList with
  | '+' :: digits => (Number.natural? (String.ofList digits)).map fun n =>
      if n < count then some n else none
  | '-' :: digits => (Number.natural? (String.ofList digits)).map fun n =>
      if n < count then some (count - 1 - n) else none
  | _ => none

/-- Complains about a place that there is not. -/
def noPlace (s : State) (word : String) : Act Nat := do
  warn (if s.stack.isEmpty then "directory stack empty"
    else word ++ ": directory stack index out of range")
  return 1

/-- Shows the directories that are kept. -/
def dirs : Builtin.Action := fun args => do
  let s ← getShell
  let flags := args.flatMap fun a => if a.toList.head? == some '-' then a.toList.drop 1 else []
  let isPlace (a : String) : Bool := (placeOf? 0 a).isSome
  match args.find? fun a => !isPlace a &&
      !(a.toList.head? == some '-' && (a.toList.drop 1).all ['c', 'l', 'p', 'v'].contains) with
  | some bad =>
    warn (bad ++ if bad.toList.head? == some '-' then ": invalid number" else ": invalid option")
    Usage.told "dirs"
  | none =>
    if flags.contains 'c' then
      change fun s => { s with stack := [] }
      return 0
    else
      let shown := (all s).map fun d => if flags.contains 'l' then d else shortened s d
      match args.find? isPlace with
      | some word =>
        match placeOf? shown.length word with
        | some (some n) => Usage.printLines [shown.getD n ""]
        | _ => noPlace s word
      | none =>
        if flags.contains 'v' then
          Usage.printLines (shown.zipIdx.map fun (d, n) =>
            (if n < 10 then " " else "") ++ toString n ++ "  " ++ d)
        else if flags.contains 'p' then Usage.printLines shown
        else Usage.printLines [" ".intercalate shown]

/-- Goes to the first of some directories and keeps the others. -/
def goAmong (dirs : List String) : Act Nat := do
  match dirs with
  | [] => return 0
  | dir :: rest =>
    match ← goTo false dir with
    | none => return 1
    | some _ =>
      change fun s => { s with stack := rest }
      tell

/-- Goes to a directory and keeps the one before. -/
def pushd : Builtin.Action := fun args => do
  let s ← getShell
  let dirs := all s
  match args with
  | [] =>
    match s.stack with
    | [] =>
      warn "no other directory"
      return 1
    | dir :: rest => goAmong (dir :: s.directory :: rest)
  | word :: _ =>
    match placeOf? dirs.length word with
    | some (some n) => goAmong (dirs.drop n ++ dirs.take n)
    | some none => noPlace s word
    | none =>
      if word.toList.head? == some '-' && word ≠ "-" then
        warn (word ++ ": invalid number")
        Usage.told "pushd"
      else goAmong (word :: dirs)

/-- Goes back to a directory that was kept, or forgets one. -/
def popd : Builtin.Action := fun args => do
  let s ← getShell
  let dirs := all s
  match args with
  | [] =>
    if s.stack.isEmpty then noPlace s "" else goAmong s.stack
  | word :: _ =>
    match placeOf? dirs.length word with
    | some (some 0) => if s.stack.isEmpty then noPlace s "" else goAmong s.stack
    | some (some n) =>
      change fun s => { s with stack := (s.stack.take (n - 1)) ++ s.stack.drop n }
      tell
    | some none => noPlace s word
    | none =>
      warn (word ++ ": invalid number")
      Usage.told "popd"

end Directories

end Fleet.Shell

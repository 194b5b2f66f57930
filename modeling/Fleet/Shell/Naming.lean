import Fleet.Shell.Permission
import Fleet.Shell.Signal
import Fleet.Shell.Token

namespace Fleet.Shell

/-! # What names mean

The commands that tell and change what the name of a command means, and all commands of the shell
itself that run no others, by name.
-/

namespace Builtin

open Session

/-- Gives words a text that is read in their place, or shows such words. -/
def aliasing : Action := fun args => do
  let s ← getShell
  let shown (entry : String × String) : String := entry.1 ++ "=" ++ quoted entry.2
  if args.isEmpty then
    printLines ((s.aliases.mergeSort fun a b => notBehind a.1 b.1).map shown)
  else
    let mut status := 0
    for word in args do
      match binding word with
      | (name, some text) =>
        change fun s => { s with
          aliases := (name, text) :: s.aliases.filter fun (n, _) => n != name }
      | (name, none) =>
        match s.aliases.lookup name with
        | some text =>
          let _ ← printLines [shown (name, text)]
        | none =>
          let _ ← write 2 (Text.encode ("alias: " ++ name ++ " not found\n"))
          status := 1
    return status

/-- Forgets such words. -/
def unaliasing : Action := fun args => do
  let (given, words) ← options "a" args
  if !given.isEmpty then
    change fun s => { s with aliases := [] }
    return 0
  else
    let mut status := 0
    for name in words do
      if ((← getShell).aliases.lookup name).isNone then
        let _ ← write 2 (Text.encode ("unalias: " ++ name ++ " not found\n"))
        status := 1
      change fun s => { s with aliases := s.aliases.filter fun (n, _) => n != name }
    return status

/-- The letters of a mask of permissions. -/
def maskLetters (mask : Nat) : String :=
  let letters (n : Nat) : String :=
    let left := [(4, 'r'), (2, 'w'), (1, 'x')].filter fun (b, _) => Nat.land n b == 0
    String.ofList (left.map (·.2))
  "u=" ++ letters (mask / 64 % 8) ++ ",g=" ++ letters (mask / 8 % 8) ++ ",o=" ++ letters (mask % 8)

/-- The mask of permissions, which has no effect on files. -/
def mask : Action := fun args => do
  let (given, words) ← options "S" args
  let old := (← getShell).mask
  match words with
  | [] =>
    printLines [if given.isEmpty then String.ofList (Printing.digits 8 4 old false)
      else maskLetters old]
  | word :: _ =>
    let isNumber := (word.toList.head?).any Char.isDigit
    let asked := if isNumber then
        (Number.magnitude? 8 word.toList).bind fun (n, rest) =>
          if rest.isEmpty then some n else none
      else (Permission.after? false word (511 - old)).map (511 - ·)
    match asked with
    | some n =>
      change fun s => { s with mask := n % 512 }
      return 0
    | none => fail ((if isNumber then "Illegal number: " else "Illegal mode: ") ++ word)

/-- Tells the limits of the shell, of which there are none. -/
def limit : Action := fun args => do
  let (_, words) ← options "HSatfdscmlpnvwr" args
  if words.isEmpty then printLines ["unlimited"] else return 0

/-- Tells how much time was used. -/
def times : Action := fun _ =>
  printLines ["0m0.000000s 0m0.000000s", "0m0.000000s 0m0.000000s"]

/-- The commands of the shell itself that run no others. -/
def all : List (String × Action) :=
  [(":", fun _ => return 0), ("true", fun _ => return 0), ("false", fun _ => return 1),
    ("echo", echo), ("printf", printf), ("test", test), ("[", bracket), ("exit", exit),
    ("return", back), ("break", leave false), ("continue", leave true),
    ("export", mark "export" (·.exported) fun v => { v with exported := true }),
    ("readonly", mark "readonly" (·.readOnly) fun v => { v with readOnly := true }),
    ("local", hide), ("unset", unset), ("shift", shift), ("set", set), ("getopts", getOptions),
    ("read", read), ("cd", goToDirectory), ("chdir", goToDirectory), ("pwd", workingDirectory),
    ("kill", Signal.kill), ("trap", Signal.trap), ("alias", aliasing), ("unalias", unaliasing),
    ("umask", mask), ("ulimit", limit), ("times", times), ("jobs", Jobs.list),
    ("fg", Jobs.moving false), ("bg", Jobs.moving true)]

/-- The shell itself has a command of the name. -/
def has (name : String) : Bool :=
  ["hash", "type"].contains name || running.contains name || (all.lookup name).isSome

/-- The program of a name that a shell finds. -/
def found? (name : String) : Act (Option String) := do
  let s ← get
  let path := (s.shell.valueOf? "PATH").getD ""
  match Program.find s.world.files path name with
  | .ok found => return some found.path
  | .error e =>
    return if e = .notProgram then some name else none

/-- Looks for programs; where they are is not remembered. -/
def looking : Action := fun args => do
  let (given, words) ← options "r" args
  let mut status := 0
  for word in words do
    let isKnown := has word || ((← getShell).functions.lookup word).isSome
    if given.isEmpty && !isKnown && (← found? word).isNone then
      warn (word ++ ": not found")
      status := 1
  return status

/-- What a name means, as it is told. -/
def meaning (name : String) : Act (Option String) := do
  let s ← getShell
  if Token.keywords.contains name then return some "is a shell keyword"
  else match s.aliases.lookup name with
  | some text => return some ("is an alias for " ++ text)
  | none =>
    if (s.functions.lookup name).isSome then return some "is a shell function"
    else if special.contains name then return some "is a special shell builtin"
    else if has name then return some "is a shell builtin"
    else return (← found? name).map ("is " ++ ·)

/-- Tells what names mean. -/
def type : Action := fun args => do
  let mut status := 0
  for name in args do
    match ← meaning name with
    | some text =>
      let _ ← printLines [name ++ " " ++ text]
    | none =>
      let _ ← printLines [name ++ ": not found"]
      status := 127
  return status

/-- Tells briefly what a name means. -/
def brief (name : String) : Act Nat := do
  let s ← getShell
  if Token.keywords.contains name then printLines [name]
  else match s.aliases.lookup name with
  | some text => printLines ["alias " ++ name ++ "=" ++ quoted text]
  | none =>
    if (s.functions.lookup name).isSome || has name then printLines [name]
    else match ← found? name with
    | some p => printLines [p]
    | none => return 127

/-- The command of a name, if the shell itself has one that runs no others. -/
def action? (name : String) : Option Action :=
  [("hash", looking), ("type", type)].lookup name <|> all.lookup name

end Builtin

end Fleet.Shell

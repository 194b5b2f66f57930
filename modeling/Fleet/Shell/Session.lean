import Fleet.Shell.Cells
import Fleet.Shell.Command
import Fleet.Shell.World
import Fleet.Shell.Written

namespace Fleet.Shell

/-! # The state of a shell

What a shell knows between two commands, and the ways in which commands are left.
-/

/-- A variable; it may be known without having a value. -/
structure Variable where
  /-- its value; that of the first key if it has many -/
  value : Option String
  exported : Bool := false
  readOnly : Bool := false
  /-- its values if it is a list -/
  cells : Option Cells := none
  /-- what becomes of every value that it is given: `i` if it is worked out, `l` or `u` if its
  letters become small or large -/
  traits : List Char := []
  /-- it is a list that was never given values -/
  untouched : Bool := false

namespace Variable

/-- The variable with a list of values. -/
def withCells (v : Variable) (cells : Cells) : Variable :=
  { v with cells := some cells, value := cells.get? "0", untouched := false }

/-- The variable with another value, which is put at the first key if there are many. -/
def withValue (v : Variable) (text : String) : Variable :=
  match v.cells with
  | some cells => v.withCells (cells.put "0" text)
  | none => { v with value := some text }

/-- The keys and values. -/
def entries (v : Variable) : List (String × String) :=
  match v.cells with
  | some cells => cells.entries
  | none => v.value.toList.map fun text => ("0", text)

/-- The keys are names. -/
def isNamed (v : Variable) : Bool := v.cells.any Cells.isNamed

/-- The value of a key. -/
def at? (v : Variable) (key : String) : Option String :=
  match v.cells with
  | some cells => cells.get? key
  | none => if key = "0" then v.value else none

end Variable

/-- An item of a list that a variable is given: a place, if one is named, and the value there, which
may be added to the one it has. -/
structure Item where
  key : Option String := none
  adds : Bool := false
  text : String
  deriving DecidableEq, Repr

/-- A shell between two commands. -/
structure State where
  name : String := "sh"
  params : List String := []
  /-- the variables, oldest first -/
  store : List (String × Variable) := []
  /-- the functions, each with the line where it begins -/
  functions : List (String × Nat × Command) := []
  aliases : List (String × String) := []
  /-- the letters of the options that are on -/
  options : List Char := []
  /-- what is done at a signal, or at the end -/
  traps : List (Nat × String) := []
  /-- signals that came and are yet to be dealt with -/
  pending : List Nat := []
  status : Nat := 0
  /-- the status of the last substitution in the command that is being run -/
  substituted : Nat := 0
  line : Nat := 1
  /-- the line where the function that is being run begins, and the name of the command -/
  origin : Nat := 1
  command : Option String := none
  /-- the channels of the streams -/
  streams : List (Nat × Nat) := []
  /-- how many loops are being run -/
  loops : Nat := 0
  /-- the variables that functions hide, those of the innermost first -/
  hidden : List (List (String × Option Variable)) := []
  /-- the directory as it was named -/
  directory : String := "/"
  pid : Nat
  /-- the process that was started first -/
  root : Nat
  lastJob : Option Nat := none
  /-- the permissions that new files are not to have -/
  mask : Nat := 18
  /-- how far into a word `getopts` has come -/
  within : Nat := 0
  /-- the exit trap is being run, with this status -/
  leaving : Option Nat := none
  /-- the signal has come that is sent when the time is over -/
  isLate : Bool := false
  /-- it is an extended shell -/
  extended : Bool := false
  /-- how the text that is being run is called in messages, if not by the name of the shell -/
  source : Option String := none
  /-- how the text is called in messages about its form -/
  given : Option String := none
  /-- the statuses of the commands that ran side by side last -/
  statuses : List Nat := []
  /-- the functions that are being run, the innermost first -/
  calls : List String := []
  /-- further options that are on, by name -/
  customs : List String := []
  /-- the directories to go back to -/
  stack : List String := []
  /-- how many shells this one stands in -/
  nesting : Nat := 0
  /-- how many texts stand in each other that are being run -/
  depth : Nat := 1
  /-- the simple command that is being run -/
  doing : Command := .nothing
  /-- the commands that read what is written to streams which words have named, each with the sink
  of its stream, the latest first -/
  readers : List (Nat × Command) := []
  /-- the lists that words of the command stand for that is being run -/
  lists : List (String × List Item) := []

/-- A command that runs in the background; it runs when somebody waits. -/
structure Job where
  number : Nat
  pid : Nat
  shell : State
  body : Command
  /-- how long programs had slept when it was started -/
  started : Nat
  status : Option ExitStatus := none
  /-- somebody has waited for its end -/
  waited : Bool := false

/-- A shell with its jobs, in the world. -/
structure Session where
  shell : State
  jobs : List Job := []
  world : World

/-- How commands are left. -/
inductive Halt where
  /-- out of loops, or on with the next round of the last of them -/
  | leave (loops : Nat) (again : Bool)
  /-- out of a function -/
  | back
  /-- the shell ends -/
  | exit
  /-- the same, because of a mistake; an extended shell only gives up what it is doing -/
  | fault
  /-- a line of commands is given up -/
  | abandon
  | killed (signal : Nat)
  deriving DecidableEq, Repr

/-- Something that a shell does. -/
abbrev Act := EStateM Halt Session

/-! ## Variables -/

namespace State

/-- A variable of an extended shell whose value is worked out when it is asked for. -/
def computed? (s : State) (name : String) : Option Variable :=
  let number (n : Nat) : Option Variable := some { value := some (toString n), traits := ['i'] }
  let listed (values : List String) : Option Variable :=
    if values.isEmpty then none
    else some (({ value := none } : Variable).withCells (.ofValues values))
  match name with
  | "LINENO" => number s.line
  | "RANDOM" => number 16838
  | "SECONDS" => number 0
  | "BASHPID" => number s.pid
  | "BASH_SUBSHELL" => number s.nesting
  | "BASH_COMMAND" => some { value := some s.doing.written }
  | "FUNCNAME" => listed (if s.calls.isEmpty || s.given.isSome then s.calls else s.calls ++ ["main"])
  | "BASH_SOURCE" =>
    let own := if s.given.isSome then [] else [s.name]
    listed ((s.calls.map fun _ => s.source.getD s.name) ++ own)
  | "PIPESTATUS" => listed (s.statuses.map toString)
  | _ => none

/-- The name that another one stands for; `n` bounds how many stand for each other. -/
def meantFrom (s : State) : Nat → String → String
  | 0, name => name
  | n + 1, name =>
    match s.store.lookup name with
    | some v => if v.traits.contains 'n' then s.meantFrom n (v.value.getD name) else name
    | none => name

/-- The name that another one stands for. -/
def meant (s : State) (name : String) : String := s.meantFrom 8 name

/-- A variable. -/
def holding? (s : State) (name : String) : Option Variable :=
  if s.extended then
    let name := s.meant name
    s.computed? name <|> s.store.lookup name
  else s.store.lookup name

/-- The value of a variable. -/
def valueOf? (s : State) (name : String) : Option String := (s.holding? name).bind (·.value)

/-- Puts a variable of exactly this name, in its place if there is one. -/
def putAs (s : State) (name : String) (v : Variable) : State :=
  if (s.store.lookup name).isSome then
    { s with store := s.store.map fun (n, old) => (n, if n == name then v else old) }
  else { s with store := s.store ++ [(name, v)] }

/-- Puts a variable, in its place if there is one. -/
def put (s : State) (name : String) (v : Variable) : State :=
  s.putAs (if s.extended then s.meant name else name) v

/-- Takes out a variable. -/
def without (s : State) (name : String) : State :=
  { s with store := s.store.filter fun (n, _) => n != name }

/-- An option is on. -/
def has (s : State) (letter : Char) : Bool := s.options.contains letter

/-- Gives a variable a value. -/
def assigned (s : State) (name value : String) : State :=
  let old := (s.holding? name).getD { value := none }
  let s := s.put name { old.withValue value with exported := old.exported || s.has 'a' }
  if name = "OPTIND" then { s with within := 0 } else s

/-- The place of a variable among those that programs are started with. -/
def slot (name : String) : Nat :=
  let bytes := Text.encode name
  ((bytes.headD 0).toNat * 16 + (bytes.map UInt8.toNat).foldl (· + ·) 0) % 39

/-- The variables that programs are started with. -/
def environment (s : State) : Variables :=
  let exported := s.store.filterMap fun (name, v) =>
    if v.exported && v.cells.isNone && (name != "_" || !s.extended) then v.value.map fun value => (name, value) else none
  if s.extended then Cells.inBuckets (·.1) exported.reverse
  else (List.range 39).flatMap fun k => exported.filter fun (name, _) => slot name == k

/-- The characters that separate fields. -/
def separators (s : State) : String := (s.valueOf? "IFS").getD " \t\n"

/-- The letters of the options, in the order in which they are shown. -/
def optionLetters : List Char :=
  ['e', 'f', 'I', 'i', 'm', 'n', 's', 'x', 'v', 'V', 'E', 'C', 'a', 'b', 'u', 'p']

/-- The letters of the options of an extended shell, in the order in which they are shown. -/
def furtherLetters : List Char :=
  ['a', 'b', 'e', 'f', 'h', 'i', 'k', 'm', 'n', 'p', 't', 'u', 'v', 'x', 'B', 'C', 'E', 'H', 'P',
    'T', 'c', 's']

/-- The names of the options of an extended shell; those without a letter of their own have a
sign. -/
def furtherNames : List (String × Char) :=
  [("allexport", 'a'), ("braceexpand", 'B'), ("emacs", '1'), ("errexit", 'e'), ("errtrace", 'E'),
    ("functrace", 'T'), ("hashall", 'h'), ("histexpand", 'H'), ("history", '2'), ("ignoreeof", '3'),
    ("interactive-comments", '4'), ("keyword", 'k'), ("monitor", 'm'), ("noclobber", 'C'),
    ("noexec", 'n'), ("noglob", 'f'), ("nolog", '5'), ("notify", 'b'), ("nounset", 'u'),
    ("onecmd", 't'), ("physical", 'P'), ("pipefail", '6'), ("posix", '7'), ("privileged", 'p'),
    ("verbose", 'v'), ("vi", '8'), ("xtrace", 'x')]

/-- The names of the options. -/
def optionNames : List (String × Char) :=
  [("errexit", 'e'), ("noglob", 'f'), ("ignoreeof", 'I'), ("interactive", 'i'), ("monitor", 'm'),
    ("noexec", 'n'), ("stdin", 's'), ("xtrace", 'x'), ("verbose", 'v'), ("vi", 'V'),
    ("emacs", 'E'), ("noclobber", 'C'), ("allexport", 'a'), ("notify", 'b'), ("nounset", 'u'),
    ("privileged", 'p'), ("nolog", 'N'), ("debug", 'D')]

/-- The value of a parameter that is not all of them. -/
def parameter? (s : State) (name : String) : Option String :=
  match name with
  | "#" => some (toString s.params.length)
  | "?" => some (toString s.status)
  | "$" => some (toString s.root)
  | "!" => s.lastJob.map toString
  | "-" =>
    let letters := if s.extended then furtherLetters else optionLetters
    some (String.ofList (letters.filter s.has))
  | _ =>
    if name.toList.all Char.isDigit then
      match Number.natural? name with
      | some 0 => some s.name
      | some (n + 1) => s.params[n]?
      | none => none
    else s.valueOf? name

/-- The numbers of what may be waited for beside signals: that a command begins, that one fails,
and that a function goes back. -/
def beginning : Nat := 65
@[inherit_doc beginning] def failure : Nat := 66
@[inherit_doc beginning] def goingBack : Nat := 67

/-- The shell that is started beside this one: it takes no notice of the same signals. -/
def child (s : State) (pid : Nat) : State :=
  { s with
    pid
    traps := s.traps.filter fun (n, action) => action.isEmpty ||
      (n = failure && s.has 'E') || ((n = beginning || n = goingBack) && s.has 'T')
    pending := []
    leaving := none
    nesting := s.nesting + 1 }

/-- The path for the home of a user. -/
def home? (s : State) (user : String) : Option String :=
  if user.isEmpty then s.valueOf? "HOME"
  else if user = "root" then some "/root"
  else if !s.extended then none
  else if user = "+" then some s.directory
  else if user = "-" then s.valueOf? "OLDPWD"
  else none

end State

/-! ## Saying things -/

namespace Session

/-- The shell. -/
def getShell : Act State := return (← get).shell

/-- Changes the shell. -/
def change (f : State → State) : Act Unit := modify fun s => { s with shell := f s.shell }

/-- Changes the world. -/
def changeWorld (f : World → World) : Act Unit := modify fun s => { s with world := f s.world }

/-- Ends a command with a status. -/
def done (status : Nat) : Act Unit := change fun s => { s with status }

/-- Writes to a stream: whether it could be written. -/
def write (stream : Nat) (bytes : List UInt8) : Act (Option IoError) := do
  match (← getShell).streams.lookup stream with
  | none => return if bytes.isEmpty then none else some (.os 9)
  | some channel =>
    let (outcome, world) := (← get).world.write channel bytes
    modify fun s => { s with world }
    match outcome with
    | .written => return none
    | .refused e => return some e
    | .unread => throw (.killed 13)

/-- Where messages say that something happened. -/
def place (s : State) : String :=
  (if s.extended then s.source.getD s.name ++ ": line " ++ toString s.line
    else s.name ++ ": " ++ toString (s.line - (s.origin - 1))) ++ ": " ++
    match s.command with
    | some name => name ++ ": "
    | none => ""

/-- Writes a message. -/
def warn (text : String) : Act Unit := do
  let s ← getShell
  let _ ← write 2 (Text.encode (place s ++ text ++ "\n"))

/-- Writes a message and gives up. -/
def fail {α : Type} (text : String) (status : Nat := 2) : Act α := do
  warn text
  done status
  throw .fault

/-- Does something and, however it is left, something else afterwards. -/
def thenAlways {α : Type} (body : Act α) (after : Session → Session) : Act α := fun s =>
  match body s with
  | .ok a t => .ok a (after t)
  | .error h t => .error h (after t)

/-- Writes a message that does not say which command it is about. -/
def warnPlainly (text : String) : Act Unit := do
  let s ← getShell
  let _ ← write 2 (Text.encode (place { s with command := none } ++ text ++ "\n"))

/-- Writes such a message and gives up. -/
def failPlainly {α : Type} (text : String) (status : Nat := 1) : Act α := do
  warnPlainly text
  done status
  throw .fault

end Session

end Fleet.Shell

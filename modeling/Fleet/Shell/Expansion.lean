import Fleet.Shell.Arithmetic
import Fleet.Shell.Builtin

namespace Fleet.Shell

/-! # Expanding words

The parts of expanding words that run no commands: home directories, parameters, and what becomes of
the value of a parameter.
-/

/-- What a word is expanded for. -/
inductive Purpose where
  /-- any number of fields -/
  | fields
  /-- the value of a variable -/
  | value
  | text
  /-- the lines that a command reads -/
  | document
  deriving DecidableEq, Repr

namespace Expansion

open Session

/-! ## Home directories -/

/-- Puts home directories in a text, where it begins and, in values, behind colons; `ends` if
nothing stands behind the text. -/
def withHomesIn (home : String → Option String) (inValue ends : Bool) :
    Nat → Bool → List Char → List Part
  | 0, _, cs => [.text cs false]
  | _, _, [] => []
  | n + 1, true, '~' :: rest =>
    let isEnd (c : Char) : Bool := c == '/' || (inValue && c == ':')
    let user := rest.takeWhile fun c => !isEnd c
    let after := rest.drop user.length
    match if after.isEmpty && !ends then none else home (String.ofList user) with
    | some dir => .text dir.toList true :: withHomesIn home inValue ends n false after
    | none => .text ('~' :: user) false :: withHomesIn home inValue ends n false after
  | n + 1, _, c :: rest =>
    .text [c] false :: withHomesIn home inValue ends n (inValue && c == ':') rest

/-- Puts home directories in a word. -/
def withHomes (home : String → Option String) (inValue atStart : Bool) : Word → Word
  | .text cs false :: rest =>
    if cs.contains '~' then
      withHomesIn home inValue rest.isEmpty (cs.length + 1) atStart cs ++
        (if inValue then withHomes home inValue (cs.getLast? == some ':') rest else rest)
    else .text cs false ::
      (if inValue then withHomes home inValue (cs.getLast? == some ':') rest else rest)
  | part :: rest => part :: (if inValue then withHomes home inValue false rest else rest)
  | [] => []

/-! ## Values -/

/-- A value as it stands in a word. -/
def marksOf (splits quoted : Bool) (value : String) : List Mark :=
  if quoted then value.toList.map fun c => .char c true false
  else (value.toList.map fun c => .char c false splits) ++ [.edge false]

/-- All parameters as they stand in a word. -/
def marksOfAll (s : State) (star splits quoted : Bool) (values : List String) : List Mark :=
  if values.isEmpty then []
  else
    let joint : List Char := match if s.extended && !star then none else s.valueOf? "IFS" with
      | some ifs => ifs.toList.take 1
      | none => [' ']
    let mark (c : Char) : Mark := .char c quoted (splits && !quoted)
    let between : List Mark :=
      if quoted && splits && !star then [.cut]
      else if quoted || !splits then joint.map mark
      else [.char Mark.separator false true]
    let each := values.map fun v => v.toList.map mark
    (each.intersperse between).flatten ++
      (if quoted then (if splits && !star then [.edge true] else []) else [.edge false])

/-- The value of all parameters together. -/
def joined (s : State) : String :=
  let joint := match s.valueOf? "IFS" with
    | some ifs => String.ofList (ifs.toList.take 1)
    | none => " "
  joint.intercalate s.params

/-- The name stands for all parameters. -/
def isAll (name : String) : Bool := name == "@" || name == "*"

/-- A parameter has no value. -/
def isUnset (s : State) (name : String) : Bool :=
  if isAll name then s.params.isEmpty else (s.parameter? name).isNone

/-- A parameter has to have a value if the option says so. -/
def check (name : String) : Act Unit := do
  let s ← getShell
  if s.has 'u' && !isAll name && (s.parameter? name).isNone then
    fail (name ++ ": parameter not set")

/-- A parameter as it stands in a word, with a change of its value. -/
def own (purpose : Purpose) (quoted : Bool) (name : String) (change : String → String) :
    Act (List Mark) := do
  let s ← getShell
  let splits := purpose == .fields
  if isAll name then return marksOfAll s (name == "*") splits quoted (s.params.map change)
  else return marksOf splits quoted (change ((s.parameter? name).getD ""))

/-- The length of the value of a parameter, in bytes. -/
def size (s : State) (name : String) : Nat :=
  if isAll name then (joined s).utf8ByteSize else ((s.parameter? name).getD "").utf8ByteSize

/-- The number that a variable stands for. -/
def numberOf (s : State) (name : String) : Except Arithmetic.Fault Int :=
  match s.valueOf? name with
  | none => .ok 0
  | some value =>
    if value.isEmpty then .ok 0
    else match Number.ofText? 0 value with
      | some n => .ok n
      | none => .error (.noNumber value)

/-- The value of an arithmetic expression, which may change variables. -/
def arithmetic (text : String) : Act Int := do
  let (answer, bindings) := Arithmetic.evaluate (numberOf (← getShell)) text
  for (name, v) in bindings.reverse do assign name (toString v)
  match answer with
  | .ok v => return v
  | .error (.mistake what) => fail ("arithmetic expression: " ++ what ++ ": \"" ++ text ++ "\"")
  | .error (.noNumber value) => fail ("Illegal number: " ++ value)

/-! ## Redirections -/

/-- How an error of opening is told. -/
def reasonOf (missing : String) (e : IoError) : String :=
  if e = .noEntry || e = .notDirectory then missing else reason e

/-- What a redirection opens: a channel of its own, or the channel of another stream. -/
inductive Opening where
  | fresh (p : Channel)
  | same (stream : Nat)

/-- The stream that a path in the directory of streams names. -/
def streamAt? (path : String) : Option Nat :=
  match path with
  | "/dev/stdin" => some 0
  | "/dev/stdout" => some 1
  | "/dev/stderr" => some 2
  | _ =>
    if "/dev/fd/".toList.isPrefixOf path.toList then
      Number.natural? (String.ofList (path.toList.drop 8))
    else none

/-- Opens what is always there beside the files. -/
def device? (path : String) : Option (Except IoError Opening) :=
  match path with
  | "/dev/null" => some (.ok (.fresh .nowhere))
  | "/dev/zero" => some (.ok (.fresh .zeros))
  | "/dev/full" => some (.ok (.fresh .full))
  | "/dev/tty" => some (.error (.os 6))
  | _ => (streamAt? path).map fun stream => .ok (.same stream)

/-- Opens a path: what is opened, and the files. -/
def openPath (files : FileSystem) (kind : Redirection) (keeps : Bool) (path : String) :
    Except IoError (Opening × FileSystem) := do
  match device? path with
  | some opening => return (← opening, files)
  | none =>
    let there := files.status ⟨path⟩
    let channel (files : FileSystem) (reads writes appends : Bool) :
        Except IoError (Opening × FileSystem) := do
      let (loc, _) ← files.status ⟨path⟩
      return (.fresh (.file loc 0 reads writes appends), files)
    let old := (files.readFile ⟨path⟩).toOption.getD .empty
    match kind with
    | .append => channel (← files.writeFile ⟨path⟩ old) false true true
    | .readWrite => channel (← files.writeFile ⟨path⟩ old) true true false
    | .write =>
      match keeps, there with
      | true, .ok (_, .file _ _) => throw .alreadyExists
      | _, _ => channel (← files.writeFile ⟨path⟩ .empty) false true false
    | .overwrite => channel (← files.writeFile ⟨path⟩ .empty) false true false
    | _ =>
      let _ ← there
      channel files true false false

/-- Gives a stream a channel. -/
def connect (stream : Nat) (channel : Option Nat) : Act Unit :=
  change fun s =>
    let others := s.streams.filter fun (n, _) => n != stream
    { s with streams := match channel with
      | some p => (stream, p) :: others
      | none => others }

/-- A redirection whose target is known: the stream of which it makes a copy, or a text. -/
inductive Target where
  | path (kind : Redirection) (text : String)
  | stream (n : Nat)
  | closed
  | document (text : String)
  /-- there is no such target, for a reason -/
  | refused (text : String)

/-- The target that a text names. -/
def target (kind : Redirection) (text : String) : Act Target :=
  match kind with
  | .here => pure (.document text)
  | .duplicate _ =>
    match text.toList with
    | ['-'] => pure .closed
    | [c] => if c.isDigit then pure (.stream (c.toNat - '0'.toNat)) else refuse
    | _ => refuse
  | kind => pure (.path kind text)
where
  /-- Gives up. -/
  refuse : Act Target := fail "Syntax error: Bad fd number"

/-- Does one redirection: whether it could be done. -/
def redirect (stream : Nat) (t : Target) : Act Bool := do
  let s ← get
  match t with
  | .refused text =>
    warnPlainly text
    return false
  | .closed =>
    connect stream none
    return true
  | .document text =>
    let (channel, world) := s.world.opened (.source (Text.encode text))
    modify fun s => { s with world }
    connect stream (some channel)
    return true
  | .stream n => copy stream n (s.shell.streams.lookup n)
  | .path kind path =>
    match openPath s.world.files kind (s.shell.has 'C') path with
    | .ok (.fresh p, files) =>
      let (channel, world) := { s.world with files }.opened p
      modify fun s => { s with world }
      connect stream (some channel)
      return true
    | .ok (.same n, _) =>
      match s.shell.streams.lookup n with
      | some channel =>
        connect stream (some channel)
        return true
      | none =>
        if s.shell.extended then warnPlainly (path ++ ": " ++ reason .noEntry)
        else warn ("cannot open " ++ path ++ ": No such file")
        return false
    | .error e =>
      if s.shell.extended then
        warnPlainly (path ++ ": " ++
          if e = .alreadyExists then "cannot overwrite existing file" else reason e)
      else warn (if kind == .read then "cannot open " ++ path ++ ": " ++ reasonOf "No such file" e
        else "cannot create " ++ path ++ ": " ++ reasonOf "Directory nonexistent" e)
      return false
where
  /-- Makes a stream a copy of another. -/
  copy (stream n : Nat) (channel : Option Nat) : Act Bool := do
    match channel with
    | some channel =>
      connect stream (some channel)
      return true
    | none =>
      if (← getShell).extended then warnPlainly (toString n ++ ": Bad file descriptor")
      else warn (toString n ++ ": Bad file descriptor")
      return false

/-- Does redirections up to the first that cannot be done: whether all could. -/
def redirectAll : List (Nat × Target) → Act Bool
  | [] => return true
  | (stream, t) :: rest => do
    if ← redirect stream t then redirectAll rest else return false

end Expansion

end Fleet.Shell

import Fleet.ChildProcess
import Fleet.FileSystem.Operations
import Fleet.Markers
import Fleet.Shell.Number

namespace Fleet.Shell

/-! # Calling a program

A program is a function of its arguments, its input, the variables of its environment and the files.
What it writes to its two streams is kept in the order in which it is written.
-/

/-- An end that is set to a program: how long it may run, in millionths of a second, and the signal
that comes then. -/
structure Deadline where
  time : Nat
  signal : Nat
  deriving DecidableEq, Repr

/-- What a program is called with. -/
structure Invocation where
  /-- the word that called it -/
  program : String := ""
  args : List String
  input : List UInt8 := []
  /-- the input is a file, and its size is known -/
  isFile : Bool := false
  /-- what can be read from further streams, by their numbers -/
  further : List (Nat × List UInt8) := []
  env : Variables := []
  files : FileSystem
  deadline : Option Deadline := none

/-- What comes of a program: what it wrote, to the error stream or not, how it ended, the files, how
much of its input it took, and how long it slept. -/
structure Ended where
  output : List (Bool × List UInt8) := []
  status : ExitStatus := .exited 0
  files : FileSystem
  taken : Nat := 0
  slept : Nat := 0

/-- A program that is always there. -/
abbrev Utility := Invocation → Ended

namespace Ended

/-- What was written to one of the streams. -/
def stream (e : Ended) (isError : Bool) : List UInt8 :=
  e.output.flatMap fun (toErrors, bytes) => if toErrors == isError then bytes else []

end Ended

namespace Invocation

/-- A program that ends with a status. -/
def ends (i : Invocation) (code : Nat) : Ended := { status := .exited code, files := i.files }

/-- A program that writes and ends. -/
def wrote (i : Invocation) (bytes : List UInt8) (code : Nat := 0) : Ended :=
  { output := [(false, bytes)], status := .exited code, files := i.files }

/-- A program that writes a text and ends. -/
def said (i : Invocation) (text : String) (code : Nat := 0) : Ended :=
  i.wrote (Text.encode text) code

/-- A line of complaint. -/
def complaint (i : Invocation) (text : String) : Bool × List UInt8 :=
  (true, Text.encode (i.program ++ ": " ++ text ++ "\n"))

/-- A program that complains and ends. -/
def complained (i : Invocation) (text : String) (code : Nat := 1) : Ended :=
  { output := [i.complaint text], status := .exited code, files := i.files }

/-- Where to look for help. -/
def hint (i : Invocation) : Bool × List UInt8 :=
  (true, Text.encode ("Try '" ++ i.program ++ " --help' for more information.\n"))

/-- A program that was called wrongly. -/
def misused (i : Invocation) (text : String) (code : Nat := 1) : Ended :=
  { output := [i.complaint text, i.hint], status := .exited code, files := i.files }

/-- A program that needs more words. -/
def missing (i : Invocation) (what : String) (code : Nat := 1) : Ended :=
  i.misused ("missing " ++ what) code

end Invocation

/-- The text of an error without its number. -/
def reason : IoError → String
  | .os number => IoError.systemText number
  | .message text => text

/-! ## Options -/

/-- The options of a program: those that stand alone, those that take a value, those that take one
only if it is written together with them, and the long names of all. -/
structure Knowledge where
  alone : String := ""
  valued : String := ""
  optional : String := ""
  long : List (String × Char) := []

/-- The options and the words of a command line. -/
structure Options where
  given : List (Char × String) := []
  words : List String := []
  deriving DecidableEq, Repr

namespace Options

/-- An option is given. -/
def has (o : Options) (flag : Char) : Bool := o.given.any fun (c, _) => c == flag

/-- The last value of an option. -/
def value? (o : Options) (flag : Char) : Option String := o.given.reverse.lookup flag

/-- The values of an option. -/
def values (o : Options) (flag : Char) : List String :=
  (o.given.filter fun (c, _) => c == flag).map (·.2)

/-- The last of several options. -/
def lastOf (o : Options) (flags : List Char) : Option Char :=
  (o.given.reverse.find? fun (c, _) => flags.contains c).map (·.1)

/-- A byte in a complaint: what cannot be seen is written with a backslash. -/
def visible (b : UInt8) : List Char :=
  let named := [(7, 'a'), (8, 'b'), (9, 't'), (10, 'n'), (11, 'v'), (12, 'f'), (13, 'r'),
    (39, '\''), (92, '\\')]
  match named.lookup b.toNat with
  | some c => ['\\', c]
  | none =>
    if 32 ≤ b && b < 127 then [Char.ofNat b.toNat]
    else '\\' :: (toString (1000 + b.toNat / 64 * 100 + b.toNat / 8 % 8 * 10 + b.toNat % 8)).toList.drop 1

/-- Quotation marks around a word that a program complains of. -/
def quoted (word : String) : String :=
  "'" ++ String.ofList ((Text.encode word).flatMap visible) ++ "'"

/-- Quotation marks around an option. -/
def marked (word : String) : String := "'" ++ word ++ "'"

/-- Reads a word of short options; a value that is missing is the next word. -/
def short (k : Knowledge) : List Char → List String →
    Except String (List (Char × String) × List String)
  | [], rest => .ok ([], rest)
  | c :: more, rest =>
    if k.valued.toList.contains c then
      match more, rest with
      | [], value :: rest => .ok ([(c, value)], rest)
      | [], [] => .error ("option requires an argument -- " ++ marked c.toString)
      | more, rest => .ok ([(c, String.ofList more)], rest)
    else if k.optional.toList.contains c then .ok ([(c, String.ofList more)], rest)
    else if k.alone.toList.contains c then do
      let (found, rest) ← short k more rest
      return ((c, "") :: found, rest)
    else .error ("invalid option -- " ++ marked c.toString)

/-- Reads a word with a long option. -/
def long (k : Knowledge) (word : List Char) (rest : List String) :
    Except String (List (Char × String) × List String) :=
  let name := String.ofList (word.takeWhile (· != '='))
  let value : Option String := match word.drop name.length with
    | _ :: value => some (String.ofList value)
    | [] => none
  let fitting := match k.long.filter fun (other, _) => other == name with
    | [] => k.long.filter fun (entry : String × Char) => name.toList.isPrefixOf entry.1.toList
    | exact => exact
  match fitting with
  | [] => .error ("unrecognized option " ++ marked ("--" ++ name))
  | (full, c) :: others =>
    if others.any fun (_, other) => other != c then
      .error ("option " ++ marked ("--" ++ name) ++ " is ambiguous; possibilities:" ++
        String.join (fitting.map fun (other, _) => " " ++ marked ("--" ++ other)))
    else if k.valued.toList.contains c then
      match value, rest with
      | some value, rest => .ok ([(c, value)], rest)
      | none, value :: rest => .ok ([(c, value)], rest)
      | none, [] => .error ("option " ++ marked ("--" ++ full) ++ " requires an argument")
    else if k.optional.toList.contains c then .ok ([(c, value.getD "")], rest)
    else
      match value with
      | some _ => .error ("option " ++ marked ("--" ++ full) ++ " doesn't allow an argument")
      | none => .ok ([(c, "")], rest)

/-- Reads a command line; options may stand behind other words unless `inFront`. -/
def readFrom (k : Knowledge) (inFront : Bool) :
    Nat → Options → List String → Except String Options
  | 0, o, words => .ok { o with words := o.words ++ words }
  | _, o, [] => .ok o
  | n + 1, o, word :: rest =>
    match word.toList with
    | ['-', '-'] => .ok { o with words := o.words ++ rest }
    | '-' :: '-' :: name => do
      let (found, rest) ← long k name rest
      readFrom k inFront n { o with given := o.given ++ found } rest
    | '-' :: c :: more => do
      let (found, rest) ← short k (c :: more) rest
      readFrom k inFront n { o with given := o.given ++ found } rest
    | _ =>
      if inFront then .ok { o with words := o.words ++ word :: rest }
      else readFrom k inFront n { o with words := o.words ++ [word] } rest

end Options

namespace Invocation

/-- Reads the command line of a program that then goes on. -/
def withOptions (i : Invocation) (k : Knowledge) (f : Options → Ended) (inFront : Bool := false)
    (code : Nat := 1) : Ended :=
  match Options.readFrom k inFront (i.args.length + 1) {} i.args with
  | .ok o => f o
  | .error text => i.misused text code

/-! ## Reading files -/

/-- How many zeros are read where there is no end of them. -/
def manyZeros : Nat := 1048576

/-- What can be read from the stream that a path names. -/
def stream? (i : Invocation) (name : String) : Option (List UInt8) :=
  if "/dev/fd/".toList.isPrefixOf name.toList then
    match Number.natural? (String.ofList (name.toList.drop 8)) with
    | some 0 => some i.input
    | some n => i.further.lookup n
    | none => none
  else none

/-- What a named file holds; `-` stands for the input. -/
def content (i : Invocation) (name : String) : Except IoError (List UInt8) :=
  if name = "-" || name = "/dev/stdin" then .ok i.input
  else if let some bytes := i.stream? name then .ok bytes
  else if name = "/dev/zero" then .ok (List.replicate manyZeros 0)
  else if name = "/dev/null" then .ok []
  else (i.files.readFile ⟨name⟩).map (·.data.toList)

/-- The named files, or the input if there are none. -/
def contents (i : Invocation) (names : List String) : List (String × Except IoError (List UInt8)) :=
  (if names.isEmpty then ["-"] else names).map fun name => (name, i.content name)

/-- How much of the input a program takes that reads these files. -/
def takenBy (i : Invocation) (names : List String) : Nat :=
  if names.isEmpty || names.any (fun name => name == "-" || name == "/dev/stdin") then
    i.input.length
  else 0

/-- A name as complaints show it: in quotation marks if a shell would read it otherwise. -/
def shown (name : String) : String :=
  let cs := name.toList
  let isOdd (c : Char) : Bool :=
    [' ', '!', '"', '$', '&', '(', ')', '*', ';', '<', '=', '>', '?', '[', '\\', '^', '\x60',
      '|'].contains c
  let first := cs.headD 'a'
  if cs.contains '\'' then
    if cs.any fun c => c == '"' || c == '$' || c == '\x60' || c == '\\' then
      "'" ++ String.ofList (cs.flatMap fun c =>
        if c == '\'' then ['\'', '\\', '\'', '\''] else [c]) ++ "'"
    else "\"" ++ name ++ "\""
  else if cs.isEmpty || cs.any isOdd || first == '#' || first == '~' then "'" ++ name ++ "'"
  else name

/-- The complaint about a file that cannot be read. -/
def unread (i : Invocation) (name : String) (e : IoError) : Bool × List UInt8 :=
  i.complaint (shown name ++ ": " ++ reason e)

/-- A program that writes something for every file and complains of those that it cannot read. -/
def forFiles (i : Invocation) (names : List String) (f : String → List UInt8 → List UInt8)
    (refused : String → IoError → Bool × List UInt8 := i.unread) : Ended :=
  let all := i.contents names
  { output := all.map fun (name, found) => match found with
      | .ok bytes => (false, f name bytes)
      | .error e => refused name e
    status := .exited (if all.all fun (_, found) => found.toOption.isSome then 0 else 1)
    files := i.files
    taken := i.takenBy names }

/-- A program that writes something for all files together. -/
def forAll (i : Invocation) (names : List String) (f : List UInt8 → List UInt8) : Ended :=
  let all := i.contents names
  let refused := all.filterMap fun (name, found) => match found with
    | .ok _ => none
    | .error e => some (i.unread name e)
  let bytes := all.flatMap fun (_, found) => match found with
    | .ok bytes => bytes
    | .error _ => []
  { output := refused ++ [(false, f bytes)]
    status := .exited (if refused.isEmpty then 0 else 1)
    files := i.files
    taken := i.takenBy names }

end Invocation

end Fleet.Shell

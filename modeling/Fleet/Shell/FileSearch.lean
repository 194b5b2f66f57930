import Fleet.Shell.Expression
import Fleet.Shell.Pattern
import Fleet.Shell.Starting

namespace Fleet.Shell

/-! # Searching for files

The program `find`: it goes through directories and decides a condition about every entry.  Some of
the tests in a condition do something: they print, remove, or start a command.
-/

namespace FileSearch

/-- A condition about an entry. -/
inductive Test where
  | always (answer : Bool)
  /-- the name, or with `whole` the path, matches a pattern -/
  | named (whole : Bool) (accepts : String → Bool)
  | kind (letters : List Char)
  | isEmpty
  | size (sign : Option Char) (count : Nat) (unit : Nat)
  | runnable
  /-- the permissions are these; or all of them are there, with `+` one of them -/
  | allows (sign : Option Char) (bits : Nat)
  | print (stop : String)
  | format (text : List Char)
  | run (number : Nat) (words : List String) (batch : Bool)
  | delete
  | prune
  | quit
  | not (t : Test)
  | both (a b : Test)
  | either (a b : Test)
  | list (a b : Test)

namespace Test

/-- The test does something, so that nothing need be printed besides. -/
def acts : Test → Bool
  | print _ | format _ | run _ _ _ | delete => true
  | not t => t.acts
  | both a b | either a b | list a b => a.acts || b.acts
  | _ => false

/-- Directories come behind what is in them. -/
def goesUp : Test → Bool
  | delete => true
  | not t => t.goesUp
  | both a b | either a b | list a b => a.goesUp || b.goesUp
  | _ => false

/-- The commands that are started for many entries at once. -/
def batches : Test → List (Nat × List String)
  | run number words true => [(number, words)]
  | not t => t.batches
  | both a b | either a b | list a b => a.batches ++ b.batches
  | _ => []

end Test

/-! ## Reading conditions -/

/-- What stands before and beside the condition. -/
structure Cursor where
  rest : List String
  files : FileSystem
  commands : Nat := 0
  least : Nat := 0
  most : Option Nat := none
  upward : Bool := false

/-- Reads words one after the other; what goes wrong is told by a text. -/
abbrev Reader := EStateM String Cursor

/-- Takes what stands behind a word. -/
def operandOf (word : String) : Reader String := do
  match (← get).rest with
  | value :: rest =>
    modify fun s => { s with rest }
    return value
  | [] => throw ("missing argument to \x60" ++ word ++ "'")

/-- A pattern as a predicate. -/
def glob (ignoreCase : Bool) (text : String) (name : String) : Bool :=
  let lower (t : String) : String := if ignoreCase then String.ofList (t.toList.map Char.toLower)
    else t
  Glob.accepts (Glob.read ((lower text).toList.map fun c => (c, false))) (lower name)

/-- A regular expression that matches a whole path. -/
def regex (ignoreCase : Bool) (text : String) : Except String (String → Bool) :=
  (Expression.read { ignoreCase, lenient := true } text.toList).map fun (r, _) path =>
    let cs := path.toList
    (r.places cs r.asksAgain [{ rest := cs }]).any fun p => p.rest.isEmpty

/-- A number behind an option. -/
def depthOf (word value : String) : Reader Nat :=
  match Number.natural? value with
  | some n => pure n
  | none => throw ("Expected a positive decimal integer argument to " ++ word ++ ", but got " ++
      Options.quoted value)

/-- Takes the words of a command up to its end. -/
def commandOf (word : String) : Nat → List String → Reader (List String × Bool)
  | 0, _ => throw ("missing argument to \x60" ++ word ++ "'")
  | n + 1, taken => do
    match (← get).rest with
    | [] => throw ("missing argument to \x60" ++ word ++ "'")
    | next :: rest =>
      modify fun s => { s with rest }
      if next = ";" then
        if taken.isEmpty then throw ("missing argument to \x60" ++ word ++ "'")
        else return (taken.reverse, false)
      else if next = "+" && taken.head? = some "\x7b\x7d" then return (taken.reverse.dropLast, true)
      else commandOf word n (next :: taken)

/-- Reads a size. -/
def sizeOf (value : String) : Option Test :=
  let (sign, cs) : Option Char × List Char := match value.toList with
    | c :: rest => if c == '+' || c == '-' then (some c, rest) else (none, c :: rest)
    | [] => (none, [])
  let digits := cs.takeWhile Char.isDigit
  let unit : Option Nat := [("", 512), ("b", 512), ("c", 1), ("w", 2), ("k", 1024),
    ("M", 1048576)].lookup (String.ofList (cs.drop digits.length))
  match Number.natural? (String.ofList digits), unit with
  | some n, some unit => some (.size sign n unit)
  | _, _ => none

/-- Reads permissions. -/
def permissionsOf (value : String) : Option Test :=
  let (sign, mode) : Option Char × String := match value.toList with
    | '-' :: rest => (some '-', String.ofList rest)
    | '/' :: rest => (some '/', String.ofList rest)
    | _ => (none, value)
  (Permission.after? false mode 0).map (.allows sign)

/-- The test of an age in days or minutes, where `least` is the age of what has just been made. -/
def ageOf (value : String) (least : Nat) : Option Test :=
  let (sign, digits) : Option Char × List Char := match value.toList with
    | c :: rest => if c == '+' || c == '-' then (some c, rest) else (none, c :: rest)
    | [] => (none, [])
  (Number.natural? (String.ofList digits)).map fun n => .always (match sign with
    | some '+' => false
    | some _ => least < n
    | none => n == least)

/-- Reads one test behind its word. -/
def test (word : String) : Reader Test := do
  match word with
  | "-true" => return .always true
  | "-false" => return .always false
  | "-name" => return .named false (glob false (← operandOf word))
  | "-iname" => return .named false (glob true (← operandOf word))
  | "-path" | "-wholename" => return .named true (glob false (← operandOf word))
  | "-ipath" => return .named true (glob true (← operandOf word))
  | "-regex" | "-iregex" =>
    match regex (word == "-iregex") (← operandOf word) with
    | .ok accepts => return .named true accepts
    | .error text => throw text
  | "-type" =>
    let letters := (Text.splitOn ',' (← operandOf word).toList).flatten
    match letters.find? fun c => ['f', 'd', 'l', 'b', 'c', 'p', 's'].all (· != c) with
    | some c => throw ("Unknown argument to -type: " ++ c.toString)
    | none => return .kind letters
  | "-empty" => return .isEmpty
  | "-executable" => return .runnable
  | "-readable" | "-writable" => return .always true
  | "-perm" =>
    let value ← operandOf word
    match permissionsOf value with
    | some t => return t
    | none => throw ("invalid mode " ++ Options.quoted value)
  | "-mtime" | "-ctime" | "-atime" | "-mmin" | "-cmin" | "-amin" =>
    let value ← operandOf word
    match ageOf value (if word.endsWith "min" then 1 else 0) with
    | some t => return t
    | none => throw ("invalid argument \x60" ++ value ++ "' to \x60" ++ word ++ "'")
  | "-user" | "-group" =>
    let value ← operandOf word
    if value = "root" || value = "0" then return .always true
    else if (Number.natural? value).isSome then return .always false
    else throw (Options.quoted value ++ " is not the name of a" ++
      if word = "-user" then " known user" else "n existing group")
  | "-newer" =>
    let value ← operandOf word
    match (← get).files.status ⟨value⟩ with
    | .ok _ => return .always false
    | .error e => throw (Options.quoted value ++ ": " ++ reason e)
  | "-size" =>
    let value ← operandOf word
    match sizeOf value with
    | some t => return t
    | none => throw ("Invalid argument \x60" ++ value ++ "' to -size")
  | "-print" => return .print "\n"
  | "-print0" => return .print "\x00"
  | "-printf" => return .format (← operandOf word).toList
  | "-delete" => return .delete
  | "-prune" => return .prune
  | "-quit" => return .quit
  | "-depth" | "-d" =>
    modify fun s => { s with upward := true }
    return .always true
  | "-maxdepth" =>
    let value ← operandOf word
    let n ← depthOf word value
    modify fun s => { s with most := some n }
    return .always true
  | "-mindepth" =>
    let value ← operandOf word
    let n ← depthOf word value
    modify fun s => { s with least := n }
    return .always true
  | "-exec" | "-execdir" | "-ok" =>
    let (words, batch) ← commandOf word ((← get).rest.length + 1) []
    modify fun s => { s with commands := s.commands + 1 }
    return .run (← get).commands words batch
  | "-mount" | "-xdev" | "-follow" | "-noleaf" => return .always true
  | _ =>
    if (word.toList.head? == some '-') then throw ("unknown predicate \x60" ++ word ++ "'")
    else throw ("paths must precede expression: \x60" ++ word ++ "'")

mutual

/-- Reads a list of conditions. -/
def list : Nat → Reader Test
  | 0 => throw "expression too long"
  | n + 1 => do
    let first ← either n
    match (← get).rest with
    | "," :: rest =>
      modify fun s => { s with rest }
      return .list first (← list n)
    | _ => return first

/-- Reads conditions one of which has to hold. -/
def either : Nat → Reader Test
  | 0 => throw "expression too long"
  | n + 1 => do
    let first ← both n
    match (← get).rest with
    | word :: rest =>
      if word = "-o" || word = "-or" then
        modify fun s => { s with rest }
        if rest.isEmpty then throw ("expected an expression after '" ++ word ++ "'")
        else return .either first (← either n)
      else return first
    | [] => return first

/-- Reads conditions all of which have to hold. -/
def both : Nat → Reader Test
  | 0 => throw "expression too long"
  | n + 1 => do
    let first ← one n
    match (← get).rest with
    | [] => return first
    | word :: rest =>
      if word = "-a" || word = "-and" then
        modify fun s => { s with rest }
        if rest.isEmpty then throw ("expected an expression after '" ++ word ++ "'")
        else return .both first (← both n)
      else if ["-o", "-or", ",", ")"].contains word then return first
      else return .both first (← both n)

/-- Reads one condition. -/
def one : Nat → Reader Test
  | 0 => throw "expression too long"
  | n + 1 => do
    match (← get).rest with
    | [] => throw "expected an expression"
    | word :: rest =>
      modify fun s => { s with rest }
      match word with
      | "!" | "-not" =>
        if rest.isEmpty then throw ("expected an expression after '" ++ word ++ "'")
        else return .not (← one n)
      | "(" =>
        let inner ← list n
        match (← get).rest with
        | ")" :: rest =>
          modify fun s => { s with rest }
          return inner
        | _ => throw ("invalid expression; " ++
            "I was expecting to find a ')' somewhere but did not see one.")
      | ")" => throw "you have too many ')'"
      | "-o" | "-or" | "-a" | "-and" | "," =>
        throw ("invalid expression; you have used a binary operator '" ++ word ++
          "' with nothing before it.")
      | word => test word

end

/-- Reads a condition; none at all holds always. -/
def condition (files : FileSystem) (words : List String) : Except String (Test × Cursor) :=
  if words.isEmpty then .ok (.always true, { rest := [], files })
  else match (list (8 * words.length + 8)).run { rest := words, files } with
    | .error text _ => .error text
    | .ok t s =>
      match s.rest with
      | [] => .ok (t, s)
      | ")" :: _ => .error "you have too many ')'"
      | word :: _ => .error ("paths must precede expression: \x60" ++ word ++ "'")

/-! ## Going through directories -/

/-- A search that is under way. -/
structure Search where
  runs : Starting.Runs
  /-- the paths that wait for the commands that take many of them -/
  waiting : List (Nat × String) := []
  bad : Bool := false
  pruned : Bool := false
  isDone : Bool := false

/-- An entry that is found. -/
structure Found where
  path : String
  root : String
  depth : Nat
  node : Node

/-- The last name of a path that is found. -/
def Found.name (f : Found) : String := String.ofList (TextUtility.lastName f.path)

/-- The letter of a kind of entry. -/
def letter : Node → Char
  | .file _ _ => 'f'
  | .directory _ => 'd'
  | .link _ => 'l'

/-- What a format says about an entry. -/
def formatted (f : Found) : List Char → List Char
  | '%' :: c :: rest =>
    (match c with
      | 'p' => f.path.toList
      | 'f' => f.name.toList
      | 'P' => (f.path.toList.drop f.root.length).dropWhile (· == '/')
      | 'h' => match Path.parent? ⟨f.path⟩ with
        | some p => if p.text.isEmpty then ['.'] else p.text.toList
        | none => f.path.toList
      | 'd' => (toString f.depth).toList
      | 'y' => [letter f.node]
      | 's' => (toString (sizeIn f.node)).toList
      | '%' => ['%']
      | c => ['%', c]) ++ formatted f rest
  | '\\' :: c :: rest =>
    (match c with
      | 'n' => '\n'
      | 't' => '\t'
      | '0' => '\x00'
      | c => c) :: formatted f rest
  | c :: rest => c :: formatted f rest
  | [] => []
where
  /-- How many bytes there are in an entry. -/
  sizeIn : Node → Nat
    | .file content _ => content.size
    | .directory _ => 4096
    | .link target => target.utf8ByteSize

/-- Adds to what is written. -/
def Search.say (s : Search) (isError : Bool) (text : String) : Search :=
  { s with runs := { s.runs with output := s.runs.output ++ [(isError, Text.encode text)] } }

/-- Starts a command for an entry: the search, and whether it has ended well. -/
def Search.start (starter : Starter) (i : Invocation) (s : Search) (words : List String) :
    Search × Bool :=
  match starter.start { i with files := s.runs.files } words with
  | .error e => (s.say true (i.program ++ ": " ++ Options.quoted (words.headD "") ++ ": " ++
      reason e ++ "\n"), false)
  | .ok ended =>
    ({ s with runs := { s.runs with
        output := s.runs.output ++ ended.output
        files := ended.files } }, ended.status == .exited 0)

/-- Decides a test about an entry. -/
def decide (starter : Starter) (i : Invocation) (f : Found) : Test → Search → Search × Bool
  | .always answer, s => (s, answer)
  | .named whole accepts, s => (s, accepts (if whole then f.path else f.name))
  | .kind letters, s => (s, letters.contains (letter f.node))
  | .isEmpty, s => (s, match f.node with
      | .file content _ => content.size == 0
      | .directory entries => entries.isEmpty
      | .link _ => false)
  | .size sign count unit, s =>
    let n := (formatted.sizeIn f.node + unit - 1) / unit
    (s, match sign with
      | some '+' => count < n
      | some _ => n < count
      | none => n == count)
  | .runnable, s => (s, match f.node with
      | .file _ executable => executable
      | _ => true)
  | .allows sign bits, s =>
    let own := FileUtility.permissionsOf f.node
    (s, match sign with
      | some '-' => Nat.land own bits == bits
      | some _ => bits == 0 || Nat.land own bits != 0
      | none => own == bits)
  | .print stop, s => (s.say false (f.path ++ stop), true)
  | .format text, s => (s.say false (String.ofList (formatted f text)), true)
  | .run number words batch, s =>
    if batch then ({ s with waiting := s.waiting ++ [(number, f.path)] }, true)
    else s.start starter i (words.map (Starting.withWord "\x7b\x7d" f.path))
  | .delete, s =>
    let removed := if f.node.isDirectory then FileUtility.removeEmpty s.runs.files ⟨f.path⟩
      else s.runs.files.removeFile ⟨f.path⟩
    match removed with
    | .ok files => ({ s with runs := { s.runs with files } }, true)
    | .error e =>
      ({ s.say true (i.program ++ ": cannot delete " ++ Options.quoted f.path ++ ": " ++ reason e ++
        "\n") with bad := true }, false)
  | .prune, s => ({ s with pruned := true }, true)
  | .quit, s => ({ s with isDone := true }, true)
  | .not t, s =>
    let (s, answer) := decide starter i f t s
    (s, !answer)
  | .both a b, s =>
    let (s, answer) := decide starter i f a s
    if answer && !s.isDone then decide starter i f b s else (s, answer)
  | .either a b, s =>
    let (s, answer) := decide starter i f a s
    if !answer && !s.isDone then decide starter i f b s else (s, answer)
  | .list a b, s =>
    let (s, _) := decide starter i f a s
    if s.isDone then (s, false) else decide starter i f b s

/-- How the search goes through directories. -/
structure Course where
  visit : Found → Search → Search
  least : Nat
  most : Option Nat
  upward : Bool
  root : String

/-- Visits one entry, if it is deep enough. -/
def Course.meet (c : Course) (f : Found) (s : Search) : Search :=
  if s.isDone || f.depth < c.least then { s with pruned := false }
  else c.visit f { s with pruned := false }

mutual

/-- Visits an entry and what is below it. -/
def Course.through (c : Course) (path : String) (depth : Nat) : Node → Search → Search
  | .directory entries, s =>
    let f : Found := ⟨path, c.root, depth, .directory entries⟩
    let goesOn := c.most.all fun n => depth < n
    if c.upward then
      let s := if goesOn then c.below path (depth + 1) entries s else s
      c.meet f s
    else
      let s := c.meet f s
      if goesOn && !s.pruned && !s.isDone then c.below path (depth + 1) entries s else s
  | node, s => c.meet ⟨path, c.root, depth, node⟩ s

/-- Visits the entries of a directory. -/
def Course.below (c : Course) (path : String) (depth : Nat) :
    List (String × Node) → Search → Search
  | [], s => s
  | (name, node) :: rest, s =>
    let inner := path ++ (if FileSystem.endsInSlash path then "" else "/") ++ name
    c.below path depth rest (c.through inner depth node s)

end

/-- An entry where its directories have been read again, so that what a search has removed is not
found. -/
def entry (files : FileSystem) (follow : Bool) (path : String) : Except IoError Node :=
  (if follow then files.status ⟨path⟩ else files.linkStatus ⟨path⟩).map fun (_, node) =>
    FileUtility.inOrder node

/-- The program. -/
def run : Caller := fun starter i =>
  let isPath (word : String) : Bool :=
    !(word = "!" || word = "(" || word = ")" || word = ",") &&
      (word.toList.head? != some '-' || word = "-")
  let options := i.args.takeWhile fun word => ["-H", "-L", "-P"].contains word
  let words := i.args.drop options.length
  let paths := words.takeWhile isPath
  match condition i.files (words.drop paths.length) with
  | .error text => i.complained text
  | .ok (t, cursor) =>
    let t := if t.acts then t else .both t (.print "\n")
    let first : Search := { runs := { files := i.files } }
    let s := (if paths.isEmpty then ["."] else paths).foldl (fun (s : Search) path =>
      if s.isDone then s
      else match entry s.runs.files (options.getLast? == some "-L") path with
        | .error e => { s.say true (i.program ++ ": " ++ Options.quoted path ++ ": " ++ reason e ++
            "\n") with bad := true }
        | .ok node =>
          let course : Course := ⟨fun f s => (decide starter i f t s).1, cursor.least, cursor.most,
            cursor.upward || t.goesUp, path⟩
          course.through path 0 node s) first
    let s := t.batches.foldl (fun (s : Search) (number, words) =>
      let paths := (s.waiting.filter fun (k, _) => k == number).map (·.2)
      if paths.isEmpty then s
      else
        let (s, good) := s.start starter i (words ++ paths)
        { s with bad := s.bad || !good }) s
    { output := s.runs.output
      status := .exited (if s.bad then 1 else 0)
      files := s.runs.files }

end FileSearch

end Fleet.Shell

import Fleet.Shell.Assigning
import Fleet.Shell.Condition
import Fleet.Shell.Field
import Fleet.Shell.Printing
import Fleet.Shell.Program


namespace Fleet.Shell

/-! # Commands of the shell itself

The commands that a shell does itself, apart from those that run other commands.  Each of them is
something that a shell does, and ends with a status.
-/

namespace Builtin

open Session

/-- A command of the shell: what it does with its words, and the status. -/
abbrev Action := List String → Act Nat

/-- The commands whose mistakes end the shell. -/
def special : List String :=
  [".", ":", "break", "continue", "eval", "exec", "exit", "export", "local", "readonly",
    "return", "set", "shift", "times", "trap", "unset"]

/-- The commands that run others. -/
def running : List String := [".", "command", "eval", "exec", "wait"]

/-- Writes to the output; a stream that cannot be written to is told. -/
def print (bytes : List UInt8) : Act Nat := do
  match ← write 1 bytes with
  | none => return 0
  | some _ =>
    warn (((← getShell).command.getD "") ++ ": I/O error")
    return 1

/-- Writes lines to the output. -/
def printLines (lines : List String) : Act Nat :=
  print (lines.flatMap fun line => Text.encode (line ++ "\n"))

/-- The number that a word has to be. -/
def number (word : String) : Act Nat :=
  match Number.ofText? 10 word with
  | some n => if 0 ≤ n && n ≤ 2147483647 then pure n.toNat else fail ("Illegal number: " ++ word)
  | none => fail ("Illegal number: " ++ word)

/-- A text between single quotes, as a shell reads it back. -/
def quoted (text : String) : String :=
  go (text.length + 1) text.toList
where
  /-- Quotes a text piece by piece: runs of single quotes stand between double quotes. -/
  go : Nat → List Char → String
    | 0, _ => "''"
    | n + 1, cs =>
      let front := cs.takeWhile (· != '\'')
      let marks := (cs.drop front.length).takeWhile (· == '\'')
      let rest := cs.drop (front.length + marks.length)
      "'" ++ String.ofList front ++ "'" ++
        (if marks.isEmpty then "" else "\"" ++ String.ofList marks ++ "\"") ++
        (if rest.isEmpty then "" else go n rest)

/-- The options in front of the words of a command; a letter with a colon behind it in `known` takes
a value. -/
def options (known : String) (args : List String) : Act (List (Char × String) × List String) :=
  go (args.length + 1) args
where
  /-- Reads on. -/
  go : Nat → List String → Act (List (Char × String) × List String)
    | 0, args => return ([], args)
    | _, [] => return ([], [])
    | n + 1, word :: rest =>
      match word.toList with
      | ['-', '-'] => return ([], rest)
      | '-' :: c :: more => do
        let (found, rest) ← letters (c :: more) rest
        let (others, rest) ← go n rest
        return (found ++ others, rest)
      | _ => return ([], word :: rest)
  /-- Reads the letters of one word. -/
  letters : List Char → List String → Act (List (Char × String) × List String)
    | [], rest => return ([], rest)
    | c :: more, rest => do
      match known.toList.dropWhile (· != c) with
      | _ :: ':' :: _ =>
        match more, rest with
        | [], value :: rest => return ([(c, value)], rest)
        | [], [] => fail ("No arg for -" ++ c.toString ++ " option")
        | more, rest => return ([(c, String.ofList more)], rest)
      | _ :: _ =>
        let (found, rest) ← letters more rest
        return ((c, "") :: found, rest)
      | [] => fail ("Illegal option -" ++ c.toString)

/-! ## Writing and deciding -/

/-- Writes its words, with blanks between them. -/
def echo : Action := fun args => print (Printing.echo args)

/-- Writes its words in a format. -/
def printf : Action := fun args => do
  let (_, args) ← options "" args
  match args with
  | [] => fail "usage: printf format [arg ...]"
  | format :: args =>
    let w := Printing.printf .shell format args
    for text in w.bad do warn text
    match w.broken with
    | some text =>
      let _ ← print w.bytes.flatten
      fail text
    | none =>
      let status ← print w.bytes.flatten
      return if w.bad.isEmpty then status else 1

/-- Decides a condition. -/
def test : Action := fun words => do
  match Condition.decide (← get).world.files words with
  | .ok answer => return if answer then 0 else 1
  | .error (.noNumber word) => fail ("Illegal number: " ++ word)
  | .error (.about word text) => fail (word ++ ": " ++ text)
  | .error (.plain text) => fail text

/-- Decides the condition that its words state up to a last `]`. -/
def bracket : Action := fun words =>
  if words.getLast? = some "]" then test words.dropLast else fail "missing ]"

/-! ## Leaving -/

/-- The number that the first word says, or another one. -/
def numberOr (usual : Nat) (args : List String) : Act Nat :=
  match args with
  | word :: _ => number word
  | [] => pure usual

/-- Ends the shell. -/
def exit : Action := fun args => do
  let s ← getShell
  let code ← numberOr (s.leaving.getD s.status) args
  done (code % 256)
  throw .exit

/-- Goes back from a function, or out of a script that is being read. -/
def back : Action := fun args => do
  let status ← numberOr (← getShell).status args
  done status
  throw .back

/-- Goes out of loops, or on with the next round. -/
def leave (again : Bool) : Action := fun args => do
  let n ← numberOr 1 args
  if n = 0 then fail ("Illegal number: " ++ args.headD "")
  else
    let loops := min n (← getShell).loops
    if loops = 0 then return 0
    else
      done 0
      throw (.leave loops again)

/-! ## Variables and parameters -/

/-- Cuts `name=value`. -/
def binding (word : String) : String × Option String :=
  let cs := word.toList
  match cs.dropWhile (· != '=') with
  | _ :: value => (String.ofList (cs.takeWhile (· != '=')), some (String.ofList value))
  | [] => (word, none)

/-- A text has to be a name. -/
def checkName (name : String) : Act Unit :=
  if Word.isName name.toList then pure () else fail (name ++ ": bad variable name")

/-- One text is not behind another. -/
def notBehind (a b : String) : Bool := Bytes.notBehind (Bytes.narrow a) (Bytes.narrow b)

/-- The variables in order of their names. -/
def sorted (s : State) : List (String × Variable) :=
  s.store.mergeSort fun a b => notBehind (a.1 ++ "=") (b.1 ++ "=")

/-- Shows variables that are marked. -/
def showMarked (title : String) (isMarked : Variable → Bool) : Act Nat := do
  printLines <| (sorted (← getShell)).filterMap fun (name, v) =>
    if isMarked v then
      some (title ++ " " ++ name ++ match v.value with
        | some value => "=" ++ quoted value
        | none => "")
    else none

/-- Marks variables, and gives them values. -/
def mark (title : String) (isMarked : Variable → Bool) (f : Variable → Variable) : Action :=
  fun args => do
    let (given, words) ← options "p" args
    if !given.isEmpty || words.isEmpty then showMarked title isMarked
    else
      for word in words do
        let (name, value) := binding word
        checkName name
        match value with
        | some value => assign name value
        | none => pure ()
        change fun s => s.put name (f ((s.holding? name).getD { value := none }))
      return 0

/-- Hides variables until the function ends. -/
def hide : Action := fun args => do
  if (← getShell).hidden.isEmpty then fail "not in a function"
  for word in args do
    let (name, value) := binding word
    if name ≠ "-" then
      checkName name
      change fun s => match s.hidden with
        | frame :: others => { s with
            hidden := ((name, s.holding? name) :: frame) :: others
            store := if (s.holding? name).isSome then s.store
              else s.store ++ [(name, { value := none })] }
        | [] => s
      match value with
      | some value => assign name value
      | none => pure ()
  return 0

/-- Forgets variables or functions. -/
def unset : Action := fun args => do
  let (given, words) ← options "vf" args
  for name in words do
    if given.any fun (c, _) => c == 'f' then
      change fun s => { s with functions := s.functions.filter fun (n, _) => n != name }
    else
      checkName name
      match (← getShell).holding? name with
      | some v => if v.readOnly then fail (name ++ ": is read only") else pure ()
      | none => pure ()
      change (·.without name)
  return 0

/-- Drops the first parameters. -/
def shift : Action := fun args => do
  let n ← numberOr 1 args
  if (← getShell).params.length < n then fail "can't shift that many"
  else
    change fun s => { s with params := s.params.drop n }
    return 0

/-- Turns an option on or off. -/
def turn (on : Bool) (letter : Char) : Act Unit := do
  if !State.optionLetters.contains letter then fail ("Illegal option -" ++ letter.toString)
  else if on && letter == 'm' then warn "can't access tty; job control turned off"
  else change fun s =>
    let others := s.options.filter (· != letter)
    { s with options := if on then letter :: others else others }

/-- Shows the options. -/
def showOptions (asCommands : Bool) : Act Nat := do
  let s ← getShell
  let pad (name : String) : String :=
    name ++ String.ofList (List.replicate (16 - name.length) ' ')
  printLines <|
    if asCommands then
      State.optionNames.map fun (name, c) =>
        "set " ++ (if s.has c then "-" else "+") ++ "o " ++ name
    else "Current option settings" ::
      State.optionNames.map fun (name, c) => pad name ++ if s.has c then "on" else "off"

/-- Turns options on and off as words say, and gives back the words behind them; `none` if the words
end with the options. -/
def turnAll : Nat → List String → Act (Option (List String))
  | 0, words => return some words
  | _, [] => return none
  | n + 1, word :: rest =>
    match word.toList with
    | ['-'] => do
      turn false 'x'
      turn false 'v'
      return if rest.isEmpty then none else some rest
    | ['-', '-'] => return some rest
    | sign :: letters => do
      if sign != '-' && sign != '+' then return some (word :: rest)
      else
        let on := sign == '-'
        let rest ← letters.foldlM (fun (rest : List String) c => do
          if c != 'o' then
            turn on c
            return rest
          else match rest with
            | [] =>
              let _ ← showOptions (!on)
              return []
            | name :: rest =>
              match State.optionNames.lookup name with
              | some letter =>
                change fun s =>
                  let others := s.options.filter (· != letter)
                  { s with options := if on then letter :: others else others }
                return rest
              | none => fail ("Illegal option -o " ++ name)) rest
        turnAll n rest
    | [] => return some (word :: rest)

/-- Changes the options and the parameters of the shell, or shows the variables. -/
def set : Action := fun args => do
  if args.isEmpty then
    printLines <| (sorted (← getShell)).filterMap fun (name, v) =>
      v.value.map fun value => name ++ "=" ++ quoted value
  else
    match ← turnAll (args.length + 1) args with
    | some params =>
      change fun s => { s with params, within := 0 }.put "OPTIND" { value := some "1" }
    | none => pure ()
    return 0

/-! ## Options of scripts -/

/-- What `getopts` finds: the letter, the value of `OPTARG`, how many words it has passed, how far
it is into the next one, and whether there was an option. -/
structure Choice where
  letter : Char := '?'
  value : Option String := none
  passed : Nat
  within : Nat := 0
  found : Bool := true
  message : Option String := none
  keeps : Bool := false

/-- Looks for the next option. -/
def choose (known : List Char) (words : List String) (index within : Nat) : Choice :=
  let silent := known.head? == some ':'
  let inside : List Char := if index ≤ 1 || within = 0 then [] else
    ((words[index - 2]?).getD "").toList.drop within
  let fresh (word : String) : Option (List Char) := match word.toList with
    | '-' :: c :: rest => some (c :: rest)
    | _ => none
  let start : Option (List Char × Nat) :=
    if !inside.isEmpty then some (inside, index - 1)
    else match (words[index - 1]?).bind fresh with
      | some cs => some (cs, index)
      | none => none
  match start with
  | none => { passed := index - 1, found := false, keeps := true }
  | some (['-'], next) =>
    if inside.isEmpty then { passed := next, found := false, keeps := true }
    else letterOf known silent words ['-'] next
  | some (cs, next) => letterOf known silent words cs next
where
  /-- Reads a letter; `next` words are passed with the one that it stands in. -/
  letterOf (known : List Char) (silent : Bool) (words : List String) (cs : List Char)
      (next : Nat) : Choice :=
    match cs with
    | [] => { passed := next, found := false, keeps := true }
    | c :: rest =>
      let word := (words[next - 1]?).getD ""
      let place := if rest.isEmpty then 0 else word.length - rest.length
      -- the letters that are known, each with whether it takes a value
      match if c == ':' then [] else known.dropWhile (· != c) with
      | [] =>
        if silent then { value := some c.toString, passed := next, within := place }
        else { passed := next, within := place,
               message := some ("Illegal option -" ++ c.toString) }
      | _ :: ':' :: _ =>
        if !rest.isEmpty then { letter := c, value := some (String.ofList rest), passed := next }
        else match words[next]? with
          | some value => { letter := c, value := some value, passed := next + 1 }
          | none =>
            if silent then { letter := ':', value := some c.toString, passed := next }
            else { passed := next, message := some ("No arg for -" ++ c.toString ++ " option") }
      | _ => { letter := c, value := some "", passed := next, within := place }

/-- Takes the next option from the parameters. -/
def getOptions : Action := fun args => do
  match args with
  | known :: name :: given =>
    let s ← getShell
    let words := if given.isEmpty then s.params else given
    let index := ((s.valueOf? "OPTIND").bind Number.natural?).getD 1
    let (index, within) := if index < 1 || words.length + 1 < index then (1, 0)
      else (index, s.within)
    let c := choose known.toList words index within
    match c.message with
    | some text =>
      let _ ← write 2 (Text.encode (text ++ "\n"))
    | none => pure ()
    if !c.keeps then
      match c.value with
      | some value => assign "OPTARG" value
      | none => change (·.without "OPTARG")
    assign "OPTIND" (toString (c.passed + 1))
    checkName name
    assign name c.letter.toString
    change fun s => { s with within := c.within }
    return if c.found then 0 else 1
  | _ => fail "Usage: getopts optstring var [arg...]"

/-! ## Reading -/

/-- Takes a line from some bytes, each marked as quoted or not; a backslash quotes unless `raw`.
Says how many bytes are taken and whether the line has an end. -/
def lineOf (raw : Bool) : List UInt8 → List (UInt8 × Bool) × Nat × Bool
  | [] => ([], 0, false)
  | 10 :: _ => ([], 1, true)
  | 0 :: rest =>
    let (line, n, whole) := lineOf raw rest
    (line, n + 1, whole)
  | [92] => if raw then ([(92, false)], 1, false) else ([], 1, false)
  | 92 :: c :: rest =>
    if raw then
      let (line, n, whole) := lineOf raw (c :: rest)
      ((92, false) :: line, n + 1, whole)
    else
      let (line, n, whole) := lineOf raw rest
      (if c == 10 then line else (c, true) :: line, n + 2, whole)
  | c :: rest =>
    let (line, n, whole) := lineOf raw rest
    ((c, false) :: line, n + 1, whole)
termination_by bytes => bytes.length

/-- Drops what satisfies a predicate from the end. -/
def withoutEnd {α : Type} (p : α → Bool) (xs : List α) : List α := (xs.reverse.dropWhile p).reverse

/-- The values of so many names: a field for each, and for the last what is left. -/
def valuesOf (ifs : List Char) : Nat → List Marked → List (List Marked)
  | 0, _ => []
  | n + 1, cs =>
    let isSeparator : Marked → Bool := fun (c, q) => !q && ifs.contains c
    let isSpace : Marked → Bool := fun (c, q) => !q && ifs.contains c && Mark.isGap c
    let cs := cs.dropWhile isSpace
    let field := cs.takeWhile fun m => !isSeparator m
    let rest := (cs.drop field.length).dropWhile isSpace
    let rest := match rest with
      | m :: more => if isSeparator m then more.dropWhile isSpace else rest
      | [] => []
    if n = 0 then [if rest.isEmpty then field else withoutEnd isSpace cs]
    else field :: valuesOf ifs n rest

/-- Reads a line and shares out its fields among variables. -/
def read : Action := fun args => do
  let (given, names) ← options "p:r" args
  let raw := given.any fun (c, _) => c == 'r'
  if names.isEmpty then fail "arg count"
  let s ← getShell
  let channel := s.streams.lookup 0
  let world := (← get).world
  let bytes := match channel.map world.readable with
    | some (.ok (bytes, _)) => bytes
    | _ => []
  let (line, taken, whole) := lineOf raw bytes
  match channel with
  | some channel => changeWorld (·.passed channel taken)
  | none => pure ()
  -- characters that are quoted do not separate, so texts are read run by run
  let marked := runsOf (line.length + 1) line
  let values := valuesOf s.separators.toList names.length marked
  for (name, value) in names.zip (values ++ List.replicate names.length []) do
    checkName name
    assign name (plain value)
  return if whole then 0 else 1
where
  /-- The characters of bytes that are quoted alike. -/
  runsOf : Nat → List (UInt8 × Bool) → List Marked
    | 0, _ => []
    | _, [] => []
    | n + 1, (b, q) :: rest =>
      let run := rest.takeWhile fun (_, r) => r == q
      (Text.decodeLossy (b :: run.map (·.1))).map (fun c => (c, q)) ++
        runsOf n (rest.drop run.length)

/-! ## Directories -/

/-- A path from the root without idle steps and steps back, as it is named. -/
def normalized (path : String) : String :=
  let steps := (FileSystem.names path).foldl (fun (steps : List String) name =>
    if name = "." then steps else if name = ".." then steps.dropLast else steps ++ [name]) []
  "/" ++ "/".intercalate steps

/-- Goes to a directory, if there is one. -/
def goTo (physical : Bool) (word : String) : Act Bool := do
  let s ← get
  let named := normalized
    (if FileSystem.startsAtRoot word then word else s.shell.directory ++ "/" ++ word)
  let target := if physical then word else named
  match s.world.files.status ⟨target⟩ with
  | .ok (loc, .directory _) =>
    let directory := if physical then (FileSystem.pathOf loc).text else named
    let old := s.shell.directory
    let exported (v : String) : Variable := { value := some v, exported := true }
    change fun t =>
      { t with directory }.put "OLDPWD" (exported old) |>.put "PWD" (exported directory)
    changeWorld fun w => { w with files := { w.files with cwd := loc } }
    return true
  | _ => return false

/-- Changes the directory. -/
def goToDirectory : Action := fun args => do
  let (given, words) ← options "LP" args
  let physical := (given.getLast?.map (·.1)) == some 'P'
  let s ← getShell
  let (word, told) := match words with
    | "-" :: _ => ((s.valueOf? "OLDPWD").getD "", true)
    | word :: _ => (word, false)
    | [] => ((s.valueOf? "HOME").getD "", false)
  let fixed := FileSystem.startsAtRoot word ||
    [".", ".."].contains ((FileSystem.names word).headD "")
    || word.isEmpty
  let places := if fixed then [""]
    else match s.valueOf? "CDPATH" with
      | some path => (Text.splitOn ':' path.toList).map String.ofList ++ [""]
      | none => [""]
  let word := if word.isEmpty then "." else word
  let gone ← places.foldlM (fun (gone : Option String) place => do
    if gone.isSome then return gone
    else
      let target := if place.isEmpty then word else (Path.mk place / word).text
      if ← goTo physical target then return some place else return none) none
  match gone with
  | none => fail ("can't cd to " ++ word)
  | some place =>
    if told || !place.isEmpty then printLines [(← getShell).directory] else return 0

/-- Tells the directory. -/
def workingDirectory : Action := fun args => do
  let (given, _) ← options "LP" args
  if (given.getLast?.map (·.1)) == some 'P' then
    printLines [(FileSystem.pathOf (← get).world.files.cwd).text]
  else printLines [(← getShell).directory]

end Builtin

end Fleet.Shell

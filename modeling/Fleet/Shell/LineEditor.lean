import Fleet.Shell.Invocation
import Fleet.Shell.LineEditor.Following
import Fleet.Shell.LineEditor.Reading

namespace Fleet.Shell

/-! # The line editor

The program that edits lines: it reads its script, and works on its files one behind the other or
changes each of them in its place.
-/

namespace LineEditor

/-- The lines of a file. -/
def linesOf (zero : Bool) (file : String) (bytes : List UInt8) : List Line :=
  let (texts, whole) := Bytes.linesBy (if zero then '\x00' else '\n') (Bytes.chars bytes)
  let all : List Line := texts.map fun text => { text, ended := true, file, isLast := false }
  match all.getLast? with
  | some last => all.dropLast ++ [{ last with ended := whole, isLast := true }]
  | none => []

/-- What was written, as bytes. -/
def Machine.bytes (m : Machine) (zero : Bool) : List UInt8 :=
  Bytes.ofChars (m.written.reverse.flatten.map fun c => if zero && c == '\n' then '\x00' else c)

/-- The names of the files that a script writes. -/
def outputs (script : List Step) : List String :=
  script.filterMap fun s => match s.deed with
    | .writeFile name _ => some name
    | .replace _ _ m => m.file
    | _ => none

/-- The options of the editor. -/
def knowledge : Knowledge where
  alone := "nErsuzi"
  valued := "efl"
  long := [("quiet", 'n'), ("silent", 'n'), ("expression", 'e'), ("file", 'f'),
    ("regexp-extended", 'E'), ("separate", 's'), ("unbuffered", 'u'), ("null-data", 'z'),
    ("in-place", 'i'), ("line-length", 'l'), ("posix", 'P'), ("follow-symlinks", 'F')]

/-- A call that cannot be understood is answered with the usage. -/
def misused (i : Invocation) (complaints : List (Bool × List UInt8)) : Ended :=
  { i.ends 1 with
    output := complaints ++ [(true, Text.encode ("Usage: " ++ i.program ++
      " [OPTION]... \x7bscript-only-if-no-other-script\x7d [input-file]...\n"))] }

/-- The suffix for copies of files that are changed in place, taken out of the options. -/
def splitSuffix : List String → Option String × List String
  | [] => (none, [])
  | word :: rest =>
    let (found, others) := splitSuffix rest
    if word = "--" then (none, word :: rest)
    else match word.toList with
    | '-' :: '-' :: name =>
      if "in-place=".toList.isPrefixOf name then
        (some (String.ofList (name.drop 9)), "-i" :: others)
      else (found, word :: others)
    | '-' :: flags =>
      -- what stands behind the letter is the suffix
      let before := flags.takeWhile fun c => ['n', 'E', 'r', 's', 'u', 'z'].contains c
      match flags.drop before.length with
      | 'i' :: suffix =>
        if suffix.isEmpty then (found, word :: others)
        else (some (String.ofList suffix), String.ofList ('-' :: before ++ ['i']) :: others)
      | _ => (found, word :: others)
    | _ => (found, word :: others)

/-- The files that can be read, the complaints about the others, and whether one of them is a
directory, at which the editor stops. -/
def sources (inPlace : Bool) (i : Invocation) : List (String × Except IoError (List UInt8)) →
    List (String × List UInt8) × List (Bool × List UInt8) × Bool
  | [] => ([], [], false)
  | (name, found) :: rest =>
    match found with
    | .ok bytes =>
      let (good, refused, stopped) := sources inPlace i rest
      ((name, bytes) :: good, refused, stopped)
    | .error .isDirectory =>
      let text := if inPlace then "couldn't edit " ++ name ++ ": not a regular file"
        else "read error on " ++ name ++ ": " ++ reason .isDirectory
      ([], [i.complaint text], true)
    | .error e =>
      let (good, refused, stopped) := sources inPlace i rest
      (good, i.complaint ("can't read " ++ name ++ ": " ++ reason e) :: refused, stopped)

/-- What was not reached of a file stays as it is. -/
def leftover (rest : List Line) : List UInt8 :=
  Bytes.ofChars (rest.flatMap fun line => line.text ++ if line.ended then ['\n'] else [])

/-- Changes a file in its place; with a suffix a copy is kept. -/
def changeFile (settings : Settings) (script : List Step) (zero : Bool) (suffix : Option String)
    (m : Machine) (name : String) (bytes : List UInt8) : Machine × Option Nat :=
  let (after, code) := rounds settings script (4 * bytes.length + 16) true
    { m with rest := linesOf zero name bytes, written := [], lacking := false }
  let content := after.bytes zero ++ if code.isSome then leftover after.rest else []
  let kept := match suffix with
    | some s =>
      let copy := if s.toList.contains '*' then s.replace "*" name else name ++ s
      (after.files.writeFile ⟨copy⟩ ⟨bytes.toArray⟩).toOption.getD after.files
    | none => after.files
  ({ after with files := (kept.writeFile ⟨name⟩ ⟨content.toArray⟩).toOption.getD kept }, code)

/-- Changes files in their places, up to the one where the script stops. -/
def changeFiles (settings : Settings) (script : List Step) (zero : Bool) (suffix : Option String) :
    Machine → List (String × List UInt8) → Machine × Option Nat
  | m, [] => (m, none)
  | m, (name, bytes) :: rest =>
    match changeFile settings script zero suffix m name bytes with
    | (m, none) => changeFiles settings script zero suffix m rest
    | stopped => stopped

/-- The lines of all files; only the last of them may have no end. -/
def allLines (zero : Bool) (files : List (String × List UInt8)) : List Line :=
  let lines := files.flatMap fun (name, bytes) => linesOf zero name bytes
  match lines.getLast? with
  | some last => (lines.dropLast.map fun l => { l with ended := true }) ++ [last]
  | none => []

/-- Edits with a script that has been read. -/
def edit (i : Invocation) (o : Options) (suffix : Option String) (quiet : Bool)
    (script : List Step) (names : List String) : Ended :=
  let inPlace := o.has 'i'
  let zero := o.has 'z'
  let settings : Settings := {
    quiet
    separate := inPlace || o.has 's'
    width := ((o.value? 'l').bind Number.natural?).getD 70 }
  let (good, refused, stopped) := sources inPlace i (i.contents names)
  let files := (outputs script).foldl (fun fs name =>
    if name = "/dev/stdout" then fs
    else (fs.writeFile ⟨name⟩ .empty).toOption.getD fs) i.files
  let status (code : Option Nat) : ExitStatus :=
    .exited (match code with
      | some (k + 1) => k + 1
      | _ => if stopped then 4 else if refused.isEmpty then 0 else 2)
  if inPlace then
    let (m, code) := changeFiles settings script zero suffix { rest := [], files } good
    { output := refused, status := status code, files := m.files }
  else
    let lines := allLines zero good
    let size := (lines.map fun line => line.text.length + 1).foldl (· + ·) 0
    let (m, code) := rounds settings script (4 * size + 16) true { rest := lines, files }
    { output := refused ++ [(false, m.bytes zero)]
      status := status code
      files := m.files
      taken := i.takenBy names }

/-- A script that an option gives. -/
def given? (i : Invocation) (option : Char × String) : Option (Except String (List Char)) :=
  match option with
  | ('e', text) => some (.ok text.toList)
  | ('f', name) =>
    some (match i.content name with
      | .ok bytes =>
        let text := Text.decodeLossy bytes
        .ok (if text.getLast? == some '\n' then text.dropLast else text)
      | .error e => .error ("couldn't open file " ++ name ++ ": " ++ reason e))
  | _ => none

/-- The labels that a script jumps to. -/
def targets (script : List Step) : List String :=
  script.filterMap fun s => match s.deed with
    | .branch name | .branchIf _ name => some name
    | _ => none

/-- The program. -/
def run (i : Invocation) : Ended :=
  let (suffix, args) := splitSuffix i.args
  match Options.readFrom knowledge false (args.length + 1) {} args with
  | .error text => misused i [i.complaint text]
  | .ok o =>
    let (scripts, names) : List (Except String (List Char)) × List String :=
      match o.given.filterMap (given? i), o.words with
      | [], script :: words => ([.ok script.toList], words)
      | given, words => (given, words)
    if scripts.isEmpty then
      misused i []
    else match scripts.mapM id with
    | .error text => i.complained text 4
    | .ok texts =>
      let text := Bytes.narrow (String.ofList (texts.intersperse ['\n']).flatten)
      -- a first line of `#n` asks for no output
      let hushed := text.take 2 == ['#', 'n'] && (text.drop 2).head?.all (· == '\n')
      match read (o.has 'E' || o.has 'r') text with
      | .error text => i.complained text
      | .ok script =>
        match (targets script).find? fun name => (labelled script name).isNone with
        | some name => i.complained ("can't find label for jump to `" ++ name ++ "'") 4
        | none => edit i o suffix (o.has 'n' || hushed) script names

end LineEditor

end Fleet.Shell

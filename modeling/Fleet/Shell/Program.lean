import Fleet.Shell.FileSearch
import Fleet.Shell.Starting
import Fleet.Shell.Utility

namespace Fleet.Shell

/-! # Finding programs

A command is a path to a program if there is a `/` in it; otherwise it is looked for in one
directory after the other.  A program is one of those that are always there, in the two directories
of programs, or a file whose first line says which program reads it.
-/

/-- A program that can be run. -/
inductive Program where
  | utility (u : Utility)
  | caller (c : Caller)
  /-- a shell, which is extended or not -/
  | shell (extended : Bool)

namespace Program

/-- Where programs are that are always there. -/
def directories : List String := ["/usr/bin", "/bin"]

/-- The directories that are searched if no variable names any. -/
def usualPath : String := "/bin:/usr/bin"

/-- The programs that start others. -/
def callers : List (String × Caller) :=
  [("env", Starting.environment), ("xargs", Starting.overInput), ("find", FileSearch.run),
    ("timeout", Starting.limited), ("nice", Starting.nice), ("nohup", Starting.nohup),
    ("which", Starting.which)]

/-- The program of a name, if it is one of those that are always there. -/
def standard? (name : String) : Option Program :=
  if ["sh", "dash", "bash"].contains name then some (.shell (name = "bash"))
  else match callers.lookup name with
    | some c => some (.caller c)
    | none => (Utility.ofName? name).map .utility

/-- The program at a path from the root, if it is one of those that are always there. -/
def standardAt? (p : Path) : Option Program :=
  match p.parent?, p.fileName? with
  | some dir, some name => if directories.contains dir.text then standard? name else none
  | _, _ => none

/-- A program that is found for a command: the name that it is called by, and the words that come
before those of the command. -/
structure Found where
  program : Program
  name : String
  lead : List String := []
  path : String

/-- How much of a file is looked at to find out what runs it. -/
def leadSize : Nat := 256

/-- The interpreter that the first line of a file names, and the word that may stand behind it.  A
line that does not end can only be trusted up to the last blank in what is looked at. -/
def interpreter? (content : List UInt8) : Option (String × List String) :=
  let seen := content.take leadSize
  let ends := seen.contains 10
  let isWhole := ends || content.length < leadSize
  let line := if ends then seen.takeWhile (· != 10) else seen.take (leadSize - 1)
  match Text.decodeLossy (line.takeWhile (· != 0)) with
  | '#' :: '!' :: rest =>
    let isGap (c : Char) : Bool := c == ' ' || c == '\t'
    let rest := rest.dropWhile isGap
    let name := rest.takeWhile fun c => !isGap c
    let word := (rest.drop name.length).dropWhile isGap
    let word := if isWhole then Text.dropEndWhile isGap word else word
    if (name.isEmpty && (ends || !isWhole)) || (!isWhole && name.length = rest.length) then none
    else some (String.ofList name, if word.isEmpty then [] else [String.ofList word])
  | _ => none

/-- How many files may name each other as interpreters. -/
def maxInterpreters : Nat := 5

/-- The program at a path, which is called by a name. -/
def locatedFrom (fs : FileSystem) : Nat → Path → String → Except IoError Found
  | n, p, name =>
    match fs.status p with
    | .ok (_, .file content true) =>
      match interpreter? content.data.toList with
      | none => .error .notProgram
      | some ("", _) => .error .denied
      | some (word, lead) =>
        match n with
        | 0 => .error .linkLoop
        | n + 1 => (locatedFrom fs n ⟨word⟩ word).map fun found =>
            { found with lead := found.lead ++ lead ++ [p.text], path := p.text }
    | .ok _ => .error .denied
    | .error e =>
      match standardAt? p with
      | some program => .ok { program, name, path := p.text }
      | none => .error (if ("/usr" :: directories).contains p.text then .denied else e)

/-- The program at a path, which is called by a name. -/
def located (fs : FileSystem) (p : Path) (name : String) : Except IoError Found :=
  locatedFrom fs maxInterpreters p name

/-- Looks for a program in one directory after the other.  A file that cannot be run is passed over
but remembered. -/
def search (fs : FileSystem) (name : String) : Option IoError → List String → Except IoError Found
  | found, [] => .error (found.getD .noEntry)
  | found, dir :: rest =>
    match located fs (if dir.isEmpty then ⟨"./" ++ name⟩ else Path.mk dir / name) name with
    | .ok program => .ok program
    | .error e =>
      if e = .noEntry || e = .notDirectory then search fs name found rest
      else if e = .denied then search fs name (some e) rest
      else .error e

/-- Finds the program of a command; `path` are the directories, separated by colons. -/
def find (fs : FileSystem) (path : String) (command : String) : Except IoError Found :=
  if command.isEmpty then .error .noEntry
  else if command.toList.contains '/' then located fs ⟨command⟩ command
  else if command = "." || command = ".." then .error .denied
  else if FileSystem.maxName < command.utf8ByteSize then .error .nameTooLong
  else search fs command none ((Text.splitOn ':' path.toList).map String.ofList)

end Program

end Fleet.Shell

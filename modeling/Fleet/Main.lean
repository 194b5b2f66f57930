import Fleet.CommandLine.Execution
import Fleet.FileSystem.Changes
import Fleet.FileSystem.Ensure
import Fleet.Shell.Spawn

/-! # The program

The outer layer.  The files below the current directory are read, the program is run on them as a
function, and what it changed is written back.  Commands are the utilities and the shell that are
always there, and the scripts among the files.  A link is read as the path it leads to; one that is
to be made is written as a file that holds its target, which a pointer may be as well.  What the
settings name is read wherever it is.
-/

namespace Fleet.Main

/-- How deep directories are looked into. -/
def depth : Nat := 64

/-- A file that begins like a script is taken for one that can be run. -/
def looksExecutable (content : ByteArray) : Bool :=
  content.data.toList.take 2 == Text.encode "#!"

/-- Reads what is in a directory, to the given depth. -/
def look : Nat → List IO.FS.DirEntry → IO Entries
  | 0, _ => return []
  | _, [] => return []
  | n + 1, e :: rest => do
    let others ← look (n + 1) rest
    match (← e.path.symlinkMetadata).type with
    | .dir =>
      let inside ← look n (← e.path.readDir).toList
      return (e.fileName, .directory inside) :: others
    | .file =>
      let content ← IO.FS.readBinFile e.path
      return (e.fileName, .file content (looksExecutable content)) :: others
    | .symlink =>
      try return (e.fileName, .link (← IO.FS.realPath e.path).toString) :: others
      catch _ => return others
    | .other => return others

/-- Reads the file or directory at a path from the root, unless it was read before. -/
def bring (fs : FileSystem) (p : Path) : IO FileSystem := do
  if !p.isAbsolute || fs.isPresent p then return fs
  try
    let real ← IO.FS.realPath p.text
    let loc := FileSystem.names real.toString
    if ← real.isDir then
      let inside ← look depth (← real.readDir).toList
      return (fs.ensureDirectory ⟨real.toString⟩).place loc (.directory inside)
    else
      let content ← IO.FS.readBinFile real
      return fs.ensureFile ⟨real.toString⟩ content
  catch _ => return fs

/-- Reads all that the settings of a campaign name, and the result set that is pointed to. -/
def bringCampaign (fs : FileSystem) : IO FileSystem := do
  match CommandLine.Host.settings fs with
  | .error _ => return fs
  | .ok s =>
    let fs ← [s.reposFile, s.descriptionFile, s.workDir, s.latestResults].foldlM bring fs
    match LatestPointer.targetText fs s.latestResults with
    | .ok target => bring fs (LatestPointer.anchored s.latestResults target)
    | .error _ => return fs

/-- The variables that the program and the commands it runs are given. -/
def variableNames : List String :=
  ["HOME", "PATH", "TMPDIR", "NO_COLOR", "CLICOLOR", "CLICOLOR_FORCE", "TERM", "RUST_LOG",
    "RUST_LOG_STYLE", CommandLine.resultsVariable]

/-- The variables that are set. -/
def readVariables : List String → IO Variables
  | [] => return []
  | name :: rest => do
    let others ← readVariables rest
    match ← IO.getEnv name with
    | some value => return (name, value) :: others
    | none => return others

/-- The characters of the names that are tried for a new directory. -/
def alphabet : List Char := "abcdefghijklmnopqrstuvwxyzABCDEFGHIJKLMNOPQRSTUVWXYZ0123456789".toList

/-- A text of random characters. -/
def randomText : Nat → IO (List Char)
  | 0 => return []
  | n + 1 => do
    let i ← IO.rand 0 (alphabet.length - 1)
    return alphabet.getD i 'a' :: (← randomText n)

/-- Names to be tried for a new directory. -/
def suffixes : Nat → IO (List Suffix)
  | 0 => return []
  | n + 1 => do
    let text := String.ofList (← randomText 6)
    let rest ← suffixes n
    if h : text.toList.all Char.isAlphanum = true then return ⟨text, h⟩ :: rest else return rest

/-- Makes one change. -/
def apply (c : Change) : IO Unit := do
  let p := (FileSystem.pathOf c.loc).text
  match c.now with
  | some .directory => IO.FS.createDirAll p
  | some (.file content _) => IO.FS.writeBinFile p content
  | some (.link target) => do
    try IO.FS.removeFile p catch _ => pure ()
    IO.FS.writeFile p target
  | none => try IO.FS.removeFile p catch _ => try IO.FS.removeDirAll p catch _ => return

/-- Runs the program with the words of its command line. -/
def run (words : List String) : IO UInt32 := do
  let here ← IO.currentDir
  let env ← readVariables variableNames
  let temp : Path := ⟨(env.lookup "TMPDIR").getD "/tmp"⟩
  let nothing : FileSystem := {}
  let start := (nothing.ensureDirectory temp).ensureDirectory ⟨here.toString⟩
  let cwd := FileSystem.names here.toString
  let below ← look depth (← here.readDir).toList
  let files ← bringCampaign { start.place cwd (.directory below) with cwd }
  let host : CommandLine.Host :=
    { env := env
      process := ⟨← IO.rand 1000 999999, temp, ← suffixes 16⟩
      spawn := Shell.spawn env }
  let ending := CommandLine.run host words files
  (Entries.changes files.root ending.files.root).forM apply
  (← IO.getStdout).write ⟨ending.stdout.toArray⟩
  (← IO.getStderr).putStr ending.stderr
  return UInt32.ofNat ending.code

end Fleet.Main

/-- The program. -/
def main (words : List String) : IO UInt32 := Fleet.Main.run words

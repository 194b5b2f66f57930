import Fleet.Error
import Fleet.FileSystem.Operations
import Fleet.Outcome
import Fleet.Text.Alphanumeric
import Fleet.Text.Escaped

namespace Fleet

/-! # Result sets

A result set is a directory with two buckets, one for the repositories that succeeded and one for
those that failed.  A bucket has a list of its repositories, which begins with a comment and can be
read as any list of repositories, and for each of them what was written meanwhile:

```
fleetrun-foreach-<campaign>-XXXXXX/
  successful/repos.txt
  successful/<org>/<name>/logs.txt
  failed/repos.txt
  failed/<org>/<name>/logs.txt
```
-/

/-- A result set, by its directory. -/
structure ResultSet where
  root : Path
  deriving DecidableEq, Repr, Inhabited

/-- The end of the name of a new directory, which makes it differ from those that exist. -/
structure Suffix where
  text : String
  alphanumeric : text.toList.all Char.isAlphanum = true := by decide

/-- What a program knows of the process it is: its number, the directory of temporary files and the
names it will try for a new directory, one after the other. -/
structure Surroundings where
  pid : Nat
  tempDir : Path
  suffixes : List Suffix

namespace ResultSet

/-- The list of repositories in a bucket. -/
def listFile : String := "repos.txt"

/-- What was written for one repository. -/
def logFile : String := "logs.txt"

/-- The directory of a bucket. -/
def bucketDir (s : ResultSet) (b : Bucket) : Path := s.root / b.name

/-- The list of the repositories in a bucket. -/
def bucketList (s : ResultSet) (b : Bucket) : Path := s.bucketDir b / listFile

/-- The list of the repositories with an outcome; for one that is not kept, the directory of the
result set. -/
def listPath (s : ResultSet) (o : Outcome) : Path :=
  match o.bucket? with
  | some b => s.bucketList b
  | none => s.root

/-- The log of a repository in a bucket. -/
def bucketLog (s : ResultSet) (b : Bucket) (repo : Repository) : Path :=
  repo.workDir (s.bucketDir b) / logFile

/-- The log of a repository with an outcome. -/
def logPath? (s : ResultSet) (o : Outcome) (repo : Repository) : Option Path :=
  o.bucket?.map fun b => s.bucketLog b repo

/-! ## Making a result set -/

/-- A character as it stands in the name of a directory. -/
def sanitizeChar (c : Char) : Char :=
  if Text.isAlphanumeric c || c == '-' || c == '_' || c == '.' then c else '-'

/-- The name of a campaign as it stands in the name of a directory. -/
def sanitize (name : String) : String := String.ofList (name.toList.map sanitizeChar)

/-- The beginning of the name of a result set. -/
def stem (campaign : String) : String := "fleetrun-foreach-" ++ sanitize campaign ++ "-"

/-- What the list of a bucket begins with. -/
def header (b : Bucket) (command : String) : String :=
  "# This file contains the list of repositories that " ++
    (match b with
      | .successful => "were successfully processed"
      | .failed => "failed to be processed") ++
    " by fleetrun foreach\n# for the command: " ++ command ++ "\n"

/-- The error of a new directory, which tells the path that was tried. -/
def atPath (e : IoError) (p : Path) : IoError :=
  .message (e.text ++ " at path " ++ Text.showQuoted true p.text)

/-- Makes a new directory below `base`: the first name that is free is taken. -/
def makeFresh (fs : FileSystem) (base : Path) (stem : String) :
    List Suffix → Except IoError (Path × FileSystem)
  | [] => .error (atPath (.message "too many temporary files exist") base)
  | suffix :: rest =>
    let p := base / (stem ++ suffix.text)
    match fs.makeDirectory p with
    | .ok made => .ok (p, made)
    | .error e => if e = .alreadyExists then makeFresh fs base stem rest else .error (atPath e p)

/-- Makes a bucket with the list that says what it is for. -/
def makeBucket (s : ResultSet) (command : String) (b : Bucket) (fs : FileSystem) :
    FileSystem × Except Error Unit :=
  match fs.makeDirectories (s.bucketDir b) with
  | (fs, .error e) => (fs, .error (.recorder (s.bucketDir b) e))
  | (fs, .ok ()) =>
    match fs.writeText (s.bucketList b) (header b command) with
    | .error e => (fs, .error (.recorder (s.bucketList b) e))
    | .ok fs => (fs, .ok ())

/-- A path from the root: a relative one is meant from the current directory. -/
def fromRoot (fs : FileSystem) (p : Path) : Path :=
  if p.isAbsolute then p else FileSystem.pathOf fs.cwd / p.text

/-- Makes a new result set below `parent`, which is made if it is missing. -/
def create (here : Surroundings) (parent : Path) (campaign command : String) (fs : FileSystem) :
    FileSystem × Except Error ResultSet :=
  match fs.makeDirectories parent with
  | (fs, .error e) => (fs, .error (.recorder parent e))
  | (fs, .ok ()) =>
    match makeFresh fs (fromRoot fs parent) (stem campaign) here.suffixes with
    | .error e => (fs, .error (.recorder parent e))
    | .ok (dir, fs) =>
      match fs.canonical dir with
      | .error e => (fs, .error (.recorder parent e))
      | .ok root =>
        let s : ResultSet := ⟨root⟩
        match s.makeBucket command .successful fs with
        | (fs, .error e) => (fs, .error e)
        | (fs, .ok ()) =>
          match s.makeBucket command .failed fs with
          | (fs, .error e) => (fs, .error e)
          | (fs, .ok ()) => (fs, .ok s)

/-! ## Recording -/

/-- Adds a repository to the list of a bucket. -/
def addToList (s : ResultSet) (b : Bucket) (repo : Repository) (fs : FileSystem) :
    FileSystem × Except Error Unit :=
  match fs.appendText (s.bucketList b) (repo.fullName ++ "\n") with
  | .ok fs => (fs, .ok ())
  | .error e => (fs, .error (.recorder (s.bucketList b) e))

/-- Writes the log of a repository, in a directory that is made if it is missing. -/
def writeLog (s : ResultSet) (b : Bucket) (repo : Repository) (log : String) (fs : FileSystem) :
    FileSystem × Except Error Unit :=
  let p := s.bucketLog b repo
  match fs.makeDirectories (repo.workDir (s.bucketDir b)) with
  | (fs, .error e) => (fs, .error (.recorder p e))
  | (fs, .ok ()) =>
    match fs.writeText p log with
    | .ok fs => (fs, .ok ())
    | .error e => (fs, .error (.recorder p e))

/-- Records a result.  The list and the log are written each whatever becomes of the other, and the
first of their errors is given. -/
def record (s : ResultSet) (result : Result) (fs : FileSystem) : FileSystem × Except Error Unit :=
  match result.outcome.bucket? with
  | none => (fs, .ok ())
  | some b =>
    let (fs, listed) := s.addToList b result.repo fs
    let (fs, logged) := s.writeLog b result.repo result.log fs
    (fs, match listed with
      | .error e => .error e
      | .ok () => logged)

/-- The warning about a result that could not be recorded. -/
def warning (repo : Repository) (e : Error) : String :=
  "Failed to record result for " ++ repo.fullName ++ ": " ++ e.message

end ResultSet

end Fleet

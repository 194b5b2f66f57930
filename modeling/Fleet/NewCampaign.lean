import Fleet.FileSystem.Operations
import Fleet.Settings.Basic

namespace Fleet

/-! # New campaigns

A new campaign is a directory with the files that a campaign needs, filled with defaults:

```
<name>/
  .gitignore        ignores the working copies and the pointer to the latest results
  .fleetrun.yaml    the default settings, with comments
  README.md         title and body of the pull request
  repos.txt         the list of repositories
  work/             the working copies
```

A directory that exists is left alone unless overwriting is asked for.
-/

/-- Why a campaign was not made. -/
inductive CreationError where
  /-- there is something of the name already -/
  | alreadyThere (name : String)
  | cannotMake (dir : Path) (source : IoError)
  | cannotWrite (file : Path) (source : IoError)
  deriving DecidableEq, Repr

namespace CreationError

/-- The text of an error. -/
def message : CreationError → String
  | alreadyThere name =>
    "Campaign directory '" ++ name ++ "' already exists. Use --force to overwrite."
  | cannotMake dir _ => "Unable to create " ++ dir.text
  | cannotWrite file _ => "Unable to write " ++ file.text

/-- The text of the error behind this one, if there is one. -/
def cause? : CreationError → Option String
  | alreadyThere _ => none
  | cannotMake _ source | cannotWrite _ source => some source.text

end CreationError

namespace NewCampaign

/-- The directory of working copies. -/
def workName : String := "work"

/-- The file that keeps working copies and results out of the history of the campaign. -/
def ignoreFile : String :=
  "/" ++ workName ++ "/\n/" ++ (({} : Settings).latestResults).text ++ "\n"

/-- The description of the pull request: its title is the name of the campaign. -/
def readme (name : String) : String :=
  "# " ++ name ++ "\n\n" ++
  "Describe the change made by this campaign. The first line above is used as\n" ++
  "the pull request title; everything below it becomes the pull request body.\n"

/-- A list without repositories, which says how they are written. -/
def emptyList : String :=
  "# One repository per line, as org/repo or host/org/repo.\n" ++
  "# Blank lines, comments and duplicates are ignored.\n"

/-- The files of a new campaign. -/
def files (name : String) : List (String × String) :=
  [(".gitignore", ignoreFile), (settingsFile, Settings.template), ("README.md", readme name),
    ("repos.txt", emptyList)]

/-- Writes files into a directory, up to the first that is refused. -/
def writeAll (dir : Path) : List (String × String) → FileSystem →
    FileSystem × Except CreationError Unit
  | [], fs => (fs, .ok ())
  | (name, text) :: rest, fs =>
    match fs.writeText (dir / name) text with
    | .error e => (fs, .error (.cannotWrite (dir / name) e))
    | .ok fs => writeAll dir rest fs

/-- Makes a campaign of a name; `overwrite` says that files may be there. -/
def create (name : String) (overwrite : Bool) (fs : FileSystem) :
    FileSystem × Except CreationError Unit :=
  let dir : Path := ⟨name⟩
  if fs.isPresent dir && !overwrite then (fs, .error (.alreadyThere name))
  else
    match fs.makeDirectories (dir / workName) with
    | (fs, .error e) => (fs, .error (.cannotMake (dir / workName) e))
    | (fs, .ok ()) => writeAll dir (files name) fs

end NewCampaign

end Fleet

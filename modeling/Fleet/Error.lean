import Fleet.IoError
import Fleet.Path
import Fleet.Settings.Error
import Fleet.Text.Blank

namespace Fleet

/-! # Errors

Everything that can go wrong.  Errors in the choice of repositories and in the files of a campaign
come before any repository is touched; a command that cannot be started or fails makes its
repository a failed one; a result set that cannot be written is fatal while it is made and a
warning afterwards.
-/

/-- What went wrong. -/
inductive Error where
  /-- choices that exclude each other, or a name that cannot be used -/
  | usage (message : String)
  /-- a file of the campaign that cannot be read -/
  | cannotOpen (path : Path) (source : IoError)
  /-- a line of a list of repositories that is none -/
  | badList (path : Path) (lineNumber : Nat) (line : String)
  /-- a settings file that cannot be understood -/
  | settings (path : Path) (source : Settings.FileError)
  /-- there is no latest result set -/
  | noPreviousResults (pointer : Path)
  /-- a command that could not be started -/
  | spawn (command : String) (source : IoError)
  /-- a command that ended without success; `stderr` is what it said, if that was kept -/
  | commandFailed (command status stderr : String)
  /-- a result set that could not be written -/
  | recorder (path : Path) (source : IoError)
  | io (source : IoError)
  deriving DecidableEq, Repr

namespace Error

/-- Text without the white space at its end. -/
def trimmedEnd (s : String) : String := String.ofList (Text.trimEnd s.toList)

/-- The text of an error. -/
def message : Error → String
  | usage message => "Usage error: " ++ message
  | cannotOpen path source => "Unable to open " ++ path.text ++ ": " ++ source.text
  | badList path number line =>
    "Unable to parse entry on line " ++ toString number ++ " of " ++ path.text ++ ": " ++ line
  | settings path source => "Invalid settings file " ++ path.text ++ ": " ++ source.message
  | noPreviousResults pointer =>
    "No previous results found at " ++ pointer.text ++
      " - run foreach without --successful/--failed first"
  | spawn command source => "Failed to start " ++ command ++ ": " ++ source.text
  | commandFailed command status stderr =>
    command ++ " failed with " ++ status ++
      (if stderr.isEmpty then "" else ": " ++ trimmedEnd stderr)
  | recorder path source => "Unable to write " ++ path.text ++ ": " ++ source.text
  | io source => "I/O error: " ++ source.text

/-- The text of the error behind this one, if there is one. -/
def cause? : Error → Option String
  | cannotOpen _ source | spawn _ source | recorder _ source | io source => some source.text
  | settings _ source => some source.message
  | usage _ | badList _ _ _ | noPreviousResults _ | commandFailed _ _ _ => none

end Error

end Fleet

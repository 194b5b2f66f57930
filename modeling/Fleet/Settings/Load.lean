import Fleet.Error
import Fleet.FileSystem.Operations
import Fleet.Settings.Reading

namespace Fleet

/-! # The settings file

The settings in the directory of a campaign, with every path meant from there.  Without a settings
file they are the defaults.
-/

namespace Settings

/-- Where the settings of a campaign are. -/
def fileOf (campaignDir : Path) : Path := campaignDir / settingsFile

/-- Reads the settings in the directory of a campaign. -/
def load (fs : FileSystem) (campaignDir : Path) : Except Error Settings :=
  match fs.readText (fileOf campaignDir) with
  | .ok text =>
    match parse text with
    | .ok settings => .ok (settings.resolve campaignDir)
    | .error e => .error (.settings (fileOf campaignDir) e)
  | .error e =>
    if e = .noEntry then .ok (resolve {} campaignDir)
    else .error (.cannotOpen (fileOf campaignDir) e)

end Settings

end Fleet

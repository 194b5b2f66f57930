import Fleet.Campaign
import Fleet.Run
import Fleet.Selection
import Fleet.Settings.Basic

namespace Fleet

/-! # A command for each repository

The whole of a run: the list of repositories is chosen and read, a result set is made, the pointer
is moved to it, and then the repositories are taken one by one.  An error in any of this but the
last ends it before any repository is touched.
-/

/-- What a run came to. -/
structure Report where
  campaign : String
  summary : Summary
  resultSet : ResultSet
  deriving DecidableEq, Repr

/-- What a run leaves: the display, the files, what the executor remembers and the warnings. -/
structure Aftermath (σ : Type) where
  display : Sink
  files : FileSystem
  executor : σ
  warnings : List String := []

namespace Foreach

variable {σ : Type}

/-- The line that opens a run. -/
def opening (commandLine : String) (repos : List Repository) : String :=
  "Running " ++ commandLine ++ " against " ++ toString repos.length ++ " repositories"

/-- Takes the repositories of a campaign, recording into a result set. -/
def proceed (x : Executor σ) (settings : Settings) (campaign : Campaign) (set : ResultSet)
    (command : String) (args : List String) (a : Aftermath σ) : Aftermath σ × Except Error Report :=
  let commandLine := Text.formatCommand command args
  match a.display.writeLine (opening commandLine campaign.repos) with
  | (display, .error e) => ({ a with display }, .error (.io e))
  | (display, .ok ()) =>
    let start : Progress σ (List String) :=
      { display, files := a.files, executor := a.executor, records := [] }
    let stop := Run.run x (.toSet set) ⟨settings.workDir, command, args⟩ campaign.repos start
    (⟨stop.display, stop.files, stop.executor, stop.records.reverse⟩,
      .ok ⟨campaign.name, stop.summary, set⟩)

/-- Makes a result set for a campaign and moves the pointer to it, then goes on. -/
def record (here : Surroundings) (x : Executor σ) (settings : Settings) (campaign : Campaign)
    (command : String) (args : List String) (a : Aftermath σ) : Aftermath σ × Except Error Report :=
  let parent := settings.resultsDir.getD here.tempDir
  match ResultSet.create here parent campaign.name (Text.formatCommand command args) a.files with
  | (files, .error e) => ({ a with files }, .error e)
  | (files, .ok set) =>
    match LatestPointer.update here.pid set settings.latestResults files with
    | (files, .error e) => ({ a with files }, .error e)
    | (files, .ok ()) => proceed x settings campaign set command args { a with files }

/-- Runs a command for each of the selected repositories. -/
def run (here : Surroundings) (x : Executor σ) (settings : Settings) (selection : Selection)
    (command : String) (args : List String) (a : Aftermath σ) : Aftermath σ × Except Error Report :=
  match selection.resolve a.files settings.reposFile settings.latestResults a.display with
  | (display, .error e) => ({ a with display }, .error e)
  | (display, .ok list) =>
    match Campaign.load a.files list settings.descriptionFile with
    | .error e => ({ a with display }, .error e)
    | .ok campaign => record here x settings campaign command args { a with display }

end Foreach

end Fleet

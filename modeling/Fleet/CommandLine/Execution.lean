import Fleet.ChildProcess
import Fleet.Clone
import Fleet.CommandLine.Ending
import Fleet.CommandLine.Order
import Fleet.Commit
import Fleet.Foreach
import Fleet.Settings.Load

namespace Fleet.CommandLine

/-! # Carrying out orders

The whole program as a function of its words, its surroundings and the files.  Every order but the
making of a campaign takes the current directory for that of the campaign.  What fails in single
repositories is counted and told, and the program ends well all the same.
-/

/-- What the program is started in. -/
structure Host where
  env : Variables
  /-- the terminal shows colours -/
  terminal : Bool := false
  process : Surroundings
  spawn : Spawn

namespace Host

/-- The display of the program. -/
def display : Sink := {}

/-- The settings of the campaign in the current directory. -/
def settings (fs : FileSystem) : Except Error Settings :=
  Settings.load fs (FileSystem.pathOf fs.cwd)

end Host

/-- The end of a part of the program: what was written, the files and the warnings, and what went
wrong. -/
structure Result where
  display : Sink
  files : FileSystem
  warnings : List String := []
  failure : Option Failure := none

namespace Result

/-- A part that went wrong before it did anything. -/
def failed (fs : FileSystem) (f : Failure) : Result :=
  { display := {}, files := fs, failure := some f }

/-- Writes lines. -/
def say (r : Result) (lines : List String) : Result :=
  { r with display := lines.foldl Sink.sayLine r.display }

end Result

/-- What is to be done next in a new campaign. -/
def nextSteps (name : String) : List String :=
  ["Next steps:",
    "  1. cd " ++ name,
    "  2. List the target repositories in repos.txt",
    "  3. Write the pull request title and body in README.md",
    "  4. Run \x60fleetrun clone\x60, then \x60fleetrun foreach -- <command>\x60"]

/-- Makes a new campaign. -/
def init (m : Markers) (name : String) (force : Bool) (fs : FileSystem) : Result :=
  match NewCampaign.create name force fs with
  | (fs, .error e) => .failed fs (.ofCreation e)
  | (fs, .ok ()) =>
    { display := {}, files := fs : Result }.say
      ((m.marker .success ++ " Created campaign '" ++ name ++ "' in " ++ name) :: nextSteps name)

/-- The result of taking repositories one by one, with a line that sums it up. -/
def summedUp (m : Markers) (activity : String) (w : Workshop Unit) : Result :=
  { display := w.display, files := w.files : Result }.say ["", w.summary.line activity m]

/-- Clones the repositories of a campaign. -/
def clone (host : Host) (m : Markers) (repos : Option Path) (defaultHost : Option String)
    (fs : FileSystem) : Result :=
  let loaded : Except Error (Settings × Campaign) := do
    let settings ← Host.settings fs
    return (settings, ← Campaign.load fs (repos.getD settings.reposFile) settings.descriptionFile)
  match loaded with
  | .error e => .failed fs (.ofError e)
  | .ok (settings, campaign) =>
    summedUp m "clone" <|
      Workshop.clone (ChildProcess.executor host.spawn) campaign.name campaign.repos
        settings.workDir (defaultHost.getD settings.cloneHost)
        { display := Host.display, files := fs, executor := () }

/-- Commits the changes in the working copies of a campaign. -/
def commit (host : Host) (m : Markers) (message : String) (fs : FileSystem) : Result :=
  let loaded : Except Error (Settings × Campaign) := do
    let settings ← Host.settings fs
    return (settings, ← Campaign.load fs settings.reposFile settings.descriptionFile)
  match loaded with
  | .error e => .failed fs (.ofError e)
  | .ok (settings, campaign) =>
    summedUp m "commit" <|
      Workshop.commit (ChildProcess.executor host.spawn) campaign.repos settings.workDir message
        { display := Host.display, files := fs, executor := () }

/-- How to go on after a run. -/
def hints (m : Markers) (report : Report) (command : String) (args : List String) : List String :=
  let hint := m.choose "💡" "Hint:"
  if report.summary.hasErrors then
    (hint ++ " Retry the failed repositories with: fleetrun foreach --failed -- " ++
      Text.formatCommand command args) ::
    (if 0 < report.summary.done then
      [hint ++ " Continue with the successful repositories with: " ++
        "fleetrun foreach --successful -- <command>"]
    else [])
  else []

/-- Runs a command in the working copies of a campaign. -/
def foreach (host : Host) (m : Markers) (repos : Option Path) (successful failed : Bool)
    (resultsDir : Option Path) (command : String) (args : List String) (fs : FileSystem) : Result :=
  let chosen : Except Error (Selection × Settings) := do
    let selection ← Selection.ofFlags repos successful failed
    let settings ← Host.settings fs
    return (selection, { settings with resultsDir := resultsDir.or settings.resultsDir })
  match chosen with
  | .error e => .failed fs (.ofError e)
  | .ok (selection, settings) =>
    let (after, result) :=
      Foreach.run host.process (ChildProcess.executor host.spawn) settings selection command args
        { display := Host.display, files := fs, executor := () }
    let r : Result := { display := after.display, files := after.files, warnings := after.warnings }
    match result with
    | .error e => { r with failure := some (.ofError e) }
    | .ok report =>
      r.say (["", report.summary.line "foreach" m,
        "View the output logs in: " ++ report.resultSet.root.text] ++ hints m report command args)

/-- Carries out an order. -/
def carryOut (host : Host) (m : Markers) (order : Order) (fs : FileSystem) : Result :=
  match order with
  | .init name force => init m name force fs
  | .clone repos defaultHost => clone host m repos defaultHost fs
  | .commit message => commit host m message fs
  | .foreach repos successful failed dir command args =>
    foreach host m repos successful failed dir command args fs

/-- Which messages are shown: the variable decides if it is there, else the switch. -/
def logFilter (env : Variables) (logLevel : String) : LogFilter :=
  .read ((env.lookup "RUST_LOG").getD logLevel)

/-- Runs the program. -/
def run (host : Host) (words : List String) (fs : FileSystem) : Ending :=
  match Orders.read host.env words with
  | .error .help => ⟨0, Text.encode help, "", fs⟩
  | .error .version => ⟨0, Text.encode ("fleetrun " ++ version ++ "\n"), "", fs⟩
  | .error .misuse => ⟨2, [], "error: unusable command line\n\n" ++ help, fs⟩
  | .ok orders =>
    let markers := Markers.ofFlag orders.color host.env host.terminal
    let r := carryOut host markers orders.order fs
    let filter := logFilter host.env orders.logLevel
    let told := toldWarnings filter (inColor host.env host.terminal) r.warnings
    match r.failure with
    | none => ⟨0, r.display.received.toList, told, r.files⟩
    | some failure => ⟨1, r.display.received.toList, told ++ failure.text, r.files⟩

end Fleet.CommandLine

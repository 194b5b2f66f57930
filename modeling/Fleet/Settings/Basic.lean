import Fleet.Path

namespace Fleet

/-! # Settings

Where the files of a campaign are.  Every setting has a default, and a relative path is meant from
the directory of the campaign until `Settings.resolve` makes it say so.
-/

/-- The file in the directory of a campaign that holds its settings. -/
def settingsFile : String := ".fleetrun.yaml"

/-- The settings of a campaign. -/
structure Settings where
  /-- the list of repositories -/
  reposFile : Path := ⟨"repos.txt"⟩
  /-- title and body of the pull request -/
  descriptionFile : Path := ⟨"README.md"⟩
  /-- where the working copies are -/
  workDir : Path := ⟨"work"⟩
  /-- where result sets are made; none stands for the directory of temporary files -/
  resultsDir : Option Path := none
  /-- the pointer to the latest result set -/
  latestResults : Path := ⟨".latest_results"⟩
  /-- the host of the repositories that name none -/
  cloneHost : String := "github.com"
  deriving DecidableEq, Repr, Inhabited

namespace Settings

/-- The names of the settings. -/
inductive Field where
  | reposFile
  | descriptionFile
  | workDir
  | resultsDir
  | latestResults
  | cloneHost
  deriving DecidableEq, Repr

namespace Field

/-- A name as it is written in the settings file. -/
def name : Field → String
  | reposFile => "repos_file"
  | descriptionFile => "description_file"
  | workDir => "work_dir"
  | resultsDir => "results_dir"
  | latestResults => "latest_results"
  | cloneHost => "clone_host"

/-- All names, in the order in which they are listed. -/
def all : List Field := [reposFile, descriptionFile, workDir, resultsDir, latestResults, cloneHost]

/-- The field of a name. -/
def ofName? (name : String) : Option Field := all.find? fun f => f.name == name

theorem ofName?_name (f : Field) : ofName? f.name = some f := by cases f <;> decide

end Field

/-- The settings with one of them given; only the directory of results can be given as nothing. -/
def give (s : Settings) (field : Field) (value : Option String) : Settings :=
  match field, value with
  | .resultsDir, value => { s with resultsDir := value.map Path.mk }
  | .reposFile, some v => { s with reposFile := ⟨v⟩ }
  | .descriptionFile, some v => { s with descriptionFile := ⟨v⟩ }
  | .workDir, some v => { s with workDir := ⟨v⟩ }
  | .latestResults, some v => { s with latestResults := ⟨v⟩ }
  | .cloneHost, some v => { s with cloneHost := v }
  | _, none => s

/-- A path as it is meant from the directory of the campaign. -/
def anchor (campaignDir p : Path) : Path := if p.isAbsolute then p else campaignDir / p.text

/-- The settings with every path meant from the directory of the campaign. -/
def resolve (s : Settings) (campaignDir : Path) : Settings :=
  { s with
    reposFile := anchor campaignDir s.reposFile
    descriptionFile := anchor campaignDir s.descriptionFile
    workDir := anchor campaignDir s.workDir
    latestResults := anchor campaignDir s.latestResults
    resultsDir := s.resultsDir.map (anchor campaignDir) }

/-- The settings file of a new campaign: the defaults, with comments. -/
def template : String :=
  "# fleetrun campaign settings\n" ++
  "# Every key is optional; the values below are the defaults.\n" ++
  "\n" ++
  "repos_file: repos.txt\n" ++
  "description_file: README.md\n" ++
  "work_dir: work\n" ++
  "latest_results: .latest_results\n" ++
  "clone_host: github.com\n" ++
  "\n" ++
  "# Where result sets are created (defaults to the system temp directory)\n" ++
  "# results_dir: /var/tmp/fleetrun\n"

end Settings

end Fleet

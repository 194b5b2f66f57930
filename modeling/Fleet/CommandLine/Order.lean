import Fleet.CommandLine.Switch
import Fleet.Markers
import Fleet.Path

namespace Fleet.CommandLine

/-! # Orders

What a command line asks for: one of four things to do, which markers to use, and which warnings to
show.
-/

/-- What is to be done. -/
inductive Order where
  /-- make a new campaign -/
  | init (name : String) (force : Bool)
  /-- clone the repositories of a campaign -/
  | clone (repos : Option Path) (host : Option String)
  /-- commit the changes in the working copies -/
  | commit (message : String)
  /-- run a command in the working copies -/
  | foreach (repos : Option Path) (successful failed : Bool) (resultsDir : Option Path)
      (command : String) (args : List String)
  deriving DecidableEq, Repr

/-- A whole command line. -/
structure Orders where
  color : String
  logLevel : String
  order : Order
  deriving DecidableEq, Repr

def helpSwitch : Switch := ⟨"help", some 'h', .help⟩

/-- The switches that may stand anywhere. -/
def everywhere : List Switch :=
  [⟨"color", none, .value true⟩, ⟨"log-level", none, .value true⟩, helpSwitch]

/-- The names of the things to do. -/
def orderNames : List String := ["init", "clone", "commit", "foreach"]

/-- The switches in front of the thing to do. -/
def outer : Grammar where
  switches := ⟨"version", some 'V', .version⟩ :: everywhere
  commands := "help" :: orderNames

/-- The switches of a thing to do. -/
def inner (name : String) : Grammar where
  switches := everywhere ++ match name with
    | "init" => [⟨"name", some 'n', .value true⟩, ⟨"force", some 'f', .flag⟩]
    | "clone" => [⟨"repos", none, .value false⟩, ⟨"host", none, .value true⟩]
    | "commit" => [⟨"message", some 'm', .value true⟩]
    | _ =>
      [⟨"repos", none, .value false⟩, ⟨"successful", none, .flag⟩, ⟨"failed", none, .flag⟩,
        ⟨"results-dir", none, .value false⟩]
  takesOperands := name = "foreach"

/-- The variable that says where result sets are made, if no switch does. -/
def resultsVariable : String := "FLEETRUN_RESULTS_DIR"

/-- Where result sets are made, by the switch or the variable. -/
def resultsDir (env : Variables) (given : Given) : Except Stop (Option Path) :=
  match given.value? "results-dir" with
  | some dir => .ok (some ⟨dir⟩)
  | none =>
    match env.lookup resultsVariable with
    | some dir => if dir.isEmpty then .error .misuse else .ok (some ⟨dir⟩)
    | none => .ok none

/-- The order that a name, its switches and operands make. -/
def Order.ofGiven (env : Variables) (name : String) (given : Given) (operands : List String) :
    Except Stop Order := do
  match name with
  | "init" =>
    match given.value? "name" with
    | some campaign => return .init campaign (given.has "force")
    | none => .error .misuse
  | "clone" => return .clone ((given.value? "repos").map Path.mk) (given.value? "host")
  | "commit" =>
    match given.value? "message" with
    | some message => return .commit message
    | none => .error .misuse
  | _ =>
    let dir ← resultsDir env given
    match operands with
    | command :: args =>
      return .foreach ((given.value? "repos").map Path.mk) (given.has "successful")
        (given.has "failed") dir command args
    | [] => .error .misuse

/-- The names behind `help`: nothing, or one name. -/
def isHelpTopic : List String → Bool
  | [] => true
  | [name] => outer.commands.contains name
  | _ => false

/-- Reads a command line.  A switch in front of the thing to do that still waits is added only when
all behind it is read. -/
def Orders.read (env : Variables) (words : List String) : Except Stop Orders := do
  let front ← CommandLine.read outer .nothing [] words
  match front.command with
  | none => .error .misuse
  | some ("help", topic) => .error (if isHelpTopic topic then .help else .misuse)
  | some (name, rest) =>
    let back ← CommandLine.read (inner name) .nothing [] rest
    let given ← back.waiting.settle back.given
    let order ← Order.ofGiven env name given back.operands
    let before ← front.waiting.settle front.given
    let choice (long default : String) : String :=
      ((given.value? long).or (before.value? long)).getD default
    return ⟨choice "color" "auto", choice "log-level" "warn", order⟩

end Fleet.CommandLine

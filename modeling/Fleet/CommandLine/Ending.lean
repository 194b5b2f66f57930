import Fleet.CommandLine.LogFilter
import Fleet.Error
import Fleet.Markers
import Fleet.NewCampaign
import Fleet.Text.Controls
import Fleet.Text.Lines

namespace Fleet.CommandLine

/-! # Endings

How the program ends: what it has written to its two streams, the code that it ends with, and the
files.  An error is told on the second stream, with the error behind it if there is one.
-/

/-- The end of the program. -/
structure Ending where
  code : Nat
  stdout : List UInt8
  stderr : String
  files : FileSystem

/-- An error that ends the program. -/
structure Failure where
  message : String
  cause : Option String
  deriving DecidableEq, Repr

namespace Failure

def ofError (e : Error) : Failure := ⟨e.message, e.cause?⟩

def ofCreation (e : CreationError) : Failure := ⟨e.message, e.cause?⟩

/-- A text with four blanks in front of every line. -/
def indented (text : String) : String :=
  "\n".intercalate ((Text.splitOn '\n' text.toList).map fun line => "    " ++ String.ofList line)

/-- How an error is told. -/
def text (f : Failure) : String :=
  "Error: " ++ f.message ++
    (match f.cause with
      | some cause => "\n\nCaused by:\n" ++ indented cause
      | none => "") ++ "\n"

end Failure

/-- The part of the program that warns. -/
def warningPart : String := "fleetrun::results"

/-- Warnings are told in colour: a variable says so, or the terminal shows colours. -/
def inColor (env : Variables) (terminal : Bool) : Bool :=
  match env.lookup "RUST_LOG_STYLE" with
  | some "always" => true
  | some "never" => false
  | _ =>
    if (env.lookup "NO_COLOR").any fun v => !v.isEmpty then false
    else if (env.lookup "CLICOLOR_FORCE").any fun v => !v.isEmpty then true
    else if env.lookup "CLICOLOR" = some "0" then false
    else terminal

/-- A text in one of the colours of a terminal. -/
def colored (color text : String) : String := "\x1b[" ++ color ++ "m" ++ text ++ "\x1b[0m"

/-- What stands in front of a warning. -/
def warningHeader (color : Bool) : String :=
  if color then
    colored "90" "[" ++ colored "33" "WARN " ++ " " ++ warningPart ++ colored "90" "]" ++ " "
  else "[WARN  " ++ warningPart ++ "] "

/-- The lines of a warning after its first are indented. -/
def hanging (text : String) : String :=
  "\n    ".intercalate ((Text.splitOn '\n' text.toList).map String.ofList)

/-- A warning as it is told.  Without colour it is told without any control sequence. -/
def toldWarning (color : Bool) (text : String) : String :=
  let line := warningHeader color ++ hanging text ++ "\n"
  if color then line else String.ofList (Text.withoutControls line.toList)

/-- The warnings that a filter shows, as they are told. -/
def toldWarnings (filter : LogFilter) (color : Bool) (warnings : List String) : String :=
  let complaints := filter.complaints.map fun text => "warning: " ++ text ++ ", ignoring it\n"
  let shown := warnings.filter (filter.showsWarning warningPart)
  String.join (complaints ++ shown.map (toldWarning color))

/-- The text that explains the command line. -/
def help : String :=
  "Run one command in every working copy of a campaign and record the results\n\n" ++
  "Usage: fleetrun [OPTIONS] <COMMAND>\n\n" ++
  "Commands:\n" ++
  "  init     Create a new campaign directory\n" ++
  "  clone    Clone every repository of the campaign into the work directory\n" ++
  "  commit   Commit pending changes in every working copy\n" ++
  "  foreach  Run a command in every working copy and record the results\n" ++
  "  help     Print this message\n\n" ++
  "Options:\n" ++
  "      --color <WHEN>       Colorize output (always, never, auto) [default: auto]\n" ++
  "      --log-level <LEVEL>  Set log level (error, warn, info, debug, trace) [default: warn]\n" ++
  "  -h, --help               Print help\n" ++
  "  -V, --version            Print version\n"

/-- The version of the program. -/
def version : String := "0.1.0"

end Fleet.CommandLine

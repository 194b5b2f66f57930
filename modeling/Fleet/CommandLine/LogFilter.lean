import Fleet.CommandLine.Pattern.Meaning
import Fleet.Text.Blank
import Fleet.Text.Lines

namespace Fleet.CommandLine

/-! # Log filters

Which messages about the program itself are shown.  A filter is a list of directives separated by
commas: a level, the beginning of the name of a part of the program, or `part=level`.  For every
part the directive with the longest name decides; behind a `/` there may be a pattern that every
message has to match.
-/

/-- How much is shown. -/
inductive Level where
  | off
  | error
  | warn
  | info
  | debug
  | trace
  deriving DecidableEq, Repr

namespace Level

def names : List (String × Level) :=
  [("off", off), ("error", error), ("warn", warn), ("info", info), ("debug", debug),
    ("trace", trace)]

/-- The level of a name, without regard to ASCII case. -/
def ofName? (name : List Char) : Option Level :=
  names.lookup (String.ofList (name.map Char.toLower))

/-- Warnings are shown. -/
def showsWarnings : Level → Bool
  | off | error => false
  | warn | info | debug | trace => true

end Level

/-- A level for the parts whose names begin with `part`. -/
structure Directive where
  part : Option (List Char)
  level : Level
  deriving DecidableEq, Repr

/-- What is shown. -/
structure LogFilter where
  directives : List Directive := []
  pattern : Option Pattern.Expression := none
  /-- the pieces that could not be read -/
  complaints : List String := []

namespace LogFilter

/-- Reads one directive. -/
def directive (text : List Char) : Except (List Char) Directive :=
  match Text.splitOn '=' text with
  | [one] =>
    match Level.ofName? one with
    | some level => .ok ⟨none, level⟩
    | none => .ok ⟨some one, .trace⟩
  | [part, level] =>
    let level := Text.trim level
    if level.isEmpty then .ok ⟨some part, .trace⟩
    else match Level.ofName? level with
      | some level => .ok ⟨some part, level⟩
      | none => .error level
  | _ => .error text

/-- Adds a directive, in the place of the one for the same part. -/
def insert (d : Directive) : List Directive → List Directive
  | [] => [d]
  | other :: rest => if other.part = d.part then d :: rest else other :: insert d rest

/-- Adds what a piece of a filter says. -/
def add (f : LogFilter) (piece : List Char) : LogFilter :=
  let piece := Text.trim piece
  if piece.isEmpty then f
  else match directive piece with
    | .ok d => { f with directives := insert d f.directives }
    | .error bad =>
      { f with
        complaints := f.complaints ++ ["invalid logging spec '" ++ String.ofList bad ++ "'"] }

/-- Reads a filter; one that says nothing shows errors alone. -/
def read (text : String) : LogFilter :=
  match Text.splitOn '/' text.toList with
  | [directives] => (Text.splitOn ',' directives).foldl add {}
  | [directives, pattern] =>
    let f : LogFilter := (Text.splitOn ',' directives).foldl add {}
    match Pattern.read (String.ofList pattern) with
    | .ok r => { f with pattern := some r }
    | .error flaw => { f with complaints := f.complaints ++ ["invalid regex filter - " ++ flaw] }
  | _ => { complaints := ["invalid logging spec '" ++ text ++ "' (too many '/'s)"] }

/-- The directive that decides for a part: the one with the longest name, and of two as long the
later one. -/
def deciding? (f : LogFilter) (part : List Char) : Option Directive :=
  let length (d : Directive) : Nat := (d.part.getD []).length
  (f.directives.filter fun d => (d.part.getD []).isPrefixOf part).foldl (fun best d =>
    match best with
    | none => some d
    | some b => if length b ≤ length d then some d else some b) none

/-- A warning of a part of the program is shown. -/
def showsWarning (f : LogFilter) (part message : String) : Bool :=
  (match f.deciding? part.toList with
    | some d => d.level.showsWarnings
    | none => false) &&
  (match f.pattern with
    | some e => e.occursIn message.toList
    | none => true)

end LogFilter

end Fleet.CommandLine

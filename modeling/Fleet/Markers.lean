namespace Fleet

/-! # Markers

A status line opens with a marker, which is an emoji or plain ASCII.  The choice is made by a word
on the command line, and if that leaves it open, by the usual variables of the environment.
-/

/-- How a status line is to be read. -/
inductive Tone where
  | success
  | warning
  deriving DecidableEq, Repr

/-- Which markers are used. -/
structure Markers where
  emoji : Bool
  deriving DecidableEq, Repr

/-- Variables of the environment, by name. -/
abbrev Variables := List (String × String)

namespace Markers

/-- The first of the two texts if emoji are used, else the second. -/
def choose (m : Markers) (emoji plain : String) : String := if m.emoji then emoji else plain

/-- The marker that opens a line. -/
def marker (m : Markers) : Tone → String
  | .success => m.choose "✅" "[OK]"
  | .warning => m.choose "⚠️ " "[WARN]"

/-- What the environment says; `terminal` is whether the terminal shows colours. -/
def detect (env : Variables) (terminal : Bool) : Bool :=
  if (env.lookup "NO_COLOR").isSome then false
  else if env.lookup "CLICOLOR" = some "0" then false
  else if (env.lookup "CLICOLOR_FORCE").any fun v => v != "0" && !v.isEmpty then true
  else if env.lookup "TERM" = some "dumb" then false
  else terminal

/-- The word without regard to ASCII case. -/
def lower (word : String) : String := String.ofList (word.toList.map Char.toLower)

/-- The markers for a word of the command line and an environment. -/
def ofFlag (flag : String) (env : Variables) (terminal : Bool) : Markers :=
  if lower flag = "always" then ⟨true⟩
  else if lower flag = "never" then ⟨false⟩
  else ⟨detect env terminal⟩

end Markers

end Fleet

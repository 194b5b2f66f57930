import Fleet.Shell.Expression

namespace Fleet.Shell

/-! # Scripts of the line editor

A script is a list of steps, each for some lines.  There is one line at work, the space, and one
that is held.  Texts are taken byte by byte.
-/

namespace LineEditor

/-- An expression with the number of its groups; the empty one stands for the last that was used. -/
abbrev Pattern := Option (Text.Regex × Nat)

/-- A line that a step begins with. -/
inductive Spot where
  | line (n : Nat)
  | last
  | like (p : Pattern)
  /-- every so many lines -/
  | every (first step : Nat)

/-- A line that a step ends with. -/
inductive Bound where
  | line (n : Nat)
  | last
  | like (p : Pattern)
  /-- so many lines more -/
  | more (n : Nat)
  /-- up to a multiple -/
  | multiple (n : Nat)

/-- The lines that a step is for. -/
structure Choice where
  start : Option Spot := none
  stop : Option Bound := none
  negated : Bool := false

/-- What happens to the case of letters. -/
inductive Casing where
  | upper
  | lower
  | none
  deriving DecidableEq, Repr

/-- A piece of what is put in the place of a match. -/
inductive Piece where
  | text (cs : List Char)
  | group (n : Nat)
  | casing (c : Casing)
  /-- the case of the next letter only -/
  | next (c : Casing)

/-- How a replacement is done. -/
structure Manner where
  everywhere : Bool := false
  shown : Bool := false
  /-- the first match that counts -/
  nth : Nat := 1
  ignoreCase : Bool := false
  file : Option String := none
  numbered : Bool := false

/-- What a step does. -/
inductive Deed where
  | nothing
  | block
  | close
  | label (name : String)
  | branch (name : String)
  | branchIf (changed : Bool) (name : String)
  | append (text : List Char)
  | insert (text : List Char)
  | change (text : List Char)
  | delete
  | deleteLine
  | get (adding : Bool)
  | hold (adding : Bool)
  | exchange
  | listing (width : Option Nat)
  | next
  | join
  | print
  | printLine
  | number
  | fileName
  | quit (code : Nat) (silent : Bool)
  | readFile (name : String)
  | writeFile (name : String) (firstLine : Bool)
  | replace (p : Pattern) (pieces : List Piece) (manner : Manner)
  | recode (pairs : List (Char × Char))
  | clear

/-- A step of a script. -/
structure Step where
  choice : Choice
  deed : Deed

end LineEditor

end Fleet.Shell

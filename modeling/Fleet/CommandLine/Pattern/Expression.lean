import Fleet.Text.CharSet
import Fleet.Text.Route

namespace Fleet.CommandLine.Pattern

/-! # What a pattern describes

Patterns describe texts.  The functions that make descriptions keep them plain: what must be there
no times is left out, a part that can only be empty is there at most once, and a choice between
single characters is one set.  An `Expression` is always made by them.
-/

open Text (CharSet)

/-- What a place between two characters can be asked for. -/
inductive Look where
  /-- nothing stands before it -/
  | textStart
  /-- nothing stands behind it -/
  | textEnd
  /-- something about lines or words -/
  | around (holds : Option Char → Option Char → Bool)
  /-- something about the words of all scripts, which nobody can tell here -/
  | unknown

/-- The look is true of the characters before and behind a place. -/
def Look.holds : Look → Option Char → Option Char → Bool
  | textStart, before, _ => before.isNone
  | textEnd, _, behind => behind.isNone
  | around holds, before, behind => holds before behind
  | unknown, _, _ => false

/-- A description of texts. -/
inductive Expression where
  /-- the empty text -/
  | empty
  /-- a character of a set -/
  | one (set : CharSet)
  /-- nothing, at a place -/
  | look (l : Look)
  | cat (first second : Expression)
  | alt (first second : Expression)
  /-- at least `least` times, at most `most` times if there is a bound -/
  | repeated (body : Expression) (least : Nat) (most : Option Nat)
  /-- a part in parentheses -/
  | group (body : Expression)

namespace Expression

/-! ## Lengths -/

/-- How many characters a text that is described has at least; none if a part that it could need
describes no text. -/
def minLength? : Expression → Option Nat
  | empty | look _ => some 0
  | one set => if set.isEmpty then none else some 1
  | cat a b => return (← a.minLength?) + (← b.minLength?)
  | alt a b => return min (← a.minLength?) (← b.minLength?)
  | repeated r least _ => return (← r.minLength?) * least
  | group r => r.minLength?

/-- Only the empty text is described. -/
def isOnlyEmpty : Expression → Bool
  | empty | look _ => true
  | one _ => false
  | cat a b | alt a b => a.isOnlyEmpty && b.isOnlyEmpty
  | repeated r _ _ | group r => r.isOnlyEmpty

/-- Every text that is described has a character. -/
def isNeverEmpty (e : Expression) : Bool := e.minLength?.any (0 < ·)

/-! ## Making descriptions -/

/-- One description behind another. -/
def append : Expression → Expression → Expression
  | empty, b => b
  | a, empty => a
  | cat a b, c => cat a (append b c)
  | a, b => cat a b

/-- Descriptions one behind the other. -/
def concat (parts : List Expression) : Expression := parts.foldr append empty

/-- The ways in which a text may be as it is described. -/
def branches : Expression → List Expression
  | alt a b => a.branches ++ b.branches
  | e => [e]

/-- The set of a description of single characters. -/
def set? : Expression → Option CharSet
  | one set => some set
  | _ => none

/-- One of several descriptions. -/
def choice (parts : List Expression) : Expression :=
  match parts.flatMap branches with
  | [] => one .none
  | first :: rest =>
    match (first :: rest).mapM set? with
    | some sets => one (.ofRanges (sets.flatMap CharSet.ranges))
    | none =>
      match (first :: rest).reverse with
      | last :: before => before.foldl (fun later e => alt e later) last
      | [] => first

/-- A description several times. -/
def often (r : Expression) (least : Nat) (most : Option Nat) : Expression :=
  let (least, most) := if r.isOnlyEmpty then (min least 1, some (min (most.getD 1) 1))
    else (least, most)
  if least = 0 && most = some 0 then empty
  else if least = 1 && most = some 1 then r
  else repeated r least most

/-! ## Looking at descriptions -/

/-- A place is asked for something that nobody can tell. -/
def asksUnknown : Expression → Bool
  | look .unknown => true
  | cat a b | alt a b => a.asksUnknown || b.asksUnknown
  | repeated r _ _ | group r => r.asksUnknown
  | _ => false

/-- The way through a text that a description stands for. -/
def route (text : List Char) : Expression → Text.Route
  | empty => .stay
  | one set => .step (Text.Route.placesBefore set.contains text)
  | look l => .gate (Text.Route.placesBetween l.holds text)
  | cat a b => .cat (a.route text) (b.route text)
  | alt a b => .alt (a.route text) (b.route text)
  | repeated r least most =>
    .repeated (r.route text) least
      (match most with | some n => n - least | none => text.length + 1)
  | group r => r.route text

/-- A part of a text is as it is described. -/
def occursIn (e : Expression) (text : List Char) : Bool := (e.route text).leads text

end Expression

end Fleet.CommandLine.Pattern

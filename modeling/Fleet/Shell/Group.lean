import Fleet.Shell.Pattern

namespace Fleet.Shell

/-! # Patterns with groups

A pattern may have groups of patterns with bars between them: `@(…)` is one of them, `?(…)` one or
none, `*(…)` any number, `+(…)` at least one, and `!(…)` is any text that none of them matches.  Only
an extended shell reads them, and only where it is asked to.
-/

/-- A piece of a pattern: a pattern without groups, or a group. -/
inductive Shape where
  | plain (pattern : List Glob)
  | group (sign : Char) (options : List (List Shape))

/-- A pattern, piece by piece. -/
abbrev Shapes := List Shape

namespace Shapes

/-- The ways to cut a text in two. -/
def cuts (text : List Char) : List (List Char × List Char) :=
  (List.range (text.length + 1)).map fun n => text.splitAt n

/-- A pattern matches a whole text; `n` bounds how often groups are tried. -/
def acceptsFrom : Nat → Shapes → List Char → Bool
  | 0, _, _ => false
  | _, [], text => text.isEmpty
  | _, [.plain pattern], text => Glob.matchesAll pattern text
  | n + 1, .plain pattern :: rest, text =>
    (cuts text).any fun (a, b) => Glob.matchesAll pattern a && acceptsFrom n rest b
  | n + 1, .group sign options :: rest, text =>
    let one (a : List Char) : Bool := options.any fun o => acceptsFrom n o a
    let again : Shapes := .group '*' options :: rest
    match sign with
    | '@' => (cuts text).any fun (a, b) => one a && acceptsFrom n rest b
    | '?' => acceptsFrom n rest text || (cuts text).any fun (a, b) => one a && acceptsFrom n rest b
    | '!' => (cuts text).any fun (a, b) => !one a && acceptsFrom n rest b
    | '+' => (cuts text).any fun (a, b) => one a && acceptsFrom n again b
    | _ =>
      acceptsFrom n rest text ||
        (cuts text).any fun (a, b) => !a.isEmpty && one a && acceptsFrom n again b

/-- A pattern matches the whole of some bytes. -/
def acceptsBytes (shapes : Shapes) (text : List Char) : Bool :=
  acceptsFrom (2 * (shapes.length + text.length) + 8) shapes text

/-- A pattern matches a whole text. -/
def accepts (shapes : Shapes) (text : String) : Bool := shapes.acceptsBytes (Bytes.narrow text)

/-- The signs in front of groups. -/
def signs : List Char := ['?', '*', '+', '@', '!']

/-- Cuts the inside of a group at its bars, up to the parenthesis that ends it: the options, the
latest first, and what stands behind. -/
def optionsOf : Nat → List (Char × Bool) → List (List (Char × Bool)) → List (Char × Bool) →
    Option (List (List (Char × Bool)) × List (Char × Bool))
  | _, _, _, [] => none
  | depth, taken, done, m :: rest =>
    if m = ('(', false) then optionsOf (depth + 1) (m :: taken) done rest
    else if m = (')', false) then
      match depth with
      | 0 => some (taken.reverse :: done, rest)
      | depth + 1 => optionsOf depth (m :: taken) done rest
    else if m = ('|', false) && depth = 0 then optionsOf 0 [] (taken.reverse :: done) rest
    else optionsOf depth (m :: taken) done rest

/-- Reads a pattern in which every byte is marked as quoted or not; `plain` are the bytes before,
latest first. -/
def readFrom : Nat → List (Char × Bool) → List (Char × Bool) → Shapes
  | 0, _, _ => []
  | n + 1, plain, cs =>
    let before : Shapes := if plain.isEmpty then [] else
      [.plain (Glob.readFrom plain.length plain.reverse)]
    match cs with
    | [] => before
    | (c, false) :: ('(', false) :: rest =>
      match if signs.contains c then optionsOf 0 [] [] rest else none with
      | some (options, after) =>
        before ++ .group c (options.reverse.map (readFrom n [])) :: readFrom n [] after
      | none => readFrom n ((c, false) :: plain) (('(', false) :: rest)
    | m :: rest => readFrom n (m :: plain) rest

/-- Reads a pattern in which every character is marked as quoted or not. -/
def read (grouping : Bool) (marked : List (Char × Bool)) : Shapes :=
  if grouping then
    let bytes := marked.flatMap fun (c, quoted) =>
      (Bytes.narrow c.toString).map fun b => (b, quoted)
    readFrom (2 * bytes.length + 2) [] bytes
  else [.plain (Glob.read marked)]

/-- A pattern has a piece that matches more than itself. -/
def isActive (shapes : Shapes) : Bool :=
  shapes.any fun
    | .plain pattern => Glob.isActive pattern
    | .group _ _ => true

/-- A pattern begins with a point. -/
def startsWithPoint (shapes : Shapes) : Bool :=
  match shapes.head? with
  | some (.plain (.exactly '.' :: _)) => true
  | _ => false

/-- The text without what a pattern matches at its start. -/
def dropFront (shapes : Shapes) (longest : Bool) (text : String) : String :=
  let bytes := Bytes.narrow text
  let found := (cuts bytes).filter fun (a, _) => shapes.acceptsBytes a
  match if longest then found.getLast? else found.head? with
  | some (_, rest) => Bytes.widen rest
  | none => text

/-- The text without what a pattern matches at its end. -/
def dropEnd (shapes : Shapes) (longest : Bool) (text : String) : String :=
  let bytes := Bytes.narrow text
  let found := (cuts bytes).filter fun (_, b) => shapes.acceptsBytes b
  match if longest then found.head? else found.getLast? with
  | some (rest, _) => Bytes.widen rest
  | none => text

/-- The longest start of some bytes that a pattern matches: how long it is. -/
def longestStart? (shapes : Shapes) (text : List Char) : Option Nat :=
  ((List.range (text.length + 1)).filter fun n => shapes.acceptsBytes (text.take n)).getLast?

/-- Puts a text in the place of every piece that a pattern matches, or of the first. -/
def replacedFrom (shapes : Shapes) (all : Bool) (text : List Char → List Char) :
    Nat → List Char → List Char
  | 0, cs => cs
  | _, [] => []
  | n + 1, c :: rest =>
    match shapes.longestStart? (c :: rest) with
    | some (k + 1) =>
      let after := (c :: rest).drop (k + 1)
      text ((c :: rest).take (k + 1)) ++ if all then replacedFrom shapes all text n after else after
    | _ => c :: replacedFrom shapes all text n rest

/-- Puts a text in the place of the start that a pattern matches. -/
def replacedFront (shapes : Shapes) (text : List Char → List Char) (cs : List Char) : List Char :=
  match shapes.longestStart? cs with
  | some n => text (cs.take n) ++ cs.drop n
  | none => cs

/-- Puts a text in the place of the end that a pattern matches. -/
def replacedBack (shapes : Shapes) (text : List Char → List Char) (cs : List Char) : List Char :=
  match (cuts cs).find? fun (_, b) => shapes.acceptsBytes b with
  | some (a, b) => a ++ text b
  | none => cs

end Shapes

end Fleet.Shell

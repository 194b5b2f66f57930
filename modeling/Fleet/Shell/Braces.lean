import Fleet.Shell.Command
import Fleet.Shell.Number

namespace Fleet.Shell

/-! # Words from braces

An extended shell makes several words of one with braces: `a{b,c}` becomes `ab` and `ac`, and
`{1..3}` becomes `1`, `2` and `3`.  Only characters that are not quoted count; whatever else stands
in a word is kept as it is.
-/

namespace Braces

/-- A piece of a word: a character that is not quoted, or anything else. -/
inductive Atom where
  | char (c : Char)
  | part (p : Part)

namespace Atom

/-- The piece is a certain character. -/
def isChar (c : Char) : Atom → Bool
  | char d => c == d
  | part _ => false

/-- The character of a piece. -/
def char? : Atom → Option Char
  | char c => some c
  | part _ => none

end Atom

/-- The pieces of a word. -/
def atoms (word : Word) : List Atom :=
  word.flatMap fun
    | .text cs false => cs.map .char
    | part => [.part part]

/-- The word of some pieces. -/
def word (pieces : List Atom) : Word :=
  Word.joined (pieces.map fun
    | .char c => .text [c] false
    | .part p => p)

/-- Two points stand in front of something that is no closing brace. -/
def rangeSign : List Atom → Bool
  | a :: b :: c :: _ => a.isChar '.' && b.isChar '.' && !c.isChar '\x7d'
  | _ => false

/-- What stands between an opening brace and the one that closes it, and what stands behind.  There
must be a comma or the sign of a range between them; `splits` says that there was one. -/
def closed : Nat → Bool → List Atom → Option (List Atom × List Atom)
  | _, _, [] => none
  | level, splits, a :: rest =>
    if level = 0 && splits && a.isChar '\x7d' then some ([], rest)
    else
      let splits := splits || (level = 0 && (a.isChar ',' || rangeSign (a :: rest)))
      let level := if a.isChar '\x7b' then level + 1
        else if a.isChar '\x7d' then level - 1 else level
      (closed level splits rest).map fun (inside, after) => (a :: inside, after)

/-- What stands before, between and behind the first braces of a word. -/
def first? : List Atom → Option (List Atom × List Atom × List Atom)
  | [] => none
  | a :: rest =>
    let later := (first? rest).map fun (before, inside, after) => (a :: before, inside, after)
    if a.isChar '\x7b' then
      match closed 0 false rest with
      | some (inside, after) => some ([], inside, after)
      | none => later
    else later

/-- Cuts pieces at the commas that stand in no further braces. -/
def options : Nat → List Atom → List (List Atom)
  | _, [] => [[]]
  | level, a :: rest =>
    if level = 0 && a.isChar ',' then [] :: options 0 rest
    else
      let level := if a.isChar '\x7b' then level + 1
        else if a.isChar '\x7d' then level - 1 else level
      match options level rest with
      | [] => [[a]]
      | o :: others => (a :: o) :: others

/-- Numbers from one to another in equal steps. -/
def steps (first last step : Int) : List Int :=
  let size : Int := if step = 0 then 1 else Int.ofNat step.natAbs
  let count := ((last - first).natAbs / size.toNat) + 1
  (List.range count).map fun (k : Nat) =>
    if first ≤ last then first + Int.ofNat k * size else first - Int.ofNat k * size

/-- How many numbers a range has at most. -/
def maxCount : Nat := 1000000

/-- A number with its zeros in front. -/
def padded (width : Nat) (n : Int) : List Char :=
  let digits := (toString n.natAbs).toList
  let sign := if n < 0 then ['-'] else []
  sign ++ List.replicate (width - sign.length - digits.length) '0' ++ digits

/-- A number has zeros in front. -/
def hasZeros (cs : List Char) : Bool :=
  match cs with
  | '-' :: '0' :: _ :: _ => true
  | '0' :: _ :: _ => true
  | _ => false

/-- The texts of a range. -/
def range? (inside : List Char) : Option (List (List Char)) :=
  let rec pieces : List Char → List (List Char)
    | [] => [[]]
    | '.' :: '.' :: rest => [] :: pieces rest
    | c :: rest => match pieces rest with
      | [] => [[c]]
      | p :: others => (c :: p) :: others
  let number? (cs : List Char) : Option Int :=
    let isPlain := cs.all fun c => c.isDigit || c == '-' || c == '+'
    if isPlain then Number.ofText? 10 (String.ofList cs) else none
  let ranged (a b : List Char) (step : Int) : Option (List (List Char)) :=
    match number? a, number? b, a, b with
    | some m, some n, _, _ =>
      let width := if hasZeros a || hasZeros b then max a.length b.length else 0
      if maxCount < (n - m).natAbs then none else some ((steps m n step).map (padded width))
    | _, _, [c], [d] =>
      if c.isAlpha && d.isAlpha then
        some ((steps c.toNat d.toNat step).map fun k => [Char.ofNat k.toNat])
      else none
    | _, _, _, _ => none
  match pieces inside with
  | [a, b] => ranged a b 1
  | [a, b, c] => (number? c).bind (ranged a b)
  | _ => none

/-- The words that a word becomes; `n` bounds how many braces are opened. -/
def expandFrom : Nat → List Atom → List (List Atom)
  | 0, pieces => [pieces]
  | n + 1, pieces =>
    match first? pieces with
    | none => [pieces]
    | some (before, inside, after) =>
      let middle : List (List Atom) :=
        match options 0 inside with
        | [one] =>
          match (one.mapM Atom.char?).bind range? with
          | some texts => texts.map fun cs => cs.map .char
          | none =>
            if one.any (Atom.isChar ',') then expandFrom n one
            else [Atom.char '\x7b' :: one ++ [Atom.char '\x7d']]
        | several => several.flatMap (expandFrom n)
      let ends := expandFrom n after
      middle.flatMap fun m => ends.map fun e => before ++ m ++ e

/-- The words that a word becomes. -/
def expand (w : Word) : List Word :=
  let pieces := atoms w
  if pieces.any (Atom.isChar '\x7b') then
    (expandFrom (pieces.length + 1) pieces).map word
  else [w]

end Braces

end Fleet.Shell

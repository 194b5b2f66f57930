import Fleet.Shell.Bytes

namespace Fleet.Shell

/-! # Patterns

The patterns of a shell: `*` matches any text, `?` any one byte, `[a-z]` one of a set.  A pattern
is about bytes, so texts are taken byte by byte.
-/

/-- A piece of a pattern. -/
inductive Glob where
  | exactly (c : Char)
  | anyOne
  | anyText
  | oneOf (ranges : List (Char × Char)) (complement : Bool)
  deriving DecidableEq, Repr

namespace Glob

/-- A character is in one of the ranges. -/
def inRanges (ranges : List (Char × Char)) (c : Char) : Bool :=
  ranges.any fun (low, high) => low ≤ c && c ≤ high

/-- The characters of a named class. -/
def classRanges? (name : String) : Option (List (Char × Char)) :=
  let upper : Char × Char := ('A', 'Z')
  let lower : Char × Char := ('a', 'z')
  let digit : Char × Char := ('0', '9')
  match name with
  | "alnum" => some [upper, lower, digit]
  | "alpha" => some [upper, lower]
  | "blank" => some [(' ', ' '), ('\t', '\t')]
  | "cntrl" => some [('\x00', '\x1f'), ('\x7f', '\x7f')]
  | "digit" => some [digit]
  | "graph" => some [('!', '~')]
  | "lower" => some [lower]
  | "print" => some [(' ', '~')]
  | "punct" => some [('!', '/'), (':', '@'), ('[', '\x60'), ('\x7b', '~')]
  | "space" => some [('\t', '\r'), (' ', ' ')]
  | "upper" => some [upper]
  | "xdigit" => some [digit, ('A', 'F'), ('a', 'f')]
  | _ => none

/-- The ends of a text, from the whole to nothing. -/
def tails : List Char → List (List Char)
  | [] => [[]]
  | c :: rest => (c :: rest) :: tails rest

/-- The pattern matches the whole text. -/
def matchesAll : List Glob → List Char → Bool
  | [], text => text.isEmpty
  | anyText :: rest, text => (tails text).any (matchesAll rest)
  | exactly c :: rest, x :: text => c == x && matchesAll rest text
  | anyOne :: rest, _ :: text => matchesAll rest text
  | oneOf ranges complement :: rest, x :: text =>
    (inRanges ranges x != complement) && matchesAll rest text
  | _ :: _, [] => false

/-- A named class at the start of a text, behind its `[`. -/
def classAt? (cs : List (Char × Bool)) : Option (List (Char × Char) × List (Char × Bool)) :=
  match cs with
  | (':', false) :: rest =>
    let name := rest.takeWhile fun (c, _) => c.isAlpha
    match rest.drop name.length with
    | (':', _) :: (']', _) :: after =>
      (classRanges? (String.ofList (name.map (·.1)))).map fun ranges => (ranges, after)
    | _ => none
  | _ => none

/-- Reads the members of a set up to its `]`; the first character is a member whatever it is. -/
def members : Nat → Bool → List (Char × Bool) →
    Option (List (Char × Char) × List (Char × Bool))
  | 0, _, _ => none
  | _, _, [] => none
  | n + 1, first, (c, quoted) :: rest =>
    if c == ']' && !quoted && !first then some ([], rest)
    else
      let single (low : Char) (rest : List (Char × Bool)) :
          Option (List (Char × Char) × List (Char × Bool)) :=
        match rest with
        | ('-', false) :: (high, quoted) :: after =>
          if high == ']' && !quoted then
            (members n false rest).map fun (more, rest) => ((low, low) :: more, rest)
          else
            let (high, after) := match high, quoted, after with
              | '\\', false, (other, _) :: after => (other, after)
              | _, _, _ => (high, after)
            (members n false after).map fun (more, rest) => ((low, high) :: more, rest)
        | _ => (members n false rest).map fun (more, rest) => ((low, low) :: more, rest)
      match c, quoted, rest with
      | '[', false, _ =>
        match classAt? rest with
        | some (ranges, after) =>
          (members n false after).map fun (more, rest) => (ranges ++ more, rest)
        | none => single c rest
      | '\\', false, (other, _) :: rest => single other rest
      | _, _, _ => single c rest

/-- Reads a pattern in which every byte is marked as quoted or not; `n` bounds its length. -/
def readFrom : Nat → List (Char × Bool) → List Glob
  | 0, _ => []
  | _, [] => []
  | n + 1, ('*', false) :: rest => anyText :: readFrom n rest
  | n + 1, ('?', false) :: rest => anyOne :: readFrom n rest
  | n + 1, ('\\', false) :: (c, _) :: rest => exactly c :: readFrom n rest
  | n + 1, ('[', false) :: rest =>
    let (complement, body) := match rest with
      | ('!', false) :: body => (true, body)
      | ('^', false) :: body => (true, body)
      | body => (false, body)
    match members (body.length + 1) true body with
    | some (ranges, after) => oneOf ranges complement :: readFrom n after
    | none => exactly '[' :: readFrom n rest
  | n + 1, (c, _) :: rest => exactly c :: readFrom n rest

/-- Reads a pattern in which every character is marked as quoted or not. -/
def read (marked : List (Char × Bool)) : List Glob :=
  let bytes := marked.flatMap fun (c, quoted) => (Bytes.narrow c.toString).map fun b => (b, quoted)
  readFrom bytes.length bytes

/-- The pattern has a piece that matches more than itself. -/
def isActive (pattern : List Glob) : Bool :=
  pattern.any fun
    | exactly _ => false
    | _ => true

/-- The pattern matches the whole text. -/
def accepts (pattern : List Glob) (text : String) : Bool :=
  matchesAll pattern (Bytes.narrow text)

end Glob

end Fleet.Shell

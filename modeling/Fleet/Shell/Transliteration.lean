import Fleet.Shell.Invocation
import Fleet.Shell.Pattern

namespace Fleet.Shell

/-! # Characters for characters

The program that replaces, deletes and squeezes characters.  A set of characters is written as they
stand, with ranges, named classes, repetitions and escapes.
-/

namespace Transliteration

/-- A piece of a set. -/
inductive Piece where
  | char (c : Char)
  | range (low high : Char)
  | class (name : String)
  /-- as often as the other set asks for, or so many times -/
  | again (c : Char) (count : Option Nat)
  deriving DecidableEq, Repr

/-- Takes the escapes out of a set: every character is marked as escaped or not. -/
def unescape : Nat → List Char → List (Char × Bool)
  | 0, _ => []
  | _, [] => []
  | _, ['\\'] => [('\\', false)]
  | n + 1, '\\' :: c :: rest =>
    let named := [('a', '\x07'), ('b', '\x08'), ('f', '\x0c'), ('n', '\n'), ('r', '\r'),
      ('t', '\t'), ('v', '\x0b')].lookup c
    match named with
    | some d => (d, true) :: unescape n rest
    | none =>
      if (Number.digit? 8 c).isSome then
        let (value, after) := Number.takeDigits 8 3 0 (c :: rest)
        let (value, after) := if 255 < value then Number.takeDigits 8 2 0 (c :: rest)
          else (value, after)
        (Char.ofNat value, true) :: unescape n after
      else (c, true) :: unescape n rest
  | n + 1, c :: rest => (c, false) :: unescape n rest

/-- Reads the pieces of a set. -/
def pieces : Nat → List (Char × Bool) → Except String (List Piece)
  | 0, _ => .ok []
  | _, [] => .ok []
  | n + 1, ('[', false) :: (':', false) :: rest =>
    let name := rest.takeWhile fun (c, _) => c != ':' && c != ']'
    match rest.drop name.length with
    | (':', false) :: (']', false) :: after => do
      let name := String.ofList (name.map (·.1))
      if (Glob.classRanges? name).isNone then
        throw ("invalid character class " ++ Options.quoted name)
      else return .class name :: (← pieces n after)
    | _ => return .char '[' :: (← pieces n ((':', false) :: rest))
  | n + 1, ('[', false) :: ('=', false) :: (c, _) :: ('=', false) :: (']', false) :: rest => do
    return .char c :: (← pieces n rest)
  | n + 1, ('[', false) :: (c, q) :: ('*', false) :: rest =>
    let digits := rest.takeWhile fun (d, q) => d.isDigit && !q
    match rest.drop digits.length with
    | (']', false) :: after => do
      let count := (digits.map (·.1))
      let base := if count.head? == some '0' then 8 else 10
      let number := (Number.takeDigits base count.length 0 count).1
      return .again c (if number = 0 then none else some number) :: (← pieces n after)
    | _ => return .char '[' :: (← pieces n ((c, q) :: ('*', false) :: rest))
  | n + 1, (a, _) :: ('-', false) :: (b, q) :: rest =>
    if b < a then
      .error ("range-endpoints of " ++ Options.quoted (String.ofList [a, '-', b]) ++
        " are in reverse collating sequence order")
    else do
      let _ := q
      return .range a b :: (← pieces n rest)
  | n + 1, (c, _) :: rest => do return .char c :: (← pieces n rest)

/-- Reads a set. -/
def read (text : String) : Except String (List Piece) :=
  let cs := Bytes.narrow text
  let marked := unescape (cs.length + 1) cs
  pieces (marked.length + 1) marked

/-- The characters of a range. -/
def between (low high : Char) : List Char :=
  (List.range (high.toNat - low.toNat + 1)).map fun k => Char.ofNat (low.toNat + k)

/-- The characters of a class, in order. -/
def classMembers (name : String) : List Char :=
  let ranges := (Glob.classRanges? name).getD []
  (between '\x00' '\x7f').filter (Glob.inRanges ranges)

/-- How many characters a piece stands for by itself. -/
def size : Piece → Nat
  | .char _ => 1
  | .range low high => high.toNat - low.toNat + 1
  | .class name => (classMembers name).length
  | .again _ count => count.getD 0

/-- The characters of a set; a repetition without a number fills it up to `total`. -/
def members (total : Nat) (ps : List Piece) : List Char :=
  let fixed := (ps.map size).foldl (· + ·) 0
  ps.flatMap fun
    | .char c => [c]
    | .range low high => between low high
    | .class name => classMembers name
    | .again c (some n) => List.replicate n c
    | .again c none => List.replicate (total - fixed) c

/-- All bytes. -/
def everything : List Char := between '\x00' 'ÿ'

/-- One of several characters in a row that are the same and in the set. -/
def squeeze (set : List Char) : List Char → List Char
  | [] => []
  | c :: rest => c :: squeezeBehind c rest
where
  /-- Goes on behind a character. -/
  squeezeBehind (before : Char) : List Char → List Char
    | [] => []
    | c :: rest =>
      if c == before && set.contains c then squeezeBehind before rest
      else c :: squeezeBehind c rest

/-- What every character becomes: the one at the same place of the other set, of which the last is
repeated. -/
def table (source target : List Char) : List (Char × Char) :=
  let filled := target ++ List.replicate (source.length - target.length) (target.getLast?.getD ' ')
  (source.zip filled).reverse

/-- The case of letters is changed: a class of letters stands in both sets. -/
def isCasing (ps : List Piece) : Bool :=
  ps.any fun p => p == .class "upper" || p == .class "lower"

/-- Where pieces begin in a set, each with its piece. -/
def starts : Nat → List Piece → List (Nat × Piece)
  | _, [] => []
  | n, p :: rest => (n, p) :: starts (n + size p) rest

/-- The classes of letters of the second set stand where such classes stand in the first. -/
def isAligned (first second : List Piece) : Bool :=
  (starts 0 second).all fun (n, p) =>
    if p == .class "upper" || p == .class "lower" then
      (starts 0 first).any fun (m, q) =>
        m == n && (q == .class "upper" || q == .class "lower")
    else true

/-- Translates, deletes or squeezes with sets that have been read. -/
def transform (o : Options) (first second : List Piece) (hasSecond : Bool) (input : List Char) :
    Except String (List Char) := do
  let complement := o.has 'c' || o.has 'C'
  let direct := members 0 first
  let source := if complement then everything.filter fun c => !direct.contains c else direct
  let target := members source.length second
  if o.has 'd' then
    let kept := input.filter fun c => !source.contains c
    return if o.has 's' then squeeze target kept else kept
  else if !hasSecond then return squeeze source input
  else if target.isEmpty && !o.has 't' && !source.isEmpty then
    throw "when not truncating set1, string2 must be non-empty"
  else if isCasing second && !complement && !isAligned first second then
    throw "misaligned [:upper:] and/or [:lower:] construct"
  else
    let source := if o.has 't' then source.take target.length else source
    let pairs := table source target
    let changed := input.map fun c => (pairs.lookup c).getD c
    return if o.has 's' then squeeze target changed else changed

/-- The program. -/
def run (i : Invocation) : Ended :=
  i.withOptions {
      alone := "cCdst"
      long := [("complement", 'c'), ("delete", 'd'), ("squeeze-repeats", 's'),
        ("truncate-set1", 't')] } (fun o =>
    let wrong (text note : String) : Ended :=
      { output := [i.complaint text, (true, Text.encode (note ++ "\n")), i.hint]
        status := .exited 1
        files := i.files }
    let one := o.has 'd' != o.has 's'
    match o.words with
    | [] => i.missing "operand"
    | [word] =>
      if o.has 'd' && o.has 's' then
        wrong ("missing operand after " ++ Options.quoted word)
          "Two strings must be given when both deleting and squeezing repeats."
      else if !one then
        wrong ("missing operand after " ++ Options.quoted word)
          "Two strings must be given when translating."
      else go i o word none
    | [first, second] =>
      if o.has 'd' && !o.has 's' then
        wrong ("extra operand " ++ Options.quoted second)
          "Only one string may be given when deleting without squeezing repeats."
      else go i o first (some second)
    | _ :: _ :: third :: _ => i.misused ("extra operand " ++ Options.quoted third)) true
where
  /-- Reads the sets and works on the input. -/
  go (i : Invocation) (o : Options) (first : String) (second : Option String) : Ended :=
    let result : Except String (List Char) := do
      let a ← read first
      let b ← match second with
        | some text => read text
        | none => pure []
      transform o a b second.isSome (Bytes.chars i.input)
    match result with
    | .ok text => { i.wrote (Bytes.ofChars text) with taken := i.input.length }
    | .error text => i.complained text

end Transliteration

end Fleet.Shell

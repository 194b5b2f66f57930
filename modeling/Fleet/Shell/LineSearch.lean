import Fleet.Shell.Expression
import Fleet.Shell.Invocation

namespace Fleet.Shell

/-! # Searching lines

The program that writes the lines of files that match one of its patterns, or tells in other ways
which there are.  Texts are taken byte by byte.
-/

namespace LineSearch

/-- The options of the program. -/
def knowledge : Knowledge where
  alone := "EFGPivwxclLqsnbHhoraRIzyUZT"
  valued := "efmABC"
  long := [("extended-regexp", 'E'), ("fixed-strings", 'F'), ("basic-regexp", 'G'),
    ("perl-regexp", 'P'), ("ignore-case", 'i'), ("no-ignore-case", 'J'), ("invert-match", 'v'),
    ("word-regexp", 'w'), ("line-regexp", 'x'), ("count", 'c'), ("files-with-matches", 'l'),
    ("files-without-match", 'L'), ("quiet", 'q'), ("silent", 'q'), ("no-messages", 's'),
    ("line-number", 'n'), ("byte-offset", 'b'), ("with-filename", 'H'), ("no-filename", 'h'),
    ("only-matching", 'o'), ("recursive", 'r'), ("text", 'a'), ("null-data", 'z'),
    ("regexp", 'e'), ("file", 'f'), ("max-count", 'm'), ("after-context", 'A'),
    ("before-context", 'B'), ("context", 'C'), ("null", 'Z'), ("line-buffered", 'u'),
    ("dereference-recursive", 'R'), ("initial-tab", 'T')]

/-- A line with its number and with how many bytes stand before it. -/
structure Line where
  text : List Char
  number : Nat
  offset : Nat

/-- The lines of some bytes. -/
def linesOf (separator : Char) (bytes : List UInt8) : List Line :=
  go 1 0 (Bytes.linesBy separator (Bytes.chars bytes)).1
where
  /-- Numbers the lines. -/
  go : Nat → Nat → List (List Char) → List Line
    | _, _, [] => []
    | number, offset, text :: rest =>
      ⟨text, number, offset⟩ :: go (number + 1) (offset + text.length + 1) rest

/-- The lines of a pattern list are patterns of their own. -/
def patternsOf (text : List Char) : List (List Char) := Text.splitOn '\n' text

/-- Reads one pattern, as it stands or as an expression. -/
def readPattern (o : Options) (text : List Char) : Except String Text.Regex := do
  let extended := o.lastOf ['E', 'F', 'G', 'P'] == some 'E' ||
    o.lastOf ['E', 'F', 'G', 'P'] == some 'P'
  let d : Expression.Dialect := {
    extended
    ignoreCase := o.has 'i' || o.has 'y'
    lenient := true }
  let r ← if o.lastOf ['E', 'F', 'G', 'P'] == some 'F' then pure (Expression.literal d text)
    else (Expression.read d text).map (·.1)
  if o.has 'x' then
    return .cat (.look Expression.atStart) (.cat r (.look Expression.atEnd))
  else if o.has 'w' then
    return .cat (.look fun before _ => !Expression.isInWord before)
      (.cat r (.look fun _ after => !Expression.isInWord after))
  else return r

/-- Reads patterns; a line matches if it matches one of them. -/
def readPatterns (o : Options) (texts : List (List Char)) : Except String (Option Text.Regex) := do
  let rs ← texts.mapM (readPattern o)
  match rs with
  | [] => return none
  | r :: rest => return some (rest.foldl .alt r)

/-- The line is chosen. -/
def isChosen (o : Options) (r : Option Text.Regex) (line : Line) : Bool :=
  (match r with
    | some r => r.occursIn line.text
    | none => false) != o.has 'v'

/-- How many lines are shown before and behind one that is chosen. -/
def context (o : Options) : Nat × Nat :=
  let number (flag : Char) : Option Nat := (o.value? flag).bind Number.natural?
  let both := (number 'C').getD 0
  ((number 'B').getD both, (number 'A').getD both)

/-- What stands in front of a line. -/
def lead (o : Options) (name : Option String) (line : Line) (offset : Nat) (sign : Char) :
    List Char :=
  (match name with
    | some name => Bytes.narrow name ++ [if o.has 'Z' then '\x00' else sign]
    | none => []) ++
  (if o.has 'n' then (toString line.number).toList ++ [sign] else []) ++
  (if o.has 'b' then (toString (line.offset + offset)).toList ++ [sign] else [])

/-- What is written for a line that is chosen. -/
def shownLine (o : Options) (r : Option Text.Regex) (name : Option String) (line : Line) :
    List (List Char) :=
  if o.has 'o' then
    if o.has 'v' then []
    else match r with
    | none => []
    | some r =>
      (r.matchesIn line.text).filterMap fun m =>
        if m.length = 0 then none
        else some (lead o name line m.start ':' ++ (line.text.drop m.start).take m.length)
  else [lead o name line 0 ':' ++ line.text]

/-- Writes lines with those around them: `owed` lines are still to come behind the last one that was
chosen, `back` are those before that were not written, latest first, and `gap` says that lines were
left out since something was written. -/
def withContext (o : Options) (display : Line → List (List Char)) (name : Option String)
    (isChosen : Line → Bool) (before behind : Nat) :
    Option Nat → Nat → List Line → Bool → Bool → List Line → List (List Char)
  | _, _, _, _, _, [] => []
  | left, owed, back, gap, any, line :: rest =>
    let around (l : Line) : List (List Char) :=
      if o.has 'o' then [] else [lead o name l 0 '-' ++ l.text]
    if left == some 0 then
      if owed = 0 then []
      else around line ++
        withContext o display name isChosen before behind left (owed - 1) [] false any rest
    else if isChosen line then
      let separator : List (List Char) :=
        if any && gap && back.length ≤ before && (0 < before || 0 < behind) then [['-', '-']]
        else []
      separator ++ back.reverse.flatMap around ++ display line ++
        withContext o display name isChosen before behind (left.map (· - 1)) behind [] false true
          rest
    else if 0 < owed then
      around line ++
        withContext o display name isChosen before behind left (owed - 1) [] false any rest
    else
      let kept := (line :: back).take before
      withContext o display name isChosen before behind left 0 kept
        (gap || before < back.length + 1) any rest

/-- What comes of searching one file: what is written, and whether a line was chosen. -/
def searchOne (o : Options) (r : Option Text.Regex) (name : Option String) (shownName : String)
    (bytes : List UInt8) : List Char × Bool :=
  let separator := if o.has 'z' then '\x00' else '\n'
  let lines := linesOf separator bytes
  let most := (o.value? 'm').bind Number.natural?
  let chosen := lines.filter (isChosen o r)
  let chosen := match most with
    | some n => chosen.take n
    | none => chosen
  let any := !chosen.isEmpty
  let tag : List Char := match name with
    | some name => Bytes.narrow name ++ [if o.has 'Z' then '\x00' else ':']
    | none => []
  let line (cs : List Char) : List Char := cs ++ [separator]
  let text : List Char :=
    if o.has 'q' then []
    else if o.has 'l' then
      if any then Bytes.narrow shownName ++ [if o.has 'Z' then '\x00' else '\n'] else []
    else if o.has 'L' then
      if any then [] else Bytes.narrow shownName ++ [if o.has 'Z' then '\x00' else '\n']
    else if o.has 'c' then tag ++ (toString chosen.length).toList ++ ['\n']
    else if bytes.contains 0 && !o.has 'a' && !o.has 'z' then
      if any then ("grep: " ++ shownName ++ ": binary file matches\n").toList else []
    else
      let (before, behind) := context o
      (withContext o (shownLine o r name) name (isChosen o r) before behind most 0 [] false false
        lines).flatMap line
  (text, any != (o.has 'L'))

/-- The files below a directory, by name; `n` bounds how deep. -/
def below : Nat → String → Entries → List String
  | 0, _, _ => []
  | n + 1, dir, entries =>
    let sorted := entries.mergeSort fun a b => a.1 ≤ b.1
    sorted.flatMap fun (name, node) =>
      let path := if dir.isEmpty then name
        else if FileSystem.endsInSlash dir then dir ++ name else dir ++ "/" ++ name
      match node with
      | .directory inside => below n path inside
      | .file _ _ => [path]
      | .link _ => []

/-- The files that are meant by the words of a search through directories. -/
def expandNames (i : Invocation) (names : List String) : List String :=
  let of (shown name : String) : List String :=
    match i.files.status ⟨name⟩ with
    | .ok (_, .directory inside) => below 64 shown inside
    | _ => [name]
  if names.isEmpty then of "" "." else names.flatMap fun name => of name name

/-- Numbers among the options stand for lines of context. -/
def withoutNumbers (args : List String) : List String :=
  args.map fun word =>
    match word.toList with
    | '-' :: c :: rest => if c.isDigit && rest.all Char.isDigit then
        "-C" ++ String.ofList (c :: rest) else word
    | cs => if "--color".toList.isPrefixOf cs || "--colour".toList.isPrefixOf cs then "-u" else word

/-- Patterns for the names of files that are searched, and the other words. -/
def nameFilters : List String → List (Bool × List Glob) × List String
  | [] => ([], [])
  | word :: rest =>
    let (filters, others) := nameFilters rest
    let glob (n : Nat) : List Glob :=
      Glob.read ((word.toList.drop n).map fun c => (c, false))
    if "--include=".toList.isPrefixOf word.toList then ((true, glob 10) :: filters, others)
    else if "--exclude=".toList.isPrefixOf word.toList then ((false, glob 10) :: filters, others)
    else (filters, word :: others)

/-- A file is searched. -/
def isWanted (filters : List (Bool × List Glob)) (name : String) : Bool :=
  let last := ((Path.mk name).fileName?).getD name
  let wanted := filters.filter (·.1)
  (wanted.isEmpty || wanted.any fun (_, g) => Glob.accepts g last) &&
    !(filters.any fun (isWanted, g) => !isWanted && Glob.accepts g last)

/-- The complaint about a wrong call. -/
def usage (i : Invocation) (lead : List (Bool × List UInt8)) : Ended :=
  { output := lead ++ [(true, Text.encode "Usage: grep [OPTION]... PATTERNS [FILE]...\n"),
      ({ i with program := "grep" } : Invocation).hint]
    status := .exited 2
    files := i.files }

/-- Searches with options that have been read. -/
def search (i : Invocation) (filters : List (Bool × List Glob)) (o : Options) : Ended :=
  let fromFiles : Except String (List (List Char)) := (o.values 'f').foldlM (fun found name =>
    match i.content name with
    | .ok bytes =>
      let text := Bytes.chars bytes
      let text := if text.getLast? == some '\n' then text.dropLast else text
      Except.ok (if bytes.isEmpty then found else found ++ patternsOf text)
    | .error e => Except.error (name ++ ": " ++ reason e)) []
  match fromFiles with
  | .error text => i.complained text 2
  | .ok more =>
    let given := (o.values 'e').flatMap fun text => patternsOf (Bytes.narrow text)
    let (texts, names) : Option (List (List Char)) × List String :=
      if o.has 'e' || o.has 'f' then (some (given ++ more), o.words)
      else match o.words with
      | text :: words => (some (patternsOf (Bytes.narrow text)), words)
      | [] => (none, [])
    match texts with
    | none => usage i []
    | some texts =>
      match readPatterns o texts with
      | .error text => i.complained text 2
      | .ok r =>
        let deep := o.has 'r' || o.has 'R'
        let all := if deep then (expandNames i names).filter (isWanted filters) else names
        let plural := 1 < names.length || (deep && (names.isEmpty ||
          names.any fun name => i.files.isDirectory ⟨name⟩))
        let tagged := match o.lastOf ['H', 'h'] with
          | some 'H' => true
          | some _ => false
          | none => plural
        let results := (if deep && all.isEmpty then [] else i.contents all).map fun (name, found) =>
          let shown := if name == "-" then "(standard input)" else name
          match found with
          | .ok bytes =>
            let (text, any) := searchOne o r (if tagged then some shown else none) shown bytes
            ((false, Bytes.ofChars text), some any)
          | .error e => (i.complaint (name ++ ": " ++ reason e), none)
        let failed := results.any fun (_, found) => found.isNone
        let any := results.any fun (_, found) => found == some true
        let output := (results.map (·.1)).filter fun (isError, _) => !(isError && o.has 's')
        { output
          status := .exited (if any && (o.has 'q' || !failed) then 0 else if failed then 2 else 1)
          files := i.files
          taken := if deep && names.isEmpty then 0 else i.takenBy names }

/-- The program. -/
def run (i : Invocation) : Ended :=
  let (filters, args) := nameFilters i.args
  match Options.readFrom knowledge false (args.length + 1) {} (withoutNumbers args) with
  | .ok o => search i filters o
  | .error text => usage i [i.complaint text]

/-- The program under a name that says how patterns are read. -/
def runWith (flag : String) (i : Invocation) : Ended :=
  run { i with program := "grep", args := flag :: i.args }

end LineSearch

end Fleet.Shell

import Fleet.Shell.Bytes
import Fleet.Shell.Invocation

namespace Fleet.Shell

/-! # Utilities for lines

Programs that pass on lines and bytes: all or some of them, numbered, joined, folded or counted.
-/

namespace LineUtility

/-- A program that changes the characters of all files together. -/
def changes (i : Invocation) (names : List String) (f : List Char → List Char) : Ended :=
  i.forAll names fun bytes => Bytes.ofChars (f (Bytes.chars bytes))

/-! ## Whole files -/

/-- A byte as it can be seen. -/
def visible (tabs : Bool) (c : Char) : List Char :=
  let low (n : Nat) : List Char :=
    if n == 9 && !tabs then ['\t']
    else if n < 32 then ['^', Char.ofNat (n + 64)]
    else if n == 127 then ['^', '?']
    else [Char.ofNat n]
  if c == '\n' then ['\n']
  else if c.toNat < 128 then low c.toNat
  else
    let rest := c.toNat - 128
    'M' :: '-' ::
      (if rest < 32 then ['^', Char.ofNat (rest + 64)]
      else if rest == 127 then ['^', '?']
      else [Char.ofNat rest])

/-- Lines without those that are empty behind an empty one. -/
def withoutEmptyRuns : Bool → List (List Char) → List (List Char)
  | _, [] => []
  | after, line :: rest =>
    if line.isEmpty && after then withoutEmptyRuns true rest
    else line :: withoutEmptyRuns line.isEmpty rest

/-- Numbers in front of lines; empty ones have none unless `all`. -/
def numbered (all : Bool) : Nat → List (List Char) → List (List Char)
  | _, [] => []
  | n, line :: rest =>
    if line.isEmpty && !all then line :: numbered all n rest
    else (Bytes.column 6 n ++ '\t' :: line) :: numbered all (n + 1) rest

/-- What is written for a text. -/
def decorated (o : Options) (cs : List Char) : List Char :=
  let (lines, whole) := Bytes.linesBy '\n' cs
  let lines := if o.has 's' then withoutEmptyRuns false lines else lines
  let shows := ['A', 'v', 'e', 't'].any o.has
  let tabs := ['A', 'T', 't'].any o.has
  let lines := if shows || tabs then lines.map fun line =>
      line.flatMap fun c => if shows then visible tabs c else if c == '\t' then ['^', 'I'] else [c]
    else lines
  let ends := ['A', 'E', 'e'].any o.has
  let count := lines.length
  let lines :=
    if o.has 'b' then numbered false 1 lines
    else if o.has 'n' then numbered true 1 lines
    else lines
  let lines := lines.zipIdx.map fun (line, k) =>
    if ends && (whole || k + 1 < count) then line ++ ['$'] else line
  Bytes.unlinesAs whole lines

/-- The program `cat`: writes files one behind the other. -/
def concatenate (i : Invocation) : Ended :=
  i.withOptions {
      alone := "AbeEnstTuv"
      long := [("show-all", 'A'), ("number-nonblank", 'b'), ("show-ends", 'E'), ("number", 'n'),
        ("squeeze-blank", 's'), ("show-tabs", 'T'), ("show-nonprinting", 'v')] } fun o =>
    if o.given.all fun (c, _) => c == 'u' then i.forFiles o.words fun _ bytes => bytes
    else
      let all := i.contents o.words
      let refused := all.filterMap fun (name, found) => match found with
        | .ok _ => none
        | .error e => some (i.unread name e)
      { changes i o.words (decorated o) with
        output := refused ++ (changes i o.words (decorated o)).output.filter fun (e, _) => !e }

/-- The program `tac`: writes lines from the last to the first. -/
def backwards (i : Invocation) : Ended :=
  i.withOptions { alone := "br", valued := "s" } fun o =>
    i.forFiles o.words (fun _ bytes =>
      let (lines, whole) := Bytes.linesBy '\n' (Bytes.chars bytes)
      let marked := lines.zipIdx.map fun (line, k) =>
        if whole || k + 1 < lines.length then line ++ ['\n'] else line
      Bytes.ofChars marked.reverse.flatten)
      fun name e => i.complaint ("failed to open " ++ Options.quoted name ++ " for reading: " ++
        reason e)

/-- The program `rev`: writes every line from its end to its start. -/
def mirrored (i : Invocation) : Ended :=
  i.withOptions {} fun o =>
    i.forFiles o.words (fun _ bytes =>
      let (lines, whole) := Bytes.linesBy '\n' (Bytes.chars bytes)
      Bytes.ofChars (Bytes.unlinesAs whole (lines.map fun line =>
        Bytes.narrow (String.ofList (Bytes.widen line).toList.reverse))))
      fun name e => i.complaint ("cannot open " ++ name ++ ": " ++ reason e)

/-! ## The beginning and the end -/

/-- A count as it is asked for: a number with perhaps a unit behind it. -/
def amount? (cs : List Char) : Option Nat :=
  let digits := cs.takeWhile Char.isDigit
  let unit := String.ofList (cs.drop digits.length)
  let factor : Option Nat := [("", 1), ("b", 512), ("k", 1024), ("K", 1024), ("kB", 1000),
    ("KB", 1000), ("KiB", 1024), ("m", 1048576), ("M", 1048576), ("MB", 1000000),
    ("MiB", 1048576), ("G", 1073741824), ("GB", 1000000000), ("GiB", 1073741824)].lookup unit
  match Number.natural? (String.ofList digits), factor with
  | some n, some f => some (n * f)
  | _, _ => none

/-- A part of some bytes: so many lines or bytes, from one end or all but those. -/
structure Portion where
  /-- bytes are counted -/
  bytes : Bool
  /-- a plus or a minus in front of the number -/
  sign : Option Char
  count : Nat

/-- Reads a portion. -/
def portion (bytes : Bool) (text : String) : Except String Portion :=
  let (sign, cs) : Option Char × List Char := match text.toList with
    | '+' :: rest => (some '+', rest)
    | '-' :: rest => (some '-', rest)
    | rest => (none, rest)
  match amount? cs with
  | some count => .ok { bytes, sign, count }
  | none => .error ("invalid number of " ++ (if bytes then "bytes" else "lines") ++ ": " ++
      Options.quoted text)

/-- The lines of some bytes, each with its end. -/
def wholeLines (cs : List Char) : List (List Char) :=
  let (lines, whole) := Bytes.linesBy '\n' cs
  lines.zipIdx.map fun (line, k) =>
    if whole || k + 1 < lines.length then line ++ ['\n'] else line

/-- The portion at the beginning. -/
def Portion.first (p : Portion) (cs : List Char) : List Char :=
  let pick {α : Type} (xs : List α) : List α :=
    if p.sign == some '-' then xs.take (xs.length - p.count) else xs.take p.count
  if p.bytes then pick cs else (pick (wholeLines cs)).flatten

/-- The portion at the end. -/
def Portion.last (p : Portion) (cs : List Char) : List Char :=
  let pick {α : Type} (xs : List α) : List α :=
    if p.sign == some '+' then xs.drop (p.count - 1) else xs.drop (xs.length - p.count)
  if p.bytes then pick cs else (pick (wholeLines cs)).flatten

/-- An old way to write a count: a sign and a number as the first word. -/
def oldCount (fromEnd : Bool) (args : List String) : List String :=
  match args with
  | word :: rest =>
    match word.toList with
    | '-' :: c :: more =>
      if c.isDigit && more.all Char.isDigit then ("-n" ++ String.ofList (c :: more)) :: rest
      else args
    | '+' :: c :: more =>
      if fromEnd && c.isDigit && more.all Char.isDigit then ("-n" ++ word) :: rest else args
    | _ => args
  | [] => []

/-- A program that writes one end of its files. -/
def oneEnd (fromEnd : Bool) (i : Invocation) : Ended :=
  ({ i with args := oldCount fromEnd i.args } : Invocation).withOptions {
      alone := "qvzfF"
      valued := "nc"
      long := [("lines", 'n'), ("bytes", 'c'), ("quiet", 'q'), ("silent", 'q'), ("verbose", 'v'),
        ("follow", 'f')] } fun o =>
    let (kind, amount) :=
      (o.given.reverse.find? fun (c, _) => c == 'n' || c == 'c').getD ('n', "10")
    match portion (kind == 'c') amount with
    | .error text => i.complained text
    | .ok p =>
      let names := if o.words.isEmpty then ["-"] else o.words
      let headed := match o.lastOf ['q', 'v'] with
        | some 'q' => false
        | some _ => true
        | none => 1 < names.length
      let shown (name : String) : String := if name == "-" then "standard input" else name
      let take (bytes : List UInt8) : List UInt8 :=
        let cs := Bytes.chars bytes
        Bytes.ofChars (if fromEnd then p.last cs else p.first cs)
      let step (before : List (Bool × List UInt8) × Bool) (name : String) :
          List (Bool × List UInt8) × Bool :=
        let (output, any) := before
        let title : List UInt8 :=
          if headed then
            Text.encode ((if any then "\n" else "") ++ "==> " ++ shown name ++ " <==\n")
          else []
        match i.content name with
        | .ok bytes => (output ++ [(false, title ++ take bytes)], true)
        | .error e =>
          if e = .isDirectory then
            (output ++ [(false, title), i.complaint ("error reading " ++
              Options.quoted name ++ ": " ++ reason e)], true)
          else
            (output ++ [i.complaint ("cannot open " ++ Options.quoted name ++
              " for reading: " ++ reason e)], any)
      let (output, _) := names.foldl step ([], false)
      let taken :=
        if o.words.isEmpty && !fromEnd && i.isFile then (take i.input).length
        else i.takenBy o.words
      { output
        status := .exited (if output.any fun (isError, _) => isError then 1 else 0)
        files := i.files
        taken }

/-! ## Counting -/

/-- How many words there are. -/
def words (cs : List Char) : Nat :=
  (cs.foldl (fun ((n, inside) : Nat × Bool) c =>
    if Number.isBlank c then (n, false) else (if inside then n else n + 1, true)) (0, false)).1

/-- The columns of the longest line. -/
def longest (cs : List Char) : Nat :=
  let width (line : List Char) : Nat := line.foldl (fun n c =>
    if c == '\t' then n / 8 * 8 + 8 else if ' ' ≤ c && c ≤ '~' then n + 1 else n) 0
  ((Bytes.lines cs).map width).foldl max 0

/-- The counts that are asked for, in the order in which they are written. -/
def counts (o : Options) (cs : List Char) : List Nat :=
  let plain := !(['l', 'w', 'm', 'c', 'L'].any o.has)
  let one (flag : Char) (n : Nat) : List Nat :=
    if o.has flag || (plain && ['l', 'w', 'c'].contains flag) then [n] else []
  one 'l' (cs.count '\n') ++ one 'w' (words cs) ++ one 'm' cs.length ++ one 'c' cs.length ++
    one 'L' (longest cs)

/-- The width of the columns of counts. -/
def countWidth (i : Invocation) (o : Options) (names : List String) : Nat :=
  let asked := (['l', 'w', 'm', 'c', 'L'].filter o.has).length
  if names.length = 1 && asked = 1 then 1
  else
    let size (name : String) : Option Nat :=
      if name = "-" then (if i.isFile then some i.input.length else none)
      else match i.files.status ⟨name⟩ with
        | .ok (_, .file content _) => some content.size
        | .ok _ => none
        | .error _ => some 0
    let sizes := names.map size
    let total := (sizes.map fun s => s.getD 0).foldl (· + ·) 0
    max (toString total).length (if sizes.any Option.isNone then 7 else 1)

/-- The program `wc`: counts lines, words and bytes. -/
def count (i : Invocation) : Ended :=
  i.withOptions {
      alone := "clmwL"
      long := [("bytes", 'c'), ("lines", 'l'), ("chars", 'm'), ("words", 'w'),
        ("max-line-length", 'L')] } fun o =>
    let names := if o.words.isEmpty then ["-"] else o.words
    let width := countWidth i o names
    let row (ns : List Nat) (name : String) : List UInt8 :=
      Bytes.ofChars (Text.joinWith ' ' (ns.map (Bytes.column width))) ++
        Text.encode ((if name.isEmpty then "" else " " ++ name) ++ "\n")
    let all := names.map fun name => (name, i.content name)
    let shown (name : String) : String := if o.words.isEmpty then "" else name
    let zeros := counts o []
    let output := all.flatMap fun (name, found) => match found with
      | .ok bytes => [(false, row (counts o (Bytes.chars bytes)) (shown name))]
      | .error e =>
        i.unread name e :: if e = .isDirectory then [(false, row zeros (shown name))] else []
    let total := all.foldl (fun sums (_, found) => match found with
      | .ok bytes => List.zipWith (· + ·) sums (counts o (Bytes.chars bytes))
      | .error _ => sums) zeros
    { output := output ++ if 1 < names.length then [(false, row total "total")] else []
      status := .exited (if all.all fun (_, found) => found.toOption.isSome then 0 else 1)
      files := i.files
      taken := i.takenBy o.words }

/-! ## Columns -/

/-- A part of a list of places: from one to another, or on to the end. -/
abbrev Span := Nat × Option Nat

/-- Reads one part of a list of places. -/
def span (fields : Bool) (text : List Char) : Except String Span := do
  let number (cs : List Char) : Except String Nat :=
    match Number.natural? (String.ofList cs) with
    | some n =>
      if n = 0 then
        throw (if fields then "fields are numbered from 1"
          else "byte/character positions are numbered from 1")
      else pure n
    | none =>
      throw ((if fields then "invalid field value " else "invalid byte or character range ") ++
        Options.quoted (String.ofList text))
  match Text.splitOn '-' text with
  | [one] =>
    if one.isEmpty then
      throw (if fields then "fields are numbered from 1"
        else "byte/character positions are numbered from 1")
    else
      let n ← number one
      return (n, some n)
  | [a, b] =>
    if a.isEmpty && b.isEmpty then throw "invalid range with no endpoint: -"
    else
      let low ← if a.isEmpty then pure 1 else number a
      if b.isEmpty then return (low, none)
      else
        let high ← number b
        if high < low then throw "invalid decreasing range" else return (low, some high)
  | _ => throw (if fields then "invalid field range" else "invalid byte or character range")

/-- Reads a list of places. -/
def spans (fields : Bool) (text : String) : Except String (List Span) :=
  (Text.splitOn ',' (text.toList.map fun c => if isGap c then ',' else c)).mapM (span fields)
where
  /-- Blanks separate as well as commas. -/
  isGap (c : Char) : Bool := c == ' ' || c == '\t'

/-- The place is in the list. -/
def isListed (list : List Span) (n : Nat) : Bool :=
  list.any fun (low, high) => low ≤ n && high.all fun h => n ≤ h

/-- The listed elements, those that stand side by side together. -/
def runs {α : Type} (chosen : Nat → Bool) : Nat → List α → List (List α)
  | _, [] => []
  | n, x :: xs =>
    if chosen n then
      match runs chosen (n + 1) xs with
      | run :: others => if chosen (n + 1) then (x :: run) :: others else [x] :: run :: others
      | [] => [[x]]
    else runs chosen (n + 1) xs

/-- The program `cut`: writes parts of every line. -/
def cutOut (i : Invocation) : Ended :=
  i.withOptions {
      alone := "snzC"
      valued := "bcfdO"
      long := [("bytes", 'b'), ("characters", 'c'), ("fields", 'f'), ("delimiter", 'd'),
        ("only-delimited", 's'), ("complement", 'C'), ("output-delimiter", 'O')] } fun o =>
    let lists := o.given.filter fun (c, _) => ['b', 'c', 'f'].contains c
    match lists with
    | [] => i.misused "you must specify a list of bytes, characters, or fields"
    | _ :: _ :: _ => i.misused "only one list may be specified"
    | [(kind, text)] =>
      let fields := kind == 'f'
      let delimiter := Bytes.narrow ((o.value? 'd').getD "\t")
      match spans fields text with
      | .error text => i.misused text
      | .ok list =>
        if 1 < delimiter.length then i.misused "the delimiter must be a single character"
        else if o.has 'd' && !fields then
          i.misused "an input delimiter may be specified only when operating on fields"
        else if o.has 's' && !fields then
          i.misused "suppressing non-delimited lines makes sense\n\tonly when operating on fields"
        else
          let sep := delimiter.headD '\x00'
          let chosen (n : Nat) : Bool := isListed list n != o.has 'C'
          let joint := (o.value? 'O').map Bytes.narrow
          let one (line : List Char) : List (List Char) :=
            if fields then
              let parts := Text.splitOn sep line
              if parts.length = 1 then (if o.has 's' then [] else [line])
              else
                let kept := (parts.zipIdx 1).filterMap fun (part, n) =>
                  if chosen n then some part else none
                [(kept.intersperse (joint.getD [sep])).flatten]
            else [((runs chosen 1 line).intersperse (joint.getD [])).flatten]
          i.forAll o.words fun bytes =>
            Bytes.ofChars (Bytes.unlines ((Bytes.lines (Bytes.chars bytes)).flatMap one))

/-- The characters that join columns, one after the other. -/
def joints (text : String) : List (List Char) :=
  go (text.length + 1) (Bytes.narrow text)
where
  /-- Reads on. -/
  go : Nat → List Char → List (List Char)
    | 0, _ => []
    | _, [] => []
    | n + 1, '\\' :: c :: rest =>
      (match c with
        | 'n' => ['\n']
        | 't' => ['\t']
        | '0' => []
        | c => [c]) :: go n rest
    | n + 1, c :: rest => [c] :: go n rest

/-- Texts joined by characters that are used one after the other. -/
def joinBy (joints : List (List Char)) : Nat → List (List Char) → List Char
  | _, [] => []
  | _, [last] => last
  | n, text :: rest =>
    text ++ (joints[n % max 1 joints.length]?).getD [] ++ joinBy joints (n + 1) rest

/-- Rows of columns, as long as one of them goes on. -/
def rows : Nat → List (List (List Char)) → List (List (List Char))
  | 0, _ => []
  | n + 1, columns =>
    if columns.all List.isEmpty then []
    else columns.map (fun column => column.headD []) :: rows n (columns.map List.tail)

/-- The columns of files; those that are the input take its lines by turns. -/
def columnsOf (names : List String) (contents : List (List (List Char))) :
    List (List (List Char)) :=
  let dashes := (names.filter (· == "-")).length
  (names.zip contents).zipIdx.map fun ((name, lines), k) =>
    if name == "-" && 1 < dashes then
      let before := ((names.take k).filter (· == "-")).length
      lines.zipIdx.filterMap fun (line, n) => if n % dashes == before then some line else none
    else lines

/-- The program `paste`: writes lines of files side by side. -/
def paste (i : Invocation) : Ended :=
  i.withOptions {
      alone := "sz"
      valued := "d"
      long := [("serial", 's'), ("delimiters", 'd')] } fun o =>
    let names := if o.words.isEmpty then ["-"] else o.words
    let joined := joints ((o.value? 'd').getD "\t")
    let all := names.map fun name => (name, i.content name)
    match all.find? fun (_, found) => found.toOption.isNone with
    | some (name, .error e) => i.complained (Invocation.shown name ++ ": " ++ reason e)
    | _ =>
      let contents := all.map fun (_, found) => match found with
        | .ok bytes => Bytes.lines (Bytes.chars bytes)
        | .error _ => []
      let lines :=
        if o.has 's' then contents.map (joinBy joined 0)
        else
          let columns := columnsOf names contents
          (rows ((columns.map List.length).foldl max 0) columns).map (joinBy joined 0)
      { i.wrote (Bytes.ofChars (Bytes.unlines lines)) with taken := i.takenBy names }

/-- Folds a line: the pieces of at most a width; with `atBlanks` they end behind a blank if there is
one. -/
def folded (width : Nat) (atBlanks : Bool) : Nat → List Char → List (List Char)
  | 0, cs => [cs]
  | n + 1, cs =>
    if cs.length ≤ width then [cs]
    else
      let piece := cs.take width
      let back := (piece.reverse.takeWhile fun c => c != ' ' && c != '\t').length
      let size := if atBlanks && back < width then width - back else width
      cs.take size :: folded width atBlanks n (cs.drop size)

/-- The program `fold`: breaks lines that are too wide. -/
def fold (i : Invocation) : Ended :=
  i.withOptions {
      alone := "bs"
      valued := "w"
      long := [("bytes", 'b'), ("spaces", 's'), ("width", 'w')] } fun o =>
    let asked := (o.value? 'w').getD "80"
    match Number.natural? asked with
    | none => i.complained ("invalid number of columns: " ++ Options.quoted asked)
    | some 0 => i.complained ("invalid number of columns: " ++ Options.quoted asked)
    | some width => changes i o.words fun cs =>
        let (lines, whole) := Bytes.linesBy '\n' cs
        Bytes.unlinesAs whole (lines.flatMap fun line => folded width (o.has 's') line.length line)

/-- A number in front of lines, as it is asked for. -/
def numberLines (i : Invocation) : Ended :=
  i.withOptions {
      alone := "p"
      valued := "bwsnviflhd"
      long := [("body-numbering", 'b'), ("number-width", 'w'), ("number-separator", 's'),
        ("number-format", 'n'), ("starting-line-number", 'v'), ("line-increment", 'i')] } fun o =>
    let number (flag : Char) (usual : Nat) : Nat :=
      ((o.value? flag).bind Number.natural?).getD usual
    let width := number 'w' 6
    let gap := Bytes.narrow ((o.value? 's').getD "\t")
    let style := (o.value? 'b').getD "t"
    let digits (n : Nat) : List Char :=
      let ds := (toString n).toList
      match (o.value? 'n').getD "rn" with
      | "ln" => ds ++ List.replicate (width - ds.length) ' '
      | "rz" => List.replicate (width - ds.length) '0' ++ ds
      | _ => Bytes.column width n
    let rec go : Nat → List (List Char) → List (List Char)
      | _, [] => []
      | n, line :: rest =>
        if style == "n" || (style == "t" && line.isEmpty) then
          (List.replicate (width + gap.length) ' ' ++ line) :: go n rest
        else (digits n ++ gap ++ line) :: go (n + number 'i' 1) rest
    changes i o.words fun cs => Bytes.unlines (go (number 'v' 1) (Bytes.lines cs))

end LineUtility

end Fleet.Shell

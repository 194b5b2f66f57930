import Fleet.Shell.Bytes
import Fleet.Shell.Floating
import Fleet.Shell.Invocation

namespace Fleet.Shell

/-! # Sorting lines

The program that sorts lines by keys.  A key is a part of a line and a way to compare it; lines with
the same keys stand in the order of their bytes.
-/

namespace Sorting

/-- A place in a line: a field, and a character of it. -/
structure Place where
  field : Nat
  char : Nat
  deriving DecidableEq, Repr

/-- A key: where it begins and ends, and the letters that say how it is compared. -/
structure Key where
  start : Place
  stop : Option Place
  how : List Char
  /-- blanks in front of the beginning and of the end do not count -/
  skipStart : Bool
  skipStop : Bool
  deriving DecidableEq, Repr

/-- The letters that say how keys are compared. -/
def manners : List Char := ['b', 'd', 'f', 'g', 'h', 'i', 'M', 'n', 'R', 'r', 'V']

def isBlank (c : Char) : Bool := c == ' ' || c == '\t'

/-- Reads a place and the letters behind it. -/
def place (cs : List Char) : Option (Place × List Char × List Char) := do
  let fieldDigits := cs.takeWhile Char.isDigit
  let field ← Number.natural? (String.ofList fieldDigits)
  let rest := cs.drop fieldDigits.length
  let (char, rest) ← match rest with
    | '.' :: more => do
      let ds := more.takeWhile Char.isDigit
      let n ← Number.natural? (String.ofList ds)
      pure (some n, more.drop ds.length)
    | rest => pure (none, rest)
  let letters := rest.takeWhile manners.contains
  return (⟨field, char.getD 0⟩, letters, rest.drop letters.length)

/-- Reads a key; the letters of all keys are those for keys that have none. -/
def key (common : List Char) (text : String) : Except String Key := do
  let bad : Except String Key := .error ("invalid field specification " ++ Options.quoted text)
  match place text.toList with
  | none => .error ("invalid number at field start: invalid count at start of " ++
      Options.quoted text)
  | some (start, letters, rest) =>
    if start.field = 0 then .error ("field number is zero: " ++
      "invalid field specification " ++ Options.quoted text)
    else
      let done (stop : Option Place) (own : List Char) (skipStop : Bool) : Key :=
        let plain := letters.isEmpty && own.isEmpty
        let how := if plain then common else letters ++ own
        { start, stop, how
          skipStart := if plain then common.contains 'b' else letters.contains 'b'
          skipStop := if plain then common.contains 'b' else skipStop }
      match rest with
      | [] => return done none [] false
      | ',' :: more =>
        match place more with
        | some (stop, own, []) => return done (some stop) own (own.contains 'b')
        | _ => bad
      | _ => bad

/-- The lengths of the fields of a line with the separators in front of them. -/
def fieldStarts (separator : Option Char) (line : List Char) : List Nat :=
  match separator with
  | some sep => go 0 (Text.splitOn sep line)
  | none => blanks 0 line.length line
where
  /-- Fields between separators. -/
  go : Nat → List (List Char) → List Nat
    | _, [] => []
    | n, field :: rest => n :: go (n + field.length + 1) rest
  /-- Fields of blanks and others; the blanks belong to the field behind them. -/
  blanks : Nat → Nat → List Char → List Nat
    | n, 0, _ => [n]
    | n, k + 1, cs =>
      if cs.isEmpty then []
      else
        let gap := cs.takeWhile isBlank
        let word := (cs.drop gap.length).takeWhile fun c => !isBlank c
        n :: blanks (n + gap.length + word.length) k (cs.drop (gap.length + word.length))

/-- The part of a line that a key is about. -/
def part (separator : Option Char) (k : Key) (line : List Char) : List Char :=
  let starts := fieldStarts separator line
  let skip (on : Bool) (n : Nat) : Nat :=
    if on then n + ((line.drop n).takeWhile isBlank).length else n
  let begin := match starts[k.start.field - 1]? with
    | some n => min line.length (skip k.skipStart n + (k.start.char - 1))
    | none => line.length
  let finish := match k.stop with
    | none => line.length
    | some stop =>
      if stop.char = 0 then
        match starts[stop.field]? with
        | some n => if separator.isSome then n - 1 else n
        | none => line.length
      else match starts[stop.field - 1]? with
        | some n => min line.length (skip k.skipStop n + stop.char)
        | none => line.length
  (line.drop begin).take (finish - begin)

/-- A decimal number at the start of a text: its sign, what stands before the point without zeros in
front, and what stands behind it without zeros at the end. -/
def decimal (cs : List Char) : Bool × List Char × List Char :=
  let cs := cs.dropWhile isBlank
  let (negative, cs) := match cs with
    | '-' :: rest => (true, rest)
    | rest => (false, rest)
  let whole := cs.takeWhile Char.isDigit
  let behind := match cs.drop whole.length with
    | '.' :: rest => rest.takeWhile Char.isDigit
    | _ => []
  let whole := whole.dropWhile (· == '0')
  let behind := (behind.reverse.dropWhile (· == '0')).reverse
  (negative && !(whole.isEmpty && behind.isEmpty), whole, behind)

/-- Compares two texts in the order of bytes. -/
def compareBytes (a b : List Char) : Ordering :=
  if a == b then .eq else if Bytes.notBehind a b then .lt else .gt

/-- Compares two numbers that are decimals, given as signs and digits. -/
def compareDecimals (a b : Bool × List Char × List Char) : Ordering :=
  let (na, wa, fa) := a
  let (nb, wb, fb) := b
  let size : Ordering :=
    if wa.length != wb.length then compare wa.length wb.length
    else (compareBytes wa wb).then (compareBytes fa fb)
  match na, nb with
  | false, true => .gt
  | true, false => .lt
  | false, false => size
  | true, true => size.swap

/-- Compares two numbers with a point. -/
def compareFloating (a b : List Char) : Ordering :=
  -- what is no number stands before all numbers
  let rank (cs : List Char) : Int × Int × Nat :=
    match Floating.read? Width.extended cs with
    | none => (0, 0, 0)
    | some (.undefined _, _) => (1, 0, 0)
    | some (.infinite negative, _) => (if negative then 2 else 4, 0, 0)
    | some (.finite negative m power, _) => (3, if negative then -(m : Int) else m, power.natAbs)
  let exact (cs : List Char) : Option (Int × Int) :=
    match Floating.read? Width.extended cs with
    | some (.finite negative m power, _) => some (if negative then -(m : Int) else m, power)
    | _ => none
  match exact a, exact b with
  | some (m, p), some (n, q) =>
    let low := min p q
    compare (m * Int.ofNat (Nat.pow 2 (p - low).toNat)) (n * Int.ofNat (Nat.pow 2 (q - low).toNat))
  | _, _ => compare (rank a).1 (rank b).1

/-- The place of a unit behind a number. -/
def unitRank (cs : List Char) : Nat :=
  let cs := cs.dropWhile isBlank
  let body := match cs with
    | '-' :: rest => rest
    | rest => rest
  let rest := (body.dropWhile Char.isDigit)
  let rest := match rest with
    | '.' :: more => more.dropWhile Char.isDigit
    | more => more
  match rest.head? with
  | some c =>
    let unit := if c == 'k' then 'K' else c
    (['K', 'M', 'G', 'T', 'P', 'E', 'Z', 'Y'].idxOf? unit).elim 0 (· + 1)
  | none => 0

/-- Compares two numbers with units behind them. -/
def compareUnits (a b : List Char) : Ordering :=
  let da := decimal a
  let db := decimal b
  let sign (d : Bool × List Char × List Char) : Nat :=
    if d.1 then 0 else if d.2.1.isEmpty && d.2.2.isEmpty then 1 else 2
  let units := compare (unitRank a) (unitRank b)
  (compare (sign da) (sign db)).then
    (if sign da = 1 then .eq
    else ((if da.1 then units.swap else units).then (compareDecimals da db)))

/-- The number of a month, by the first letters of its name. -/
def month (cs : List Char) : Nat :=
  let name := String.ofList (((cs.dropWhile isBlank).take 3).map Char.toUpper)
  (["JAN", "FEB", "MAR", "APR", "MAY", "JUN", "JUL", "AUG", "SEP", "OCT", "NOV",
    "DEC"].findIdx? (· == name)).elim 0 (· + 1)

/-- How a character counts where versions are compared. -/
def versionRank (c : Char) : Nat :=
  if c == '~' then 0 else if c.isAlpha then c.toNat + 1 else c.toNat + 1000

/-- Compares two versions: texts and numbers by turns. -/
def compareVersions : Nat → List Char → List Char → Ordering
  | 0, _, _ => .eq
  | n + 1, a, b =>
    if a.isEmpty && b.isEmpty then .eq
    else
      let word (cs : List Char) : List Char := cs.takeWhile fun c => !c.isDigit
      let wa := word a
      let wb := word b
      let count := max wa.length wb.length
      let ranks (w : List Char) : List Nat :=
        w.map versionRank ++ List.replicate (count - w.length) 1
      let words := ((ranks wa).zip (ranks wb)).foldl (fun (o : Ordering) (x, y) =>
        o.then (compare x y)) .eq
      let ra := a.drop wa.length
      let rb := b.drop wb.length
      let da := ra.takeWhile Char.isDigit
      let db := rb.takeWhile Char.isDigit
      let numbers := compareDecimals (false, da.dropWhile (· == '0'), [])
        (false, db.dropWhile (· == '0'), [])
      (words.then numbers).then (compareVersions n (ra.drop da.length) (rb.drop db.length))

/-- Compares two parts of lines in the way that some letters say. -/
def compareParts (how : List Char) (a b : List Char) : Ordering :=
  let found : Ordering :=
    if how.contains 'n' then compareDecimals (decimal a) (decimal b)
    else if how.contains 'g' then compareFloating a b
    else if how.contains 'h' then compareUnits a b
    else if how.contains 'M' then compare (month a) (month b)
    else
      let plain (cs : List Char) : List Char :=
        let cs := if how.contains 'd' then cs.filter fun c => isBlank c || c.isAlphanum else cs
        let cs := if how.contains 'i' then cs.filter fun c => ' ' ≤ c && c ≤ '~' else cs
        if how.contains 'f' then cs.map Char.toUpper else cs
      if how.contains 'V' then
        compareVersions (a.length + b.length + 1) (plain a) (plain b)
      else compareBytes (plain a) (plain b)
  if how.contains 'r' then found.swap else found

/-- How lines are sorted. -/
structure Rule where
  keys : List Key
  separator : Option Char
  /-- letters for all keys -/
  common : List Char
  /-- lines with the same keys stay as they are -/
  stable : Bool

/-- Compares two lines by their keys. -/
def Rule.byKeys (r : Rule) (a b : List Char) : Ordering :=
  r.keys.foldl (fun (o : Ordering) k =>
    o.then (compareParts k.how (part r.separator k a) (part r.separator k b))) .eq

/-- Compares two lines. -/
def Rule.compare (r : Rule) (a b : List Char) : Ordering :=
  let last := compareBytes a b
  (r.byKeys a b).then
    (if r.stable then .eq else if r.common.contains 'r' then last.swap else last)

/-- The lines without those that are equal to one before. -/
def Rule.distinct (r : Rule) : List (List Char) → List (List Char)
  | [] => []
  | line :: rest => line :: go line rest
where
  /-- Goes on behind a line. -/
  go (before : List Char) : List (List Char) → List (List Char)
    | [] => []
    | line :: rest => if r.compare before line == .eq then go before rest else line :: go line rest

/-- Sorts lines. -/
def Rule.sort (r : Rule) (lines : List (List Char)) : List (List Char) :=
  lines.mergeSort fun a b => r.compare a b != .gt

/-- Puts texts together that are sorted; of lines that are equal the earlier text's comes first. -/
def Rule.merge (r : Rule) (texts : List (List (List Char))) : List (List Char) :=
  texts.foldl (fun found lines => found.merge lines fun a b => r.compare a b != .gt) []

/-- The first line that stands behind one that it should be before, with its number. -/
def Rule.disorder (r : Rule) (unique : Bool) :
    Nat → List (List Char) → Option (Nat × List Char)
  | n, a :: b :: rest =>
    let c := r.compare a b
    if c == .gt || (unique && c == .eq) then some (n + 1, b)
    else disorder r unique (n + 1) (b :: rest)
  | _, _ => none

/-- The options of the program. -/
def knowledge : Knowledge where
  alone := "bdfghiMnRrVcCmsuz"
  valued := "koStTz"
  long := [("ignore-leading-blanks", 'b'), ("dictionary-order", 'd'), ("ignore-case", 'f'),
    ("general-numeric-sort", 'g'), ("human-numeric-sort", 'h'), ("ignore-nonprinting", 'i'),
    ("month-sort", 'M'), ("numeric-sort", 'n'), ("random-sort", 'R'), ("reverse", 'r'),
    ("version-sort", 'V'), ("check", 'c'), ("merge", 'm'), ("stable", 's'), ("unique", 'u'),
    ("key", 'k'), ("output", 'o'), ("field-separator", 't')]

/-- The program. -/
def run (i : Invocation) : Ended :=
  i.withOptions knowledge (fun o =>
    let common := manners.filter o.has
    let keys : Except String (List Key) := (o.values 'k').mapM (key common)
    let separator : Except String (Option Char) :=
      match (o.value? 't').map Bytes.narrow with
      | none => .ok none
      | some [] => .error "empty tab"
      | some [c] => .ok (some c)
      | some ['\\', '0'] => .ok (some '\x00')
      | some _ => .error ("multi-character tab " ++ Options.quoted ((o.value? 't').getD ""))
    match keys, separator with
    | .error text, _ | _, .error text => i.complained text 2
    | .ok keys, .ok separator =>
      let whole : List Key :=
        if keys.isEmpty && !common.isEmpty then
          [⟨⟨1, 0⟩, none, common, common.contains 'b', false⟩]
        else keys
      let rule : Rule := {
        keys := whole
        separator
        common
        stable := o.has 's' || (o.has 'u' && !whole.isEmpty) }
      let all := i.contents o.words
      let refused := all.filterMap fun (name, found) => match found with
        | .ok _ => none
        | .error e => some (name, e)
      match refused with
      | (name, e) :: _ =>
        i.complained ((if e = .isDirectory then "read failed: " else "cannot read: ") ++
          Invocation.shown name ++ ": " ++ reason e) 2
      | [] =>
        let texts := all.map fun (_, found) => match found with
          | .ok bytes => Bytes.lines (Bytes.chars bytes)
          | .error _ => []
        let lines := texts.flatten
        if o.has 'c' || o.has 'C' then
          match rule.disorder (o.has 'u') 1 lines with
          | none => { i.ends 0 with taken := i.takenBy o.words }
          | some (n, line) =>
            let told := (o.words.headD "-") ++ ":" ++ toString n ++ ": disorder: " ++
              Bytes.widen line
            { (if o.has 'C' then i.ends 1 else i.complained told) with
              taken := i.takenBy o.words }
        else
          let sorted := if o.has 'm' then rule.merge texts else rule.sort lines
          let sorted := if o.has 'u' then rule.distinct sorted else sorted
          let bytes := Bytes.ofChars (Bytes.unlines sorted)
          match o.value? 'o' with
          | none => { i.wrote bytes with taken := i.takenBy o.words }
          | some name =>
            match i.files.writeFile ⟨name⟩ ⟨bytes.toArray⟩ with
            | .ok files => { i.ends 0 with files, taken := i.takenBy o.words }
            | .error e =>
              i.complained ("open failed: " ++ Invocation.shown name ++ ": " ++ reason e) 2)
    false 2

/-! ## Lines that are the same -/

/-- Lines that stand together and are the same, each group with how many there are. -/
def groups (same : List Char → List Char → Bool) : List (List Char) → List (List (List Char))
  | [] => []
  | line :: rest =>
    match groups same rest with
    | (next :: more) :: others =>
      if same line next then (line :: next :: more) :: others
      else [line] :: (next :: more) :: others
    | others => [line] :: others

/-- The part of a line that counts when lines are compared. -/
def counted (o : Options) (line : List Char) : List Char :=
  let number (flag : Char) : Option Nat := (o.value? flag).bind Number.natural?
  let withoutField (cs : List Char) : List Char :=
    (cs.dropWhile isBlank).dropWhile fun c => !isBlank c
  let cs := (List.range ((number 'f').getD 0)).foldl (fun cs _ => withoutField cs) line
  let cs := cs.drop ((number 's').getD 0)
  let cs := match number 'w' with
    | some n => cs.take n
    | none => cs
  if o.has 'i' then cs.map Char.toUpper else cs

/-- The program that writes one of several lines that are the same. -/
def unique (i : Invocation) : Ended :=
  i.withOptions {
      alone := "cdDuiz"
      valued := "fsw"
      long := [("count", 'c'), ("repeated", 'd'), ("unique", 'u'), ("ignore-case", 'i'),
        ("skip-fields", 'f'), ("skip-chars", 's'), ("check-chars", 'w')] } fun o =>
    match o.words with
    | _ :: _ :: third :: _ => i.misused ("extra operand " ++ Options.quoted third)
    | words =>
      let names := words.take 1
      match i.content (names.headD "-") with
      | .error e =>
        let name := names.headD "-"
        i.complained ((if e = .isDirectory then "error reading " ++ Options.quoted name
          else Invocation.shown name) ++ ": " ++ reason e)
      | .ok bytes =>
        let lines := Bytes.lines (Bytes.chars bytes)
        let found := groups (fun a b => counted o a == counted o b) lines
        let lines := found.flatMap fun group =>
          let n := group.length
          if o.has 'D' then (if n = 1 then [] else group)
          else if (o.has 'd' && n == 1) || (o.has 'u' && n != 1) then []
          else
            (group.take 1).map fun line =>
              if o.has 'c' then Bytes.column 7 n ++ ' ' :: line else line
        let bytes := Bytes.ofChars (Bytes.unlines lines)
        match words.drop 1 with
        | name :: _ =>
          match i.files.writeFile ⟨name⟩ ⟨bytes.toArray⟩ with
          | .ok files => { i.ends 0 with files, taken := i.takenBy names }
          | .error e => i.complained (Invocation.shown name ++ ": " ++ reason e)
        | [] => { i.wrote bytes with taken := i.takenBy names }

/-! ## Lines of two files -/

/-- One of two files whose lines are compared: the lines before its next one, the latest first, the
next one and those after it, and whether it was found to be in disorder. -/
structure Column where
  passed : List (List Char) := []
  rest : List (List Char)
  complained : Bool := false

/-- Goes on to the next line; from the first line on that only one file has, the order is looked
at.  A disorder at the end, before that, is found again. -/
def Column.next (c : Column) (looks : Bool) : Column × Bool :=
  match c.rest with
  | [] => (c, false)
  | line :: rest =>
    let pair : Option (List Char × List Char) := match rest, c.passed with
      | following :: _, _ => some (line, following)
      | [], before :: _ => some (before, line)
      | [], [] => none
    let found := looks && !c.complained && pair.any fun (a, b) => compareBytes a b == .gt
    ({ passed := line :: c.passed, rest, complained := c.complained || found }, found)

/-- What the comparison of two files tells. -/
inductive Told where
  /-- a line of the first file only, of the second only, of both -/
  | line (column : Nat) (text : List Char)
  | disorder (file : Nat)

/-- Compares two files line by line; `differ` if a line was found that only one of them has. -/
def merged : Nat → Bool → Column → Column → List Told
  | 0, _, _, _ => []
  | n + 1, differ, a, b =>
    let order : Option (Ordering × List Char) := match a.rest, b.rest with
      | [], [] => none
      | x :: _, [] => some (.lt, x)
      | [], y :: _ => some (.gt, y)
      | x :: _, y :: _ => some (compareBytes x y, if compareBytes x y == .gt then y else x)
    match order with
    | none => []
    | some (order, text) =>
      let differ := differ || order != .eq
      let (after, ofFirst) := if order == .gt then (a, false) else a.next differ
      let (behind, ofSecond) := if order == .lt then (b, false) else b.next differ
      let column := match order with
        | .lt => 1
        | .gt => 2
        | .eq => 3
      .line column text :: (if ofFirst then [.disorder 1] else []) ++
        (if ofSecond then [.disorder 2] else []) ++ merged n differ after behind

/-- The program that tells which lines two files have in common. -/
def common (i : Invocation) : Ended :=
  i.withOptions { alone := "123", long := [] } fun o =>
    match o.words with
    | [] => i.missing "operand"
    | [one] => i.misused ("missing operand after " ++ Options.quoted one)
    | [first, second] =>
      match i.content first, i.content second with
      | .error e, _ => i.complained (Invocation.shown first ++ ": " ++ reason e)
      | _, .error e => i.complained (Invocation.shown second ++ ": " ++ reason e)
      | .ok a, .ok b =>
        let as := Bytes.lines (Bytes.chars a)
        let bs := Bytes.lines (Bytes.chars b)
        let shows (k : Nat) : Bool := !o.has (Char.ofNat (k + '0'.toNat))
        let tabs (k : Nat) : Nat := ([1, 2].filter fun j => j < k && shows j).length
        let all := merged (as.length + bs.length + 1) false { rest := as } { rest := bs }
        let output := all.filterMap fun told => match told with
          | .line k text =>
            if shows k then
              some (false, Bytes.ofChars (List.replicate (tabs k) '\t' ++ text ++ ['\n']))
            else none
          | .disorder k => some (i.complaint ("file " ++ toString k ++ " is not in sorted order"))
        let ended : Ended := { output, files := i.files, taken := i.takenBy [first, second] }
        if output.any (·.1) then
          { ended with
            output := output ++ [i.complaint "input is not in sorted order"]
            status := .exited 1 }
        else ended
    | _ :: _ :: third :: _ => i.misused ("extra operand " ++ Options.quoted third)

end Sorting

end Fleet.Shell

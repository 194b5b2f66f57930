import Fleet.Shell.Bytes
import Fleet.Shell.Invocation

namespace Fleet.Shell

/-! # Tab stops

The programs `expand`, which writes blanks for tabs, and `unexpand`, which writes tabs for blanks.
A line has stops; what stands behind a tab begins at the next of them.
-/

/-- The stops of a line: a list of them, and how they go on. -/
structure TabStop where
  listed : List Nat := []
  /-- behind the list, every multiple of this is one -/
  multiple : Option Nat := none
  /-- behind the list, they follow each other at this distance -/
  distance : Option Nat := none
  deriving DecidableEq, Repr

namespace TabStop

/-- The next stop behind a column, if there is one. -/
def next? (t : TabStop) (column : Nat) : Option Nat :=
  match t.listed.find? fun stop => column < stop with
  | some stop => some stop
  | none =>
    match t.multiple, t.distance with
    | some n, _ => some (column + (n - column % n))
    | none, some n => some (column + (n - (column - t.listed.getLastD 0) % n))
    | none, none => none

/-- What is read of a list: a number that has begun, and the sign in front of it. -/
structure Draft where
  stops : TabStop := {}
  sign : Option Char := none
  value : Option Nat := none

/-- Ends a number in a list. -/
def Draft.ended (d : Draft) : Except String Draft :=
  match d.value, d.sign with
  | none, _ => .ok d
  | some n, some '/' =>
    if d.stops.multiple.isSome then .error "'/' specifier only allowed with the last value"
    else .ok { d with stops := { d.stops with multiple := some n }, value := none }
  | some n, some _ =>
    if d.stops.distance.isSome then .error "'+' specifier only allowed with the last value"
    else .ok { d with stops := { d.stops with distance := some n }, value := none }
  | some n, none =>
    .ok { d with stops := { d.stops with listed := d.stops.listed ++ [n] }, value := none }

/-- Reads a list of stops behind others. -/
def readFrom (d : Draft) : List Char → Except String Draft
  | [] => d.ended
  | c :: rest =>
    if c = ',' || c = ' ' || c = '\t' then
      match d.ended with
      | .ok d => readFrom d rest
      | .error e => .error e
    else if c = '/' || c = '+' then
      if d.value.isSome then
        .error (Options.quoted c.toString ++ " specifier not at start of number: " ++
          Options.quoted (String.ofList (c :: rest)))
      else readFrom { d with sign := some c } rest
    else if c.isDigit then
      let value := d.value.getD 0 * 10 + (c.toNat - '0'.toNat)
      if Number.largest.toNat * 2 + 1 < value then
        .error ("tab stop is too large " ++
          Options.quoted (toString (value / 10) ++ String.ofList ((c :: rest).takeWhile Char.isDigit)))
      else readFrom { d with value := some value } rest
    else
      .error ("tab size contains invalid character(s): " ++
        Options.quoted (String.ofList (c :: rest)))

/-- The stops that several lists give. -/
def read (texts : List String) : Except String TabStop := do
  let stops ← texts.foldlM (fun stops text =>
    (readFrom { stops } text.toList).map (·.stops)) ({} : TabStop)
  if stops.listed.contains 0 then throw "tab size cannot be 0"
  else if (stops.listed.zip (stops.listed.drop 1)).any fun (a, b) => b ≤ a then
    throw "tab sizes must be ascending"
  else if stops.multiple.isSome && stops.distance.isSome then
    throw "'/' specifier is mutually exclusive with '+'"
  else
    let multiple := stops.multiple.filter (0 < ·)
    let distance := stops.distance.filter (0 < ·)
    match stops.listed, multiple, distance with
    | [], none, none => return { multiple := some 8 }
    | [], some n, _ | [], none, some n | [n], none, none => return { multiple := some n }
    | listed, multiple, distance => return { listed, multiple, distance }

/-! ## Blanks for tabs -/

/-- Where a line is read: its column, and whether tabs still count. -/
structure Place where
  column : Nat := 0
  counts : Bool := true

/-- Blanks for tabs; all of them, or only those that lines begin with. -/
def expand (t : TabStop) (all : Bool) (p : Place) : List Char → List Char
  | [] => []
  | '\n' :: rest => '\n' :: expand t all {} rest
  | c :: rest =>
    if !p.counts then c :: expand t all p rest
    else if c = '\t' then
      let stop := (t.next? p.column).getD (p.column + 1)
      List.replicate (stop - p.column) ' ' ++ expand t all { p with column := stop } rest
    else
      let column := if c = '\x08' then p.column - 1 else p.column + 1
      c :: expand t all ⟨column, all || c == ' '⟩ rest

/-! ## Tabs for blanks -/

/-- Where a line is read, and the blanks that have not been written yet. -/
structure Waiting where
  column : Nat := 0
  counts : Bool := true
  /-- the first of the blanks stands in front of a stop -/
  atStop : Bool := false
  afterBlank : Bool := true
  blanks : List Char := []

/-- The blanks that have not been written, as they are written. -/
def Waiting.written (w : Waiting) : List Char :=
  if 1 < w.blanks.length && w.atStop then '\t' :: w.blanks.drop 1 else w.blanks

/-- A blank is replaced: what is kept in front of it is a single blank before the last stop. -/
def Waiting.replaced (w : Waiting) : List Char :=
  if w.atStop then ['\t'] else []

/-- Tabs for blanks; for all of them, or only for those that lines begin with. -/
def unexpand (t : TabStop) (all : Bool) (w : Waiting) : List Char → List Char
  | [] => w.written
  | c :: rest =>
    if !w.counts then
      c :: unexpand t all (if c = '\n' then {} else w) rest
    else
      let isBlank := c == ' ' || c == '\t'
      match isBlank, t.next? w.column with
      | true, none =>
        -- behind the last stop nothing is replaced
        w.written ++ c :: unexpand t all { counts := false } rest
      | true, some stop =>
        if c = '\t' then
          w.replaced ++ '\t' :: unexpand t all { column := stop } rest
        else
          let column := w.column + 1
          if w.afterBlank && column = stop then
            w.replaced ++ '\t' :: unexpand t all { column } rest
          else
            unexpand t all { w with
              column
              atStop := w.atStop || column == stop
              afterBlank := true
              blanks := w.blanks ++ [c] } rest
      | false, _ =>
        let column := if c = '\x08' then w.column - 1 else w.column + 1
        w.written ++ c :: unexpand t all
          (if c = '\n' then {} else { column, counts := all, afterBlank := false }) rest

/-! ## Programs -/

/-- The digits, each an option with more digits behind it. -/
def digits : String := "0123456789"

/-- The lists of stops that options give. -/
def listsIn (o : Options) : List String :=
  o.given.filterMap fun (c, value) =>
    if c = 't' then some value else if c.isDigit then some (c.toString ++ value) else none

/-- The program `expand`. -/
def runExpand (i : Invocation) : Ended :=
  i.withOptions {
      alone := "i", valued := "t", optional := digits
      long := [("initial", 'i'), ("tabs", 't')] } fun o =>
    match read (listsIn o) with
    | .error e => i.complained e
    | .ok stops => i.forAll o.words fun bytes =>
        Bytes.ofChars (expand stops (!o.has 'i') {} (Bytes.chars bytes))

/-- The program `unexpand`. -/
def runUnexpand (i : Invocation) : Ended :=
  i.withOptions {
      alone := "a," ++ digits, valued := "t"
      long := [("all", 'a'), ("first-only", '\x01'), ("tabs", 't')] } fun o =>
    let loose := String.ofList ((o.given.map (·.1)).filter fun c => c.isDigit || c == ',')
    match read (o.values 't' ++ if loose.isEmpty then [] else [loose]) with
    | .error e => i.complained e
    | .ok stops => i.forAll o.words fun bytes =>
        Bytes.ofChars (unexpand stops ((o.has 'a' || o.has 't') && !o.has '\x01') {}
          (Bytes.chars bytes))

end TabStop

end Fleet.Shell

import Fleet.FileSystem.Operations
import Fleet.Shell.Bytes
import Fleet.Shell.LineEditor.Script

namespace Fleet.Shell

/-! # Following a script of the line editor

The editor takes line after line, follows the steps of its script that are for the line, and writes
what is left in the space.
-/

namespace LineEditor

/-- A line of the input, whether it has an end, and the file that it is from. -/
structure Line where
  text : List Char
  ended : Bool
  file : String
  /-- the last line of its file -/
  isLast : Bool

/-- The editor at work. -/
structure Machine where
  space : List Char := []
  held : List Char := []
  ended : Bool := true
  file : String := "-"
  isLast : Bool := true
  number : Nat := 0
  rest : List Line
  /-- what was written, latest first, and whether the end of its last line is missing -/
  written : List (List Char) := []
  lacking : Bool := false
  /-- what is written at the end of the round, latest first -/
  queue : List (List Char × Bool) := []
  changed : Bool := false
  pattern : Pattern := none
  /-- the steps that are inside their lines, each with the line where it began -/
  active : List (Nat × Nat) := []
  files : FileSystem

/-- How a step goes on. -/
inductive Flow where
  | on
  | jump (label : String)
  /-- the round is over; the space is written unless `silent` -/
  | over (silent : Bool)
  /-- a new round with what is left in the space -/
  | again
  | quit (code : Nat) (silent : Bool)

namespace Machine

/-- Writes characters; `ended` if they are a whole line. -/
def put (m : Machine) (text : List Char) (ended : Bool) : Machine :=
  let lead := if m.lacking then ['\n'] else []
  { m with
    written := (lead ++ text ++ if ended then ['\n'] else []) :: m.written
    lacking := !ended }

/-- Writes the space. -/
def putSpace (m : Machine) : Machine := m.put m.space m.ended

/-- Writes what is queued. -/
def flush (m : Machine) : Machine :=
  let m' := m.queue.reverse.foldl (fun (m : Machine) (text, isFile) =>
    if text.isEmpty then m
    else if isFile then
      let whole := text.getLast? == some '\n'
      m.put (if whole then text.dropLast else text) whole
    else m.put text.dropLast true) m
  -- the end of a file that is put in is not waited for
  { m' with
    queue := []
    lacking := if m.queue.isEmpty then m'.lacking else m.lacking && m'.lacking }

/-- There is no line behind this one. -/
def atEnd (m : Machine) (separate : Bool) : Bool := m.rest.isEmpty || (separate && m.isLast)

/-- Takes a line of the input. -/
def advance (m : Machine) (line : Line) (rest : List Line) : Machine :=
  { m with ended := line.ended, file := line.file, isLast := line.isLast, rest
           number := m.number + 1 }

/-- Adds a line to a file. -/
def toFile (m : Machine) (name : String) (text : List Char) : Machine :=
  if name = "/dev/stdout" then m.put text true
  else
    let old := (m.files.readFile ⟨name⟩).toOption.getD .empty
    match m.files.writeFile ⟨name⟩ (old ++ ⟨(Bytes.ofChars (text ++ ['\n'])).toArray⟩) with
    | .ok files => { m with files }
    | .error _ => m

/-- The expression that is meant; an empty one is the last that was used. -/
def meant (m : Machine) (p : Pattern) : Machine × Pattern :=
  match p with
  | some r => ({ m with pattern := some r }, some r)
  | none => (m, m.pattern)

/-- The space has a match. -/
def isLike (m : Machine) (p : Pattern) : Machine × Bool :=
  match m.meant p with
  | (m, some (r, _)) => (m, r.occursIn m.space)
  | (m, none) => (m, false)

/-- The line is one where a step begins. -/
def isAt (m : Machine) (separate : Bool) : Spot → Machine × Bool
  | .line n => (m, m.number == n)
  | .last => (m, m.atEnd separate)
  | .like p => m.isLike p
  | .every first step =>
    (m, if step = 0 then m.number == first
      else first ≤ m.number && (m.number - first) % step == 0)

/-- A step is for the line at work; `index` is its place in the script. -/
def isChosen (m : Machine) (separate : Bool) (index : Nat) (c : Choice) : Machine × Bool :=
  match c.start, c.stop with
  | none, _ => (m, true)
  | some a, none => m.isAt separate a
  | some a, some b =>
    let leave (m : Machine) : Machine :=
      { m with active := m.active.filter fun (k, _) => k != index }
    let enter (m : Machine) : Machine := { leave m with active := (index, m.number) :: m.active }
    let first : Bool := match a with
      | .line 0 => m.number == 1 && (m.active.lookup index).isNone
      | _ => false
    let m := if first then enter m else m
    match m.active.lookup index with
    | some began =>
      match b with
      | .line n => if m.number < n then (m, true) else (leave m, m.number == n)
      | .last => if m.atEnd separate then (leave m, true) else (m, true)
      | .like p =>
        match m.isLike p with
        | (m, true) => (leave m, true)
        | (m, false) => (m, true)
      | .more n => if began + n ≤ m.number then (leave m, true) else (m, true)
      | .multiple n =>
        if n = 0 || m.number % n = 0 then (leave m, true) else (m, true)
    | none =>
      match a with
      | .line 0 => (m, false)
      | _ =>
        match m.isAt separate a with
        | (m, false) => (m, false)
        | (m, true) =>
          let goesOn : Bool := match b with
            | .line n => decide (m.number < n)
            | .last => !m.atEnd separate
            | .like _ => true
            | .more n => decide (0 < n)
            | .multiple n => n != 0 && m.number % n != 0
          (if goesOn then enter m else m, true)

end Machine

/-- A character in a given case. -/
def Casing.apply (c : Casing) (x : Char) : Char :=
  match c with
  | upper => x.toUpper
  | lower => x.toLower
  | none => x

/-- Characters of which the first is in one case and the others in another. -/
def inCase (whole : Casing) (once : Option Casing) : List Char → List Char
  | [] => []
  | c :: rest => (once.getD whole).apply c :: rest.map whole.apply

/-- What is put in the place of a match. -/
def expand (space : List Char) (m : Text.Regex.Match) :
    Casing → Option Casing → List Piece → List Char
  | _, _, [] => []
  | whole, once, p :: rest =>
    let emit (cs : List Char) : List Char :=
      inCase whole once cs ++ expand space m whole (if cs.isEmpty then once else none) rest
    match p with
    | .text cs => emit cs
    | .group 0 => emit ((space.drop m.start).take m.length)
    | .group n =>
      match m.groups.lookup n with
      | some (start, length) => emit ((space.drop start).take length)
      | none => emit []
    | .casing c => expand space m c none rest
    | .next c => expand space m whole (some c) rest

/-- Replaces matches, given one behind the other; `here` is where the text goes on. -/
def replaceFrom (space : List Char) (pieces : List Piece) (everywhere : Bool) (nth : Nat) :
    Nat → Nat → List Text.Regex.Match → List Char × Bool
  | _, here, [] => (space.drop here, false)
  | k, here, m :: rest =>
    let before := (space.drop here).take (m.start - here)
    if k == nth || (nth < k && everywhere) then
      let (after, _) := replaceFrom space pieces everywhere nth (k + 1) (m.start + m.length) rest
      (before ++ expand space m .none none pieces ++ after, true)
    else if k < nth then
      let (after, changed) :=
        replaceFrom space pieces everywhere nth (k + 1) (m.start + m.length) rest
      (before ++ (space.drop m.start).take m.length ++ after, changed)
    else (space.drop here, false)

/-- A line as it is listed: what cannot be seen is named, and long lines are folded. -/
def asListed (width : Nat) (text : List Char) : List Char :=
  let name (c : Char) : List Char :=
    match c with
    | '\\' => ['\\', '\\']
    | '\x07' => ['\\', 'a']
    | '\x08' => ['\\', 'b']
    | '\x0c' => ['\\', 'f']
    | '\n' => ['\\', 'n']
    | '\r' => ['\\', 'r']
    | '\t' => ['\\', 't']
    | '\x0b' => ['\\', 'v']
    | _ =>
      if ' ' ≤ c && c ≤ '~' then [c]
      else
        let ds := Nat.toDigits 8 c.toNat
        '\\' :: List.replicate (3 - ds.length) '0' ++ ds
  let (lines, column) := text.foldl (fun ((done, column) : List Char × Nat) c =>
    let cs := name c
    if 1 < width && width - 1 < column + cs.length then
      (cs.reverse ++ '\n' :: '\\' :: done, cs.length)
    else (cs.reverse ++ done, column + cs.length)) (([] : List Char), 0)
  let _ := column
  lines.reverse ++ ['$']

/-- How the editor works. -/
structure Settings where
  quiet : Bool := false
  separate : Bool := false
  width : Nat := 70

/-- Does one deed. -/
def Deed.perform (settings : Settings) (d : Deed) (isRange : Bool) (inside : Bool) (m : Machine) :
    Machine × Flow :=
  match d with
  | nothing | block | close | label _ => (m, .on)
  | branch name => (m, .jump name)
  | branchIf wanted name =>
    if m.changed == wanted then ({ m with changed := false }, .jump name)
    else ({ m with changed := false }, .on)
  | append text => ({ m with queue := (text, false) :: m.queue }, .on)
  | insert text => (m.put text.dropLast true, .on)
  | change text =>
    (if isRange && inside then m else m.put text.dropLast true, .over true)
  | delete => (m, .over true)
  | deleteLine =>
    if m.space.contains '\n' then
      ({ m with space := (m.space.dropWhile (· != '\n')).drop 1 }, .again)
    else (m, .over true)
  | get adding =>
    ({ m with space := if adding then m.space ++ '\n' :: m.held else m.held }, .on)
  | hold adding =>
    ({ m with held := if adding then m.held ++ '\n' :: m.space else m.space }, .on)
  | exchange => ({ m with space := m.held, held := m.space }, .on)
  | listing width => (m.put (asListed (width.getD settings.width) m.space) true, .on)
  | next =>
    match m.rest with
    | [] => (m, .quit 0 false)
    | line :: rest =>
      if m.atEnd settings.separate then (m, .quit 0 false)
      else
        let m := if settings.quiet then m else m.putSpace
        ({ m.flush.advance line rest with space := line.text }, .on)
  | join =>
    match m.rest with
    | [] => (m, .quit 0 false)
    | line :: rest =>
      if m.atEnd settings.separate then (m, .quit 0 false)
      else ({ m.flush.advance line rest with space := m.space ++ '\n' :: line.text }, .on)
  | print => (m.putSpace, .on)
  | printLine => (m.put (m.space.takeWhile (· != '\n')) true, .on)
  | number => (m.put (toString m.number).toList true, .on)
  | fileName => (m.put m.file.toList true, .on)
  | quit code silent => (m, .quit code silent)
  | readFile name =>
    match m.files.readFile ⟨name⟩ with
    | .ok content =>
      ({ m with queue := (Bytes.chars content.data.toList, true) :: m.queue }, .on)
    | .error _ => (m, .on)
  | writeFile name firstLine =>
    (m.toFile name (if firstLine then m.space.takeWhile (· != '\n') else m.space), .on)
  | replace p pieces manner =>
    match m.meant p with
    | (m, none) => (m, .on)
    | (m, some (r, _)) =>
      let found := r.matchesIn m.space
      match replaceFrom m.space pieces manner.everywhere manner.nth 1 0 found with
      | (_, false) => (m, .on)
      | (space, true) =>
        let m := { m with space, changed := true }
        let m := if manner.shown then m.putSpace else m
        (match manner.file with
          | some name => m.toFile name m.space
          | none => m, .on)
  | recode pairs =>
    ({ m with space := m.space.map fun c => (pairs.lookup c).getD c }, .on)
  | clear => ({ m with space := [] }, .on)

/-- The number of the step behind the end of a block. -/
def behindBlock : Nat → Nat → List Step → Nat
  | index, _, [] => index
  | index, depth, s :: rest =>
    match s.deed with
    | .block => behindBlock (index + 1) (depth + 1) rest
    | .close => if depth = 0 then index + 1 else behindBlock (index + 1) (depth - 1) rest
    | _ => behindBlock (index + 1) depth rest

/-- The number of the step with a label; without a name the end of the script. -/
def labelled (script : List Step) (name : String) : Option Nat :=
  if name.isEmpty then some script.length
  else script.findIdx? fun s => match s.deed with
    | .label other => other == name
    | _ => false

/-- Follows the steps from one of them on; `n` bounds how many. -/
def follow (settings : Settings) (script : List Step) : Nat → Nat → Machine → Machine × Flow
  | 0, _, m => (m, .quit 1 true)
  | n + 1, index, m =>
    match script[index]? with
    | none => (m, .over false)
    | some s =>
      let (m, chosen) := m.isChosen settings.separate index s.choice
      if chosen == s.choice.negated then
        match s.deed with
        | .block => follow settings script n (behindBlock (index + 1) 0 (script.drop (index + 1))) m
        | _ => follow settings script n (index + 1) m
      else
        let isRange := s.choice.stop.isSome && !s.choice.negated
        match s.deed.perform settings isRange (m.active.lookup index).isSome m with
        | (m, .on) => follow settings script n (index + 1) m
        | (m, .jump name) => follow settings script n ((labelled script name).getD script.length) m
        | (m, flow) => (m, flow)

/-- Works on line after line: what was written, and the status to end with; `n` bounds the number of
rounds, and `fresh` says that a round begins with a new line. -/
def rounds (settings : Settings) (script : List Step) : Nat → Bool → Machine → Machine × Option Nat
  | 0, _, m => (m, none)
  | n + 1, fresh, m =>
    let go (m : Machine) : Machine × Option Nat :=
      let own (silent : Bool) (m : Machine) : Machine :=
        (if silent || settings.quiet then m else m.putSpace).flush
      match follow settings script 1000000 0 m with
      | (m, .over silent) => rounds settings script n true (own silent m)
      | (m, .again) => rounds settings script n false m.flush
      | (m, .quit code silent) =>
        (if silent then m else own false m, some code)
      | (m, _) => rounds settings script n true (own false m)
    if fresh then
      match m.rest with
      | [] => (m, none)
      | line :: rest => go { m.advance line rest with space := line.text, changed := false }
    else go m

end LineEditor

end Fleet.Shell

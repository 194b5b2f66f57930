import Fleet.Shell.LineEditor.Script

namespace Fleet.Shell

/-! # Reading scripts of the line editor

A script is read character by character, and what is wrong with it is told with the number of
characters that have been read.
-/

namespace LineEditor

/-- A script that is being read, and how much of it has been. -/
structure Cursor where
  rest : List Char
  used : Nat := 0
  depth : Nat := 0

/-- Reads a script, or says what is wrong with it and where. -/
abbrev Reader := EStateM (Nat × String) Cursor

/-- Gives up on a script. -/
def refuse {α : Type} (text : String) : Reader α := fun s => .error (s.used, text) s

/-- The next character, which is not taken. -/
def peek : Reader (Option Char) := fun s => .ok s.rest.head? s

/-- Takes the next character. -/
def take : Reader (Option Char) := fun s =>
  match s.rest with
  | [] => .ok none s
  | c :: rest => .ok (some c) { s with rest, used := s.used + 1 }

/-- Takes as many characters as there are of a kind. -/
def takeWhile (f : Char → Bool) : Reader (List Char) := fun s =>
  let found := s.rest.takeWhile f
  .ok found { s with rest := s.rest.drop found.length, used := s.used + found.length }

def isBlank (c : Char) : Bool := c == ' ' || c == '\t'

/-- Passes blanks. -/
def skipBlanks : Reader Unit := do
  let _ ← takeWhile isBlank

/-- Reads a number, if there is one. -/
def number? : Reader (Option Nat) := do
  return Number.natural? (String.ofList (← takeWhile Char.isDigit))

/-- Where a text that ends with a separator stands. -/
inductive Purpose where
  | expression
  | replacement
  | characters
  deriving DecidableEq, Repr

/-- The rest of a set of an expression up to its `]`, if it ends in the line. -/
def restOfSet (cs : List Char) : Nat :=
  let lead := match cs with
    | '^' :: ']' :: _ => 2
    | '^' :: _ => 1
    | ']' :: _ => 1
    | _ => 0
  go (cs.length + 1) lead (cs.drop lead)
where
  /-- Counts on; inside a named class no bracket counts. -/
  go : Nat → Nat → List Char → Nat
    | 0, n, _ => n
    | _, n, [] => n
    | _, n, ']' :: _ => n + 1
    | k + 1, n, '[' :: ':' :: rest =>
      let inside := rest.takeWhile (· != ']')
      go k (n + 3 + inside.length) (rest.drop (inside.length + 1))
    | k + 1, n, _ :: rest => go k (n + 1) rest

/-- Reads up to a separator that no backslash stands before; nothing if there is none. -/
def upTo (purpose : Purpose) (separator : Char) : Nat → List Char → Reader (Option (List Char))
  | 0, _ => return none
  | n + 1, found => do
    match ← take with
    | none => return none
    | some c =>
      if c == separator then return some found.reverse
      else if c == '\n' && purpose != .replacement then return none
      else if c == '\\' then
        match ← take with
        | none => return none
        | some d =>
          if d == separator && !(purpose == .replacement && d == '&') then
            upTo purpose separator n (d :: found)
          else if d == '\n' && purpose == .expression then
            upTo purpose separator n ('\n' :: found)
          else upTo purpose separator n (d :: '\\' :: found)
      else if c == '[' && purpose == .expression then
        let s ← get
        let length := restOfSet s.rest
        set { s with rest := s.rest.drop length, used := s.used + length }
        upTo purpose separator n ((s.rest.take length).reverse ++ '[' :: found)
      else upTo purpose separator n (c :: found)

/-- The characters that a backslash and a letter name. -/
def named? (c : Char) : Option Char :=
  [('a', '\x07'), ('f', '\x0c'), ('n', '\n'), ('r', '\r'), ('t', '\t'), ('v', '\x0b')].lookup c

/-- An expression with the characters that are named in it; a letter that means something else in
expressions stays. -/
def withNamed : List Char → List Char
  | '\\' :: c :: rest =>
    match named? c with
    | some d => if c == 'n' then '\\' :: c :: withNamed rest else d :: withNamed rest
    | none => '\\' :: c :: withNamed rest
  | c :: rest => c :: withNamed rest
  | [] => []

/-- Reads an expression between separators. -/
def pattern (extended ignoreCase : Bool) (text : List Char) : Reader Pattern :=
  if text.isEmpty then return none
  else
    -- inside a set a backslash and `n` name the end of a line
    let text := setNames (withNamed text)
    match Expression.read { extended, ignoreCase } text with
    | .ok r => return some r
    | .error e => refuse e
where
  /-- Names inside sets. -/
  setNames (text : List Char) : List Char := go (text.length + 1) text
  /-- Goes through the text, sets apart. -/
  go : Nat → List Char → List Char
    | 0, cs => cs
    | _, [] => []
    | k + 1, '\\' :: c :: rest => '\\' :: c :: go k rest
    | k + 1, '[' :: rest =>
      let length := restOfSet rest
      '[' :: inSet (rest.take length) ++ go k (rest.drop length)
    | k + 1, c :: rest => c :: go k rest
  /-- A set with the names in it replaced. -/
  inSet : List Char → List Char
    | '\\' :: 'n' :: rest => '\n' :: inSet rest
    | c :: rest => c :: inSet rest
    | [] => []

/-- Reads what stands behind an address: whether the case of letters matters. -/
def addressFlags : Reader Bool := do
  let found ← takeWhile fun c => c == 'I' || c == 'M'
  return found.contains 'I'

/-- Reads an expression of an address up to its separator. -/
def addressPattern (extended : Bool) (separator : Char) : Reader Pattern := do
  match ← upTo .expression separator ((← get).rest.length + 1) [] with
  | none => refuse "unterminated address regex"
  | some text =>
    let ignoreCase ← addressFlags
    pattern extended ignoreCase text

/-- Reads the first address of a step. -/
def spot (extended : Bool) : Reader (Option Spot) := do
  match ← peek with
  | some '$' =>
    let _ ← take
    return some .last
  | some '/' =>
    let _ ← take
    return some (.like (← addressPattern extended '/'))
  | some '\\' =>
    let _ ← take
    match ← take with
    | some separator => return some (.like (← addressPattern extended separator))
    | none => refuse "unexpected `,'"
  | some c =>
    if c == '+' || c == '~' then
      let _ ← take
      let _ ← number?
      refuse "invalid usage of +N or ~N as first address"
    else
      match ← number? with
      | none => return none
      | some first =>
        skipBlanks
        if (← peek) == some '~' then
          let _ ← take
          return some (.every first ((← number?).getD 0))
        else return some (.line first)
  | none => return none

/-- Reads the second address of a step. -/
def bound (extended : Bool) : Reader Bound := do
  skipBlanks
  match ← peek with
  | some '$' =>
    let _ ← take
    return .last
  | some '/' =>
    let _ ← take
    return .like (← addressPattern extended '/')
  | some '\\' =>
    let _ ← take
    match ← take with
    | some separator => return .like (← addressPattern extended separator)
    | none => refuse "unexpected `,'"
  | some '+' =>
    let _ ← take
    return .more ((← number?).getD 0)
  | some '~' =>
    let _ ← take
    return .multiple ((← number?).getD 0)
  | _ =>
    match ← number? with
    | some n => return .line n
    | none =>
      let _ ← take
      refuse "unexpected `,'"

/-- Reads the end of a step. -/
def endOfStep : Reader Unit := do
  skipBlanks
  match ← peek with
  | none => return ()
  | some c =>
    if c == '\x7d' || c == '#' then return ()
    else
      let _ ← take
      if c == '\n' || c == ';' then return ()
      else refuse "extra characters after command"

/-- Reads a label. -/
def labelName : Reader String := do
  skipBlanks
  let name ← takeWhile fun c => !isBlank c && c != '\n' && c != ';' && c != '\x7d'
  return String.ofList name

/-- Reads the name of a file, up to the end of the line. -/
def fileName : Reader String := do
  skipBlanks
  let name ← takeWhile (· != '\n')
  if name.isEmpty then refuse "missing filename in r/R/w/W commands"
  else return String.ofList name

/-- Reads a text up to an end of line that no backslash stands before. -/
def textLines : Nat → List Char → Reader (List Char)
  | 0, found => return found.reverse
  | n + 1, found => do
    match ← take with
    | none => return ('\n' :: found).reverse
    | some '\n' => return ('\n' :: found).reverse
    | some '\\' =>
      match ← take with
      | none => return ('\n' :: found).reverse
      | some c => textLines n ((if c == 't' then '\t' else c) :: found)
    | some c => textLines n (c :: found)

/-- Reads the text of a step that adds one. -/
def addedText : Reader (List Char) := do
  skipBlanks
  match ← peek with
  | none => refuse "expected \\ after `a', `c' or `i'"
  | some '\\' =>
    let _ ← take
    let s ← get
    -- the text stands in the next line, or behind the backslash
    let blanks := s.rest.takeWhile isBlank
    match s.rest.drop blanks.length with
    | '\n' :: rest =>
      set { s with rest, used := s.used + blanks.length + 1 }
      if rest.isEmpty then refuse "expected \\ after `a', `c' or `i'"
      else textLines (rest.length + 1) []
    | [] => refuse "expected \\ after `a', `c' or `i'"
    | _ => textLines (s.rest.length + 1) []
  | some _ => textLines ((← get).rest.length + 1) []

/-- Reads the pieces of a replacement; `n` bounds their number. -/
def pieces : Nat → List Char → List Piece
  | 0, _ => []
  | _, [] => []
  | n + 1, '&' :: rest => .group 0 :: pieces n rest
  | n + 1, '\\' :: c :: rest =>
    (if c.isDigit then Piece.group (c.toNat - '0'.toNat)
      else match c with
      | 'U' => .casing .upper
      | 'L' => .casing .lower
      | 'E' => .casing .none
      | 'u' => .next .upper
      | 'l' => .next .lower
      | _ => .text [(named? c).getD c]) :: pieces n rest
  | n + 1, c :: rest => .text [c] :: pieces n rest

/-- The largest number of a group in a replacement. -/
def largestGroup (ps : List Piece) : Nat :=
  ps.foldl (fun most p => match p with
    | .group n => max most n
    | _ => most) 0

/-- Reads how a replacement is done. -/
def manner : Nat → Manner → Reader Manner
  | 0, m => return m
  | n + 1, m => do
    match ← peek with
    | none => return m
    | some c =>
      if c.isDigit then
        if m.numbered then
          let _ ← take
          refuse "multiple number options to `s' command"
        else
          let count := (← number?).getD 0
          if count = 0 then refuse "number option to `s' command may not be zero"
          else manner n { m with nth := count, numbered := true }
      else if c == '\x7d' || c == '#' then return m
      else
        let _ ← take
        match c with
        | 'g' =>
          if m.everywhere then refuse "multiple `g' options to `s' command"
          else manner n { m with everywhere := true }
        | 'p' =>
          if m.shown then refuse "multiple `p' options to `s' command"
          else manner n { m with shown := true }
        | 'i' | 'I' => manner n { m with ignoreCase := true }
        | 'm' | 'M' => manner n m
        | 'w' => return { m with file := some (← fileName) }
        | '\n' | ';' => return m
        | ' ' | '\t' =>
          endOfStep
          return m
        | _ => refuse "unknown option to `s'"

/-- Reads a replacement. -/
def replacement (extended : Bool) : Reader Deed := do
  match ← take with
  | none => refuse "unterminated `s' command"
  | some separator =>
    let length := (← get).rest.length + 1
    match ← upTo .expression separator length [] with
    | none => refuse "unterminated `s' command"
    | some text =>
      match ← upTo .replacement separator length [] with
      | none => refuse "unterminated `s' command"
      | some new =>
        let m ← manner length {}
        let p ← pattern extended m.ignoreCase text
        let ps := pieces (new.length + 1) new
        let groups := match p with
          | some (_, groups) => groups
          | none => 9
        if groups < largestGroup ps then
          refuse ("invalid reference \\" ++ toString (largestGroup ps) ++ " on `s' command's RHS")
        else return .replace p ps m

/-- The characters of a list for a recoding. -/
def listed : List Char → List Char
  | '\\' :: 'n' :: rest => '\n' :: listed rest
  | '\\' :: 't' :: rest => '\t' :: listed rest
  | '\\' :: '\\' :: rest => '\\' :: listed rest
  | c :: rest => c :: listed rest
  | [] => []

/-- Reads a recoding. -/
def recoding : Reader Deed := do
  match ← take with
  | none => refuse "unterminated `y' command"
  | some separator =>
    let length := (← get).rest.length + 1
    match ← upTo .characters separator length [] with
    | none => refuse "unterminated `y' command"
    | some source =>
      match ← upTo .characters separator length [] with
      | none => refuse "unterminated `y' command"
      | some target =>
        let source := listed source
        let target := listed target
        if source.length != target.length then
          refuse "strings for `y' command are different lengths"
        else
          endOfStep
          return .recode (source.zip target)

/-- Reads what a step does, behind its letter. -/
def deed (extended : Bool) (choice : Choice) (c : Char) : Reader Deed := do
  let simple (d : Deed) : Reader Deed := do
    endOfStep
    return d
  match c with
  | '\x7b' =>
    modify fun s => { s with depth := s.depth + 1 }
    return .block
  | '\x7d' =>
    if (← get).depth = 0 then refuse "unexpected `\x7d'"
    else if choice.start.isSome then refuse "\x7d doesn't want any addresses"
    else
      modify fun s => { s with depth := s.depth - 1 }
      simple .close
  | ':' =>
    if choice.start.isSome then refuse ": doesn't want any addresses"
    else
      let name ← labelName
      if name.isEmpty then refuse "\":\" lacks a label" else simple (.label name)
  | 'b' => simple (.branch (← labelName))
  | 't' => simple (.branchIf true (← labelName))
  | 'T' => simple (.branchIf false (← labelName))
  | 'a' => return .append (← addedText)
  | 'i' => return .insert (← addedText)
  | 'c' => return .change (← addedText)
  | 'd' => simple .delete
  | 'D' => simple .deleteLine
  | 'g' => simple (.get false)
  | 'G' => simple (.get true)
  | 'h' => simple (.hold false)
  | 'H' => simple (.hold true)
  | 'x' => simple .exchange
  | 'l' =>
    skipBlanks
    simple (.listing (← number?))
  | 'n' => simple .next
  | 'N' => simple .join
  | 'p' => simple .print
  | 'P' => simple .printLine
  | '=' => simple .number
  | 'F' => simple .fileName
  | 'z' => simple .clear
  | 'q' =>
    skipBlanks
    simple (.quit ((← number?).getD 0) false)
  | 'Q' =>
    skipBlanks
    simple (.quit ((← number?).getD 0) true)
  | 'r' => return .readFile (← fileName)
  | 'w' => return .writeFile (← fileName) false
  | 'W' => return .writeFile (← fileName) true
  | 's' => replacement extended
  | 'y' => recoding
  | _ => refuse ("unknown command: `" ++ c.toString ++ "'")

/-- Reads the mark that turns a choice round. -/
def negation : Nat → Bool → Reader Bool
  | 0, found => return found
  | n + 1, found => do
    skipBlanks
    if (← peek) == some '!' then
      let _ ← take
      if found then refuse "multiple `!'s" else negation n true
    else return found

/-- Reads the steps of a script; `n` bounds their number. -/
def steps (extended : Bool) : Nat → Reader (List Step)
  | 0 => return []
  | n + 1 => do
    let _ ← takeWhile fun c => Number.isBlank c || c == ';'
    match ← peek with
    | none => return []
    | some '#' =>
      let _ ← takeWhile (· != '\n')
      steps extended n
    | some _ =>
      let start ← spot extended
      skipBlanks
      let stop ← if start.isSome && (← peek) == some ',' then do
          let _ ← take
          pure (some (← bound extended))
        else pure none
      let negated ← negation 2 false
      match ← take with
      | none => refuse "missing command"
      | some c =>
        match start, stop with
        | some (.line 0), some (.like _) => pure ()
        | some (.line 0), _ => refuse "invalid usage of line address 0"
        | _, _ => pure ()
        let choice : Choice := { start, stop, negated }
        let d ← deed extended choice c
        let others ← steps extended n
        return ⟨choice, d⟩ :: others

/-- Reads a script. -/
def read (extended : Bool) (text : List Char) : Except String (List Step) :=
  match (steps extended (text.length + 2)).run { rest := text } with
  | .ok found s =>
    if s.depth = 0 then .ok found
    else .error "-e expression #1, char 0: unmatched `\x7b'"
  | .error (used, e) _ => .error ("-e expression #1, char " ++ toString used ++ ": " ++ e)

end LineEditor

end Fleet.Shell

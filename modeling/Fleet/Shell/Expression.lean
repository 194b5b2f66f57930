import Fleet.Shell.Number
import Fleet.Shell.Pattern
import Fleet.Text.Regex

namespace Fleet.Shell

/-! # Regular expressions

The expressions that line searches and line editors take, in their basic and in their extended
form.  In the basic form a backslash gives parentheses, braces, `|`, `+` and `?` their meaning, in
the extended form it takes it away.
-/

namespace Expression

/-- How expressions are written. -/
structure Dialect where
  extended : Bool := false
  ignoreCase : Bool := false
  /-- signs that have nothing to repeat, and braces and parentheses without a partner, are no
  mistakes -/
  lenient : Bool := false

/-- An expression that is being read. -/
structure Cursor where
  rest : List Char
  /-- how many groups have begun -/
  groups : Nat := 0
  /-- the groups that have ended -/
  finished : List Nat := []

/-- Reads an expression, or says what is wrong with it. -/
abbrev Reader := EStateM String Cursor

/-- A sign of an expression. -/
inductive Sign where
  | finished
  | char (c : Char)
  | anyOne
  | set
  | opened
  | closed
  | bar
  | star
  | plus
  | optional
  | interval
  | lineStart
  | lineEnd
  | again (n : Nat)
  | class (accepts : Char → Bool)
  | place (holds : Option Char → Option Char → Bool)
  | backslash

/-- A character that words consist of. -/
def isWordChar (c : Char) : Bool := c.isAlphanum || c == '_'

/-- A character of a word, if there is a character. -/
def isInWord (c : Option Char) : Bool := c.any isWordChar

/-- The text begins here. -/
def atStart (before _ : Option Char) : Bool := before.isNone

/-- The text ends here. -/
def atEnd (_ after : Option Char) : Bool := after.isNone

/-- What a backslash and a character mean in both forms. -/
def escaped? (c : Char) : Option Sign :=
  match c with
  | 'w' => some (.class isWordChar)
  | 'W' => some (.class fun c => !isWordChar c)
  | 's' => some (.class Number.isBlank)
  | 'S' => some (.class fun c => !Number.isBlank c)
  | 'b' => some (.place fun before after => isInWord before != isInWord after)
  | 'B' => some (.place fun before after => isInWord before == isInWord after)
  | '<' => some (.place fun before after => !isInWord before && isInWord after)
  | '>' => some (.place fun before after => isInWord before && !isInWord after)
  | '\x60' => some (.place atStart)
  | '\'' => some (.place atEnd)
  | 'n' => some (.char '\n')
  | _ => if '1' ≤ c && c ≤ '9' then some (.again (c.toNat - '0'.toNat)) else none

/-- The signs that a backslash gives their meaning or takes it from. -/
def sign? (c : Char) : Option Sign :=
  match c with
  | '(' => some .opened
  | ')' => some .closed
  | '|' => some .bar
  | '+' => some .plus
  | '?' => some .optional
  | '\x7b' => some .interval
  | _ => none

/-- The first sign of a text, and what stands behind it.  `first` says that an expression or a part
of one begins here, where the basic form has no star. -/
def sign (d : Dialect) (first : Bool) (cs : List Char) : Sign × List Char :=
  match cs with
  | [] => (.finished, [])
  | '\\' :: [] => (.backslash, [])
  | '\\' :: c :: rest =>
    match escaped? c with
    | some s => (s, rest)
    | none =>
      match sign? c with
      | some s => if d.extended then (.char c, rest) else (s, rest)
      | none => (.char c, rest)
  | '.' :: rest => (.anyOne, rest)
  | '[' :: rest => (.set, rest)
  | '*' :: rest => if !d.extended && first then (.char '*', rest) else (.star, rest)
  | '^' :: rest => if d.extended || first then (.lineStart, rest) else (.char '^', rest)
  | '$' :: rest =>
    let ends : Bool := match rest with
      | [] => true
      | '\\' :: ')' :: _ => true
      | '\\' :: '|' :: _ => true
      | _ => false
    if d.extended || ends then (.lineEnd, rest) else (.char '$', rest)
  | c :: rest =>
    match sign? c with
    | some s => if d.extended then (s, rest) else (.char c, rest)
    | none => (.char c, rest)

/-- Gives up on an expression. -/
def refuse {α : Type} (text : String) : Reader α := throw text

/-- The next sign, which is not taken. -/
def peek (d : Dialect) (first : Bool) : Reader (Sign × List Char) := do
  return sign d first (← get).rest

/-- Goes on behind what has been read. -/
def moveTo (rest : List Char) : Reader Unit := modify fun s => { s with rest }

/-- One character. -/
def one (d : Dialect) (c : Char) : Text.Regex :=
  if d.ignoreCase && c.isAlpha then .one fun x => x.toLower == c.toLower else .one (· == c)

/-- One character of some ranges. -/
def oneOf (d : Dialect) (ranges : List (Char × Char)) (complement : Bool) : Text.Regex :=
  let accepts (c : Char) : Bool :=
    Glob.inRanges ranges c ||
      (d.ignoreCase && (Glob.inRanges ranges c.toLower || Glob.inRanges ranges c.toUpper))
  .one fun c => accepts c != complement

/-- Reads the members of a set up to its `]`. -/
def members : Nat → Bool → List (Char × Char) → List Char →
    Except String (List (Char × Char) × List Char)
  | 0, _, _, _ => .error "Unmatched [, [^, [:, [., or [="
  | _, _, _, [] => .error "Unmatched [, [^, [:, [., or [="
  | n + 1, first, found, c :: rest =>
    if c == ']' && !first then .ok (found, rest)
    else
      let range (low : Char) (rest : List Char) :
          Except String (List (Char × Char) × List Char) :=
        match rest with
        | '-' :: ']' :: _ => members n false ((low, low) :: found) rest
        | '-' :: '[' :: '.' :: high :: '.' :: ']' :: rest =>
          if high < low then .error "Invalid range end"
          else members n false ((low, high) :: found) rest
        | '-' :: high :: rest =>
          if high < low then .error "Invalid range end"
          else members n false ((low, high) :: found) rest
        | _ => members n false ((low, low) :: found) rest
      match c, rest with
      | '[', ':' :: more =>
        let name := more.takeWhile fun c => c != ':' && c != ']'
        match more.drop name.length with
        | ':' :: ']' :: rest =>
          match Glob.classRanges? (String.ofList name) with
          | some ranges => members n false (ranges ++ found) rest
          | none => .error "Invalid character class name"
        | _ => range '[' rest
      | '[', '.' :: x :: '.' :: ']' :: rest => range x rest
      | '[', '=' :: x :: '=' :: ']' :: rest => members n false ((x, x) :: found) rest
      | _, _ => range c rest

/-- Reads a set behind its `[`. -/
def set (d : Dialect) (cs : List Char) : Except String (Text.Regex × List Char) := do
  let (complement, body) := match cs with
    | '^' :: body => (true, body)
    | body => (false, body)
  if body.isEmpty then throw "Invalid regular expression"
  else
    let (ranges, rest) ← members (body.length + 1) true [] body
    return (oneOf d ranges complement, rest)

/-- Reads the bounds of a repetition up to the closing brace. -/
def bounds (d : Dialect) (cs : List Char) : Except String (Nat × Option Nat × List Char) := do
  let closing : List Char := if d.extended then ['\x7d'] else ['\\', '\x7d']
  let number (cs : List Char) : Option Nat × List Char :=
    let digits := cs.takeWhile Char.isDigit
    (Number.natural? (String.ofList digits), cs.drop digits.length)
  let (least, rest) := number cs
  let (most, rest) : Option Nat × List Char := match rest with
    | ',' :: rest => number rest
    | rest => (least, rest)
  let isOne := (cs.head?.any fun c => c.isDigit || c == ',')
  if !isOne then
    throw (if cs.isEmpty then "Unmatched \\\x7b" else "Invalid content of \\\x7b\\\x7d")
  else if closing.isPrefixOf rest then
    if most.any fun m => m < least.getD 0 then throw "Invalid content of \\\x7b\\\x7d"
    else if 32767 < max (least.getD 0) (most.getD 0) then throw "Regular expression too big"
    else return (least.getD 0, most, rest.drop closing.length)
  else if rest.isEmpty then throw "Unmatched \\\x7b"
  else throw "Invalid content of \\\x7b\\\x7d"

mutual

/-- Reads parts joined by `|`; `depth` parentheses are open. -/
def alternatives (d : Dialect) : Nat → Nat → Reader Text.Regex
  | 0, _ => refuse "Regular expression too big"
  | n + 1, depth => do
    let first ← sequence d n depth true .empty
    match ← peek d false with
    | (.bar, rest) =>
      moveTo rest
      let second ← alternatives d n depth
      return .alt first second
    | _ => return first

/-- Reads parts that stand one behind the other. -/
def sequence (d : Dialect) : Nat → Nat → Bool → Text.Regex → Reader Text.Regex
  | 0, _, _, _ => refuse "Regular expression too big"
  | n + 1, depth, first, before => do
    let (s, rest) ← peek d first
    match s with
    | .finished | .bar => return before
    | .closed =>
      if depth = 0 then
        if d.lenient && d.extended then
          moveTo rest
          let part ← repetitions d n (one d ')') false
          sequence d n depth false (.cat before part)
        else refuse "Unmatched ) or \\)"
      else return before
    | .lineStart =>
      moveTo rest
      sequence d n depth true (.cat before (.look atStart))
    | .star | .plus | .optional | .interval =>
      if !first then
        -- a repetition of what is no part by itself
        let part ← part d n depth
        sequence d n depth false (.cat before part)
      else if d.lenient then
        match s with
        | .interval =>
          match bounds d rest with
          | .ok (_, _, rest) =>
            moveTo rest
            sequence d n depth first before
          | .error _ =>
            moveTo rest
            sequence d n depth false (.cat before (one d '\x7b'))
        | _ =>
          moveTo rest
          sequence d n depth first before
      else refuse "Invalid preceding regular expression"
    | _ =>
      let part ← part d n depth
      sequence d n depth false (.cat before part)

/-- Reads one part with what repeats it. -/
def part (d : Dialect) : Nat → Nat → Reader Text.Regex
  | 0, _ => refuse "Regular expression too big"
  | n + 1, depth => do
    let (s, rest) ← peek d false
    moveTo rest
    match s with
    | .char c => repetitions d n (one d c) false
    | .anyOne => repetitions d n (.one fun _ => true) false
    | .class accepts => repetitions d n (.one accepts) false
    | .place holds => repetitions d n (.look holds) false
    | .lineEnd => repetitions d n (.look atEnd) false
    | .set =>
      match set d rest with
      | .ok (r, rest) =>
        moveTo rest
        repetitions d n r false
      | .error text => refuse text
    | .opened =>
      let number := (← get).groups + 1
      modify fun s => { s with groups := number }
      let inner ← alternatives d n (depth + 1)
      match ← peek d false with
      | (.closed, rest) =>
        modify fun s => { s with rest, finished := number :: s.finished }
        repetitions d n (.group number inner) false
      | _ => refuse "Unmatched ( or \\("
    | .again k =>
      if (← get).finished.contains k then repetitions d n (.again k) false
      else refuse "Invalid back reference"
    | .backslash => refuse "Trailing backslash"
    | _ => return .empty

/-- Reads what repeats a part; `again` if it is repeated already. -/
def repetitions (d : Dialect) : Nat → Text.Regex → Bool → Reader Text.Regex
  | 0, _, _ => refuse "Regular expression too big"
  | n + 1, r, again => do
    let (s, rest) ← peek d false
    let go (least : Nat) (most : Option Nat) (rest : List Char) : Reader Text.Regex := do
      moveTo rest
      repetitions d n (.repeated r least most) true
    match s with
    | .star =>
      if again && !d.extended && !d.lenient then refuse "Invalid preceding regular expression"
      else go 0 none rest
    | .plus => go 1 none rest
    | .optional => go 0 (some 1) rest
    | .interval =>
      match bounds d rest with
      | .ok (least, most, rest) => go least most rest
      | .error text =>
        if d.lenient && d.extended && !(rest.any (· == '\x7d')) then
          moveTo rest
          let brace ← repetitions d n (one d '\x7b') false
          return .cat r brace
        else refuse text
    | _ => return r

end

/-- Reads an expression, and says how many groups it has. -/
def read (d : Dialect) (text : List Char) : Except String (Text.Regex × Nat) :=
  match (alternatives d (8 * text.length + 16) 0).run { rest := text } with
  | .ok r s => if s.rest.isEmpty then .ok (r, s.groups) else .error "Unmatched ) or \\)"
  | .error text _ => .error text

/-- The expression that matches a text as it stands. -/
def literal (d : Dialect) (text : List Char) : Text.Regex := Text.Regex.ofList (text.map (one d))

end Expression

end Fleet.Shell

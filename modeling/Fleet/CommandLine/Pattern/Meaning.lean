import Fleet.CommandLine.Pattern.Reading
import Fleet.CommandLine.Pattern.Size

namespace Fleet.CommandLine.Pattern

/-! # What a pattern means

A pattern is read as a description of texts.  Flags hold from where they stand to the end of their
group.  With the flag for Unicode a pattern is about the characters of all scripts, of which neither
the kinds nor the cases are known here: a pattern that asks for them is refused.  Without it a
pattern is about bytes, and is refused if it could match a byte that is no character by itself.
-/

open Text (CharSet)

/-- The flags that hold at a part of a pattern. -/
structure Mode where
  ignoreCase : Bool := false
  manyLines : Bool := false
  dotMatchesAll : Bool := false
  unicode : Bool := true
  crlf : Bool := false
  deriving DecidableEq, Repr

/-- Sets a flag. -/
def Mode.set (m : Mode) : Flag × Bool → Mode
  | (.ignoreCase, b) => { m with ignoreCase := b }
  | (.manyLines, b) => { m with manyLines := b }
  | (.dotMatchesAll, b) => { m with dotMatchesAll := b }
  | (.unicode, b) => { m with unicode := b }
  | (.crlf, b) => { m with crlf := b }
  | (.swapGreed, _) | (.spaced, _) => m

/-- The characters of a set. -/
structure Members where
  chars : CharSet
  /-- every character is in the set together with its other cases -/
  folded : Bool := false

namespace Members

/-- No characters. -/
def none : Members := ⟨.none, true⟩

/-- The members of two sets. -/
def union (a b : Members) : Members :=
  if b.chars.isEmpty || a.chars = b.chars then a
  else ⟨a.chars.union b.chars, a.folded && b.folded⟩

/-- The members of a set that are also in another, or are not. -/
def choose (isKept : Bool) (a b : Members) : Members :=
  if a.chars.isEmpty then a
  else if b.chars.isEmpty then if isKept then none else a
  else ⟨if isKept then a.chars.inter b.chars else a.chars.diff b.chars, a.folded && b.folded⟩

/-- Two sets as one. -/
def combine : SetOperator → Members → Members → Members
  | .intersection, a, b => a.choose true b
  | .difference, a, b => a.choose false b
  | .symmetricDifference, a, b => (a.union b).choose false (a.choose true b)

end Members

/-! ## Sets with names -/

/-- A text with the ends of ranges, as ranges. -/
def rangesOf : List Char → CharSet
  | a :: b :: rest => (CharSet.range a b).union (rangesOf rest)
  | _ => .none

/-- The members of a set with a name between colons. -/
def asciiMembers (name : String) : CharSet :=
  let ends := match name with
    | "alnum" => "09AZaz"
    | "alpha" => "AZaz"
    | "ascii" => "\x00\x7f"
    | "blank" => "\t\t  "
    | "cntrl" => "\x00\x1f\x7f\x7f"
    | "digit" => "09"
    | "graph" => "!~"
    | "lower" => "az"
    | "print" => " ~"
    | "punct" => "!/:@[`\x7b~"
    | "space" => "\t\r  "
    | "upper" => "AZ"
    | "word" => "09AZ__az"
    | "xdigit" => "09AFaf"
    | _ => ""
  rangesOf ends.toList

/-- The members of a set with a short name. -/
def Shorthand.members : Shorthand → CharSet
  | digit => asciiMembers "digit"
  | space => asciiMembers "space"
  | word => asciiMembers "word"

/-! ## Properties -/

/-- A name as it is compared: without case, blanks, hyphens, underscores and `is` in front. -/
def plainName (name : String) : String :=
  let cs := name.toList
  let body := match cs with
    | i :: s :: rest => if i.toLower == 'i' && s.toLower == 's' then rest else cs
    | _ => cs
  let letters := (body.filter fun c =>
    c.toNat < 0x80 && c != ' ' && c != '_' && c != '-').map Char.toLower
  if body.length < cs.length && letters == ['c'] then "isc" else String.ofList letters

/-- What is said about a property, of which none is known.  Three names are taken for values. -/
def Property.flaw : Property → Flaw
  | named name => if ["cf", "sc", "lc"].contains (plainName name) then .unknownValue
    else .unknownProperty
  | valued _ _ _ => .unknownProperty

/-! ## Sets -/

/-- The members of a set in all their cases.  Only those of ASCII are known. -/
def Mode.fold (m : Mode) (span : Span) (s : Members) : Except Finding Members :=
  if !m.ignoreCase then .ok s
  else if m.unicode then
    if s.chars.isEmpty || s.folded then .ok { s with folded := true }
    else .error ⟨.noCases, span, none⟩
  else .ok ⟨s.chars.union s.chars.otherCase, true⟩

/-- What is in a set, or is not.  Without Unicode a set must not hold a byte that is no character by
itself. -/
def Mode.negate (m : Mode) (span : Span) (negated : Bool) (s : Members) :
    Except Finding Members :=
  let all := if m.unicode then CharSet.all else CharSet.bytes
  let result : Members :=
    if negated then ⟨all.diff s.chars, s.folded || s.chars.isEmpty⟩ else s
  if m.unicode || result.chars.isAscii then .ok result else .error ⟨.notUtf8, span, none⟩

/-- What is in a set in all its cases, or is not. -/
def Mode.foldAndNegate (m : Mode) (span : Span) (negated : Bool) (s : Members) :
    Except Finding Members := do
  m.negate span negated (← m.fold span s)

/-- A character, unless without Unicode it is no byte, or a byte that is no character by itself. -/
def Mode.byte (m : Mode) (l : Literal) : Except Finding Char :=
  if m.unicode || l.char.toNat < 0x80 then .ok l.char
  else .error ⟨if l.byte then .notUtf8 else .noUnicode, l.span, none⟩

/-- The members of a set with a short name. -/
def Mode.shorthand (m : Mode) (span : Span) (negated : Bool) (s : Shorthand) :
    Except Finding Members :=
  if m.unicode then .error ⟨.noClasses, span, none⟩ else m.negate span negated ⟨s.members, false⟩

/-- The members of a set by a property. -/
def Mode.property (m : Mode) (span : Span) (p : Property) : Except Finding Members :=
  .error ⟨if m.unicode then p.flaw else .noUnicode, span, none⟩

mutual

/-- The members of a set between brackets. -/
def SetNode.members (m : Mode) : SetNode → Except Finding Members
  | empty _ => .ok .none
  | literal l => return ⟨.single (← m.byte l), false⟩
  | range _ low high => return ⟨.range (← m.byte low) (← m.byte high), false⟩
  | ascii span negated name => m.foldAndNegate span negated ⟨asciiMembers name, false⟩
  | property span _ p => m.property span p
  | shorthand span negated s => m.shorthand span negated s
  | bracketed span negated body => do m.foldAndNegate span negated (← body.members m)
  | union _ items => SetNode.anyMembers m .none items
  | operation _ operator left right => do
    let a ← left.members m
    let b ← right.members m
    let b ← m.fold right.span b
    let a ← m.fold left.span a
    return .combine operator a b

/-- The members of several sets, and those that are known already. -/
def SetNode.anyMembers (m : Mode) (known : Members) : List SetNode → Except Finding Members
  | [] => .ok known
  | s :: rest => do SetNode.anyMembers m (known.union (← s.members m)) rest

end

/-! ## Patterns -/

/-- A character of a word stands at a side of a place. -/
def isWord (c : Option Char) : Bool := c.any Shorthand.word.members.contains

/-- What an assertion asks of a place. -/
def Assertion.look (m : Mode) (a : Assertion) : Look :=
  let words (holds : Bool → Bool → Bool) : Look :=
    if m.unicode then .unknown
    else .around fun before behind => holds (isWord before) (isWord behind)
  match a with
  | textStart => .textStart
  | textEnd => .textEnd
  | lineStart =>
    if !m.manyLines then .textStart
    else .around fun before behind =>
      before.isNone || before == some '\n' ||
        (m.crlf && before == some '\r' && behind != some '\n')
  | lineEnd =>
    if !m.manyLines then .textEnd
    else .around fun before behind =>
      behind.isNone || if m.crlf then
        behind == some '\r' || (behind == some '\n' && before != some '\r')
      else behind == some '\n'
  | wordBoundary => words fun before behind => before != behind
  | noWordBoundary => words fun before behind => before == behind
  | wordStart => words fun before behind => !before && behind
  | wordEnd => words fun before behind => before && !behind
  | wordStartHalf => words fun before _ => !before
  | wordEndHalf => words fun _ behind => !behind

/-- One character. -/
def Literal.expression (m : Mode) (l : Literal) : Except Finding Expression := do
  if !m.unicode && l.byte && 0x80 ≤ l.char.toNat then .error ⟨.notUtf8, l.span, none⟩
  else return .one (← m.fold l.span ⟨.single l.char, false⟩).chars

/-- What a dot stands for. -/
def dotExpression (m : Mode) (span : Span) : Except Finding Expression :=
  if !m.unicode then .error ⟨.notUtf8, span, none⟩
  else
    let ends := if m.dotMatchesAll then CharSet.none
      else if m.crlf then (CharSet.single '\n').union (.single '\r')
      else .single '\n'
    .ok (.one (CharSet.all.diff ends))

mutual

/-- What a pattern means, and the flags that hold behind it. -/
def Node.expression (m : Mode) : Node → Except Finding (Expression × Mode)
  | empty _ => .ok (.empty, m)
  | flags _ given => .ok (.empty, given.foldl Mode.set m)
  | literal l => return (← l.expression m, m)
  | dot span => return (← dotExpression m span, m)
  | assertion _ a => .ok (.look (a.look m), m)
  | property span _ p => return (.one (← m.property span p).chars, m)
  | shorthand span negated s => return (.one (← m.shorthand span negated s).chars, m)
  | set span negated body => do
    return (.one (← m.foldAndNegate span negated (← body.members m)).chars, m)
  | repetition _ least most body => do
    let (e, m) ← body.expression m
    return (.often e least most, m)
  | group _ captures given body => do
    let (e, _) ← body.expression (given.foldl Mode.set m)
    return (if captures then .group e else e, m)
  | alternation _ branches => do
    let (es, m) ← Node.expressions m branches
    return (.choice es, m)
  | concat _ items => do
    let (es, m) ← Node.expressions m items
    return (.concat es, m)

/-- What patterns mean one after the other. -/
def Node.expressions (m : Mode) : List Node → Except Finding (List Expression × Mode)
  | [] => .ok ([], m)
  | n :: rest => do
    let (e, m) ← n.expression m
    let (es, m) ← Node.expressions m rest
    return (e :: es, m)

end

/-- What is said about a pattern that takes too much. -/
def tooLarge : String :=
  "Compiled regex exceeds size limit of " ++ toString maxSize ++ " bytes."

/-- Reads a pattern.  Gives what is said about it if it cannot be used. -/
def read (pattern : String) : Except String Expression :=
  match (do return (← (← Node.read pattern).expression {}).1 : Except Finding Expression) with
  | .error finding => .error (finding.text pattern)
  | .ok e =>
    if Machine.isTooLarge ⟨false⟩ e then .error tooLarge
    else if e.asksUnknown then .error "error building NFA"
    else if Machine.isTooLarge ⟨true⟩ e then .error tooLarge
    else .ok e

end Fleet.CommandLine.Pattern

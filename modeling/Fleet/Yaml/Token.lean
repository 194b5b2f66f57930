import Fleet.Text.Utf8
import Fleet.Yaml.Scalar

namespace Fleet.Yaml

/-! # Tokens

A document as a list of tokens.  Whether a word is a key shows only at the `:` behind it, so a
token is given out only when it is settled that no key begins in front of it: tokens wait in
`Lexer.waiting` while the oldest of them may still turn out to be (the beginning of) a key.

`tokens` gives all tokens up to the first flaw, and that flaw.
-/

/-- How a scalar is written. -/
inductive Style where
  | plain
  | singleQuoted
  | doubleQuoted
  | literal
  | folded
  deriving DecidableEq, Repr

/-- What a token says. -/
inductive TokenKind where
  | versionDirective (major minor : Nat)
  | tagDirective (handle value : String)
  | documentStart
  | documentEnd
  | streamEnd
  | blockSequenceStart
  | blockMappingStart
  | blockEnd
  | flowSequenceStart
  | flowSequenceEnd
  | flowMappingStart
  | flowMappingEnd
  | blockEntry
  | flowEntry
  | key
  | value
  | alias (name : String)
  | anchor (name : String)
  | tag (handle suffix : String)
  | scalar (text : String) (style : Style)
  deriving DecidableEq, Repr

/-- A piece of a document: what it says, where it begins and where it ends. -/
structure Token where
  kind : TokenKind
  start : Mark
  stop : Mark
  deriving DecidableEq, Repr

/-- A place where a key may have begun. -/
structure PossibleKey where
  /-- nothing but a key can stand there -/
  required : Bool
  /-- the number of the token that begins there -/
  number : Nat
  mark : Mark

/-- A document being cut into tokens. -/
structure Lexer where
  cursor : Cursor
  /-- the column of the innermost block collection, -1 outside of all -/
  indent : Int := -1
  /-- the columns of the block collections around it -/
  indents : List Int := []
  /-- where a key of the innermost collection may have begun -/
  possibleKey : Option PossibleKey := none
  /-- the same for each collection around the innermost flow collection -/
  outerKeys : List (Option PossibleKey) := []
  /-- a key may begin here -/
  keyAllowed : Bool := true
  /-- tokens that are not given out yet -/
  waiting : List Token := []
  /-- how many tokens were given out -/
  given : Nat := 0
  /-- the end of the document was reached -/
  ended : Bool := false

namespace Lexer

def inFlow (s : Lexer) : Bool := !s.outerKeys.isEmpty

def mark (s : Lexer) : Mark := s.cursor.mark

def column (s : Lexer) : Int := s.cursor.mark.column

/-- Adds a token that begins and ends where it is told. -/
def emit (s : Lexer) (kind : TokenKind) (start stop : Mark) : Lexer :=
  { s with waiting := s.waiting ++ [⟨kind, start, stop⟩] }

/-- Adds a token without a width, in front of the token of the given number. -/
def insertBefore (s : Lexer) (number : Nat) (kind : TokenKind) (mark : Mark) : Lexer :=
  let (front, back) := s.waiting.splitAt (number - s.given)
  { s with waiting := front ++ ⟨kind, mark, mark⟩ :: back }

/-- The number that the next token will have. -/
def nextNumber (s : Lexer) : Nat := s.given + s.waiting.length

/-! ## Keys -/

/-- A possible key is over once its line is, or 1024 bytes on. -/
def isStale (s : Lexer) (key : PossibleKey) : Bool :=
  key.mark.line < s.mark.line || key.mark.index + 1024 < s.mark.index

/-- Gives up a possible key that is over; a required one must not be. -/
def refreshKey (s : Lexer) : Option PossibleKey → Except Flaw (Option PossibleKey)
  | none => .ok none
  | some key =>
    if s.isStale key then if key.required then .error .missingColon else .ok none
    else .ok (some key)

/-- Gives up every possible key that is over. -/
def refreshKeys (s : Lexer) : Except Flaw Lexer := do
  let outerKeys ← s.outerKeys.mapM s.refreshKey
  let possibleKey ← s.refreshKey s.possibleKey
  return { s with outerKeys, possibleKey }

/-- Gives up the possible key of the innermost collection. -/
def dropKey (s : Lexer) : Except Flaw Lexer :=
  match s.possibleKey with
  | some ⟨true, _, _⟩ => .error .missingColon
  | _ => .ok { s with possibleKey := none }

/-- Notes that a key may begin here. -/
def noteKey (s : Lexer) : Except Flaw Lexer := do
  if s.keyAllowed then
    let key : PossibleKey := ⟨!s.inFlow && s.indent == s.column, s.nextNumber, s.mark⟩
    return { (← s.dropKey) with possibleKey := some key }
  else return s

/-! ## Block collections -/

/-- Opens a block collection at a column deeper than the innermost one; its token comes in front of
the token of the given number, or last. -/
def openBlock (s : Lexer) (column : Int) (number : Option Nat) (kind : TokenKind) (mark : Mark) :
    Lexer :=
  if s.inFlow || column ≤ s.indent then s
  else
    let s := { s with indent := column, indents := s.indent :: s.indents }
    match number with
    | none => s.emit kind mark mark
    | some n => s.insertBefore n kind mark

/-- Closes the block collections that stand deeper than a column, given the columns around the
innermost one. -/
def closeBlocksFrom (column : Int) : List Int → Lexer → Lexer
  | [], s => s
  | outer :: outers, s =>
    if column < s.indent then
      closeBlocksFrom column outers
        { s.emit .blockEnd s.mark s.mark with indent := outer, indents := outers }
    else s

/-- Closes the block collections that stand deeper than a column. -/
def closeBlocks (s : Lexer) (column : Int) : Lexer :=
  if s.inFlow then s else closeBlocksFrom column s.indents s

/-! ## Between tokens -/

/-- Passes white space, comments and ends of lines.  Gives whether a key may begin behind them. -/
def gapFrom (inFlow : Bool) : Bool → Bool → List Char → Mark → Bool × Cursor
  | keyAllowed, _, [], m => (keyAllowed, ⟨[], m⟩)
  | keyAllowed, _, '\r' :: '\n' :: rest, m =>
    gapFrom inFlow (keyAllowed || !inFlow) false rest (m.newline 2)
  | keyAllowed, inComment, c :: rest, m =>
    if isBreak c then gapFrom inFlow (keyAllowed || !inFlow) false rest (m.newline c.utf8Size)
    -- a tab is white space only where no key can begin: indentation is made of spaces
    else if inComment || (m.column == 0 && c == byteOrderMark) || c == ' ' ||
        ((inFlow || !keyAllowed) && c == '\t') then
      gapFrom inFlow keyAllowed inComment rest (m.next c)
    else if c == '#' then gapFrom inFlow keyAllowed true rest (m.next c)
    else (keyAllowed, ⟨c :: rest, m⟩)

/-- Passes what stands before the next token. -/
def skipGap (s : Lexer) : Lexer :=
  let (keyAllowed, cursor) := gapFrom s.inFlow s.keyAllowed false s.cursor.rest s.mark
  { s with keyAllowed, cursor }

/-! ## The tokens one by one -/

/-- Takes `width` characters as one token. -/
def take (s : Lexer) (kind : TokenKind) (width : Nat) : Lexer :=
  let start := s.mark
  let stop : Mark := { start with index := start.index + width, column := start.column + width }
  { s.emit kind start stop with cursor := ⟨s.cursor.rest.drop width, stop⟩ }

/-- The end of the document. -/
def fetchEnd (s : Lexer) : Except Flaw Lexer := do
  let m := s.mark
  -- a last line without a break is ended here
  let m := if m.column = 0 then m else { m with line := m.line + 1, column := 0 }
  let s := { s with cursor := ⟨[], m⟩ }
  let s ← (s.closeBlocks (-1)).dropKey
  return { s.emit .streamEnd m m with keyAllowed := false, ended := true }

/-- `---` or `...` -/
def fetchDocumentMark (s : Lexer) (kind : TokenKind) : Except Flaw Lexer := do
  let s ← (s.closeBlocks (-1)).dropKey
  return { s with keyAllowed := false }.take kind 3

/-- `[` or `{` -/
def fetchFlowStart (s : Lexer) (kind : TokenKind) : Except Flaw Lexer := do
  let s ← s.noteKey
  let s := { s with outerKeys := s.possibleKey :: s.outerKeys, possibleKey := none }
  return { s with keyAllowed := true }.take kind 1

/-- `]` or `}` -/
def fetchFlowEnd (s : Lexer) (kind : TokenKind) : Except Flaw Lexer := do
  let s ← s.dropKey
  let s := match s.outerKeys with
    | [] => s
    | key :: keys => { s with possibleKey := key, outerKeys := keys }
  return { s with keyAllowed := false }.take kind 1

/-- `,` -/
def fetchFlowEntry (s : Lexer) : Except Flaw Lexer := do
  let s ← s.dropKey
  return { s with keyAllowed := true }.take .flowEntry 1

/-- `-` -/
def fetchBlockEntry (s : Lexer) : Except Flaw Lexer := do
  if !s.inFlow && !s.keyAllowed then .error .misplacedIndicator
  else
    let s ← (s.openBlock s.column none .blockSequenceStart s.mark).dropKey
    return { s with keyAllowed := true }.take .blockEntry 1

/-- `?` -/
def fetchKey (s : Lexer) : Except Flaw Lexer := do
  if !s.inFlow && !s.keyAllowed then .error .misplacedIndicator
  else
    let s ← (s.openBlock s.column none .blockMappingStart s.mark).dropKey
    return { s with keyAllowed := !s.inFlow }.take .key 1

/-- `:` -/
def fetchValue (s : Lexer) : Except Flaw Lexer :=
  match s.possibleKey with
  | some key =>
    let s := s.insertBefore key.number .key key.mark
    let s := s.openBlock key.mark.column (some key.number) .blockMappingStart key.mark
    .ok ({ s with possibleKey := none, keyAllowed := false }.take .value 1)
  | none =>
    if !s.inFlow && !s.keyAllowed then .error .misplacedIndicator
    else
      let s := s.openBlock s.column none .blockMappingStart s.mark
      .ok ({ s with keyAllowed := !s.inFlow }.take .value 1)

/-- Adds a token that was read up to a cursor. -/
def read (s : Lexer) (kind : TokenKind) (after : Cursor) : Lexer :=
  { s.emit kind s.mark after.mark with cursor := after }

/-- The characters that may stand right behind the name of an anchor. -/
def endsAnchor : List Char → Bool
  | [] => true
  | c :: _ => isGap c || ['?', ':', ',', ']', '}', '%', '@', '\x60'].contains c

/-- `*name` or `&name` -/
def fetchAnchor (s : Lexer) (kind : String → TokenKind) : Except Flaw Lexer := do
  let s ← s.noteKey
  let (name, after) := s.cursor.skip.takeWhile isWordChar
  if name.isEmpty || !endsAnchor after.rest then .error .badAnchor
  else return { s with keyAllowed := false }.read (kind (String.ofList name)) after

/-! ## Tags -/

/-- The characters of a tag; a few more are allowed where nothing can follow it but its end. -/
def isTagChar (verbatim : Bool) (c : Char) : Bool :=
  isWordChar c || [';', '/', '?', ':', '@', '&', '=', '+', '$', '.', '!', '~', '*', '\'', '(', ')',
    '%'].contains c || (verbatim && [',', '[', ']'].contains c)

/-- How many bytes a character takes that begins with a byte; nothing if none begins with it. -/
def byteCount? (first : Nat) : Option Nat :=
  if first < 0x80 then some 1
  else if first < 0xC0 then none
  else if first < 0xE0 then some 2
  else if first < 0xF0 then some 3
  else if first < 0xF8 then some 4
  else none

/-- The bytes that escapes `%XX` among the characters of a tag stand for.  The escapes of one
character follow each other: a first byte that says how many there are, then bytes from 80 to BF.
`missing` of them are still to come. -/
def tagBytes : Nat → List Char → Except Flaw (List UInt8)
  | 0, [] => .ok []
  | _ + 1, [] => .error .badTag
  | missing, '%' :: a :: b :: rest =>
    match hexDigit? a, hexDigit? b with
    | some x, some y => do
      let byte := x * 16 + y
      let missing ← match missing with
        | n + 1 => if 0x80 ≤ byte && byte < 0xC0 then .ok n else .error .badTag
        | 0 => match byteCount? byte with
          | some n => .ok (n - 1)
          | none => .error .badTag
      return UInt8.ofNat byte :: (← tagBytes missing rest)
    | _, _ => .error .badTag
  | missing, c :: rest =>
    if c == '%' || 0 < missing then .error .badTag
    else return c.toNat.toUInt8 :: (← tagBytes 0 rest)

/-- Reads the characters of a tag behind what is known of it.  A tag ends where it has a zero. -/
def tagText (head : List Char) (verbatim : Bool) (c : Cursor) : Except Flaw (String × Cursor) := do
  let (body, after) := c.takeWhile (isTagChar verbatim)
  if head.isEmpty && body.isEmpty then .error .badTag
  else
    let bytes := (← tagBytes 0 (head.drop 1 ++ body)).takeWhile (· != 0)
    return (String.ofList (Text.decodeLossy bytes), after)

/-- Reads a tag handle: `!`, `!word` or `!word!`. -/
def tagHandle (c : Cursor) : Except Flaw (List Char × Cursor) :=
  if c.rest.head? != some '!' then .error .badTag
  else
    let (word, after) := c.skip.takeWhile isWordChar
    if after.rest.head? == some '!' then .ok ('!' :: (word ++ ['!']), after.skip)
    else .ok ('!' :: word, after)

/-- Reads a tag. -/
def tag (c : Cursor) : Except Flaw (TokenKind × Cursor) := do
  match c.rest with
  | '!' :: '<' :: _ =>
    let (suffix, after) ← tagText [] true c.skip.skip
    if after.rest.head? == some '>' then return (.tag "" suffix, after.skip) else .error .badTag
  | _ =>
    let (handle, after) ← tagHandle c
    if 1 < handle.length && handle.getLast? == some '!' then
      let (suffix, after) ← tagText [] false after
      return (.tag (String.ofList handle) suffix, after)
    else
      let (suffix, after) ← tagText handle false after
      if suffix.isEmpty then return (.tag "" "!", after) else return (.tag "!" suffix, after)

/-- `!…` -/
def fetchTag (s : Lexer) : Except Flaw Lexer := do
  let s ← s.noteKey
  let (kind, after) ← tag s.cursor
  if gapNext after.rest || (s.inFlow && after.rest.head? == some ',') then
    return { s with keyAllowed := false }.read kind after
  else .error .badTag

/-! ## Directives -/

/-- Reads a number of at most nine digits. -/
def versionNumber (c : Cursor) : Except Flaw (Nat × Cursor) :=
  let (digits, after) := c.takeWhile Char.isDigit
  if digits.isEmpty || 9 < digits.length then .error .badDirective
  else .ok (digits.foldl (fun n d => n * 10 + (d.toNat - '0'.toNat)) 0, after)

/-- Reads what a directive says behind its name. -/
def directiveValue (name : String) (c : Cursor) : Except Flaw (TokenKind × Cursor) := do
  let c := c.skipWhile isSpace
  if name = "YAML" then
    let (major, after) ← versionNumber c
    if after.rest.head? != some '.' then .error .badDirective
    else
      let (minor, after) ← versionNumber after.skip
      return (.versionDirective major minor, after)
  else if name = "TAG" then
    let (handle, after) ← tagHandle c
    if handle != ['!'] && handle.getLast? != some '!' then .error .badDirective
    else if !(after.rest.head?.any isSpace) then .error .badDirective
    else
      let (value, after) ← tagText [] true (after.skipWhile isSpace)
      if gapNext after.rest then return (.tagDirective (String.ofList handle) value, after)
      else .error .badDirective
  else .error .badDirective

/-- `%NAME …` -/
def fetchDirective (s : Lexer) : Except Flaw Lexer := do
  let s ← (s.closeBlocks (-1)).dropKey
  let (name, after) := s.cursor.skip.takeWhile isWordChar
  if name.isEmpty || !gapNext after.rest then .error .badDirective
  else
    let (kind, stop) ← directiveValue (String.ofList name) after
    let rest := (stop.skipWhile isSpace).skipComment
    if breakNext rest.rest then
      return { s.emit kind s.mark stop.mark with cursor := rest.skipBreak, keyAllowed := false }
    else .error .badDirective

/-! ## Scalars -/

/-- `'…'` or `"…"` -/
def fetchQuoted (s : Lexer) (single : Bool) : Except Flaw Lexer := do
  let s := { ← s.noteKey with keyAllowed := false }
  let behind := s.cursor.skip
  let (text, after) ←
    if single then singleQuotedFrom {} behind.rest behind.mark
    else doubleQuotedFrom {} none behind.rest behind.mark
  return s.read (.scalar text (if single then .singleQuoted else .doubleQuoted)) after

/-- `|` or `>` -/
def fetchBlockScalar (s : Lexer) (literal : Bool) : Except Flaw Lexer := do
  let s := { ← s.dropKey with keyAllowed := true }
  let (text, after) ← blockScalar literal s.indent s.cursor.skip
  return s.read (.scalar text (if literal then .literal else .folded)) after

/-- A scalar without quotes. -/
def fetchPlain (s : Lexer) : Except Flaw Lexer := do
  let s := { ← s.noteKey with keyAllowed := false }
  let (text, after, lineEnded) ←
    plainFrom s.inFlow (s.indent + 1).toNat {} false s.cursor.rest s.mark
  let s := s.read (.scalar text .plain) after
  return { s with keyAllowed := s.keyAllowed || lineEnded }

/-- A plain scalar may begin with this character. -/
def startsPlain (inFlow : Bool) (c : Char) (rest : List Char) : Bool :=
  if c == '-' then !(rest.head?.any isSpace)
  else if c == '?' || c == ':' then !inFlow && !gapNext rest
  else !(isGap c || [',', '[', ']', '{', '}', '#', '&', '*', '!', '|', '>', '\'', '"', '%', '@',
    '\x60'].contains c)

/-- Reads the token that begins with the character `c`. -/
def fetchFrom (s : Lexer) (c : Char) (rest : List Char) : Except Flaw Lexer :=
  if s.mark.column == 0 && c == '%' then s.fetchDirective
  else if s.mark.column == 0 && isDocumentMark (c :: rest) then
    s.fetchDocumentMark (if c == '-' then .documentStart else .documentEnd)
  else if c == '[' then s.fetchFlowStart .flowSequenceStart
  else if c == '{' then s.fetchFlowStart .flowMappingStart
  else if c == ']' then s.fetchFlowEnd .flowSequenceEnd
  else if c == '}' then s.fetchFlowEnd .flowMappingEnd
  else if c == ',' then s.fetchFlowEntry
  else if c == '-' && gapNext rest then s.fetchBlockEntry
  else if c == '?' && (s.inFlow || gapNext rest) then s.fetchKey
  else if c == ':' && (s.inFlow || gapNext rest) then s.fetchValue
  else if c == '*' then s.fetchAnchor .alias
  else if c == '&' then s.fetchAnchor .anchor
  else if c == '!' then s.fetchTag
  else if c == '|' && !s.inFlow then s.fetchBlockScalar true
  else if c == '>' && !s.inFlow then s.fetchBlockScalar false
  else if c == '\'' then s.fetchQuoted true
  else if c == '"' then s.fetchQuoted false
  else if startsPlain s.inFlow c rest then s.fetchPlain
  else .error .unstartable

/-- Reads on up to the end of the next token. -/
def fetch (s : Lexer) : Except Flaw Lexer := do
  let s ← s.skipGap.refreshKeys
  let s := s.closeBlocks s.column
  match s.cursor.rest with
  | [] => s.fetchEnd
  | c :: rest => s.fetchFrom c rest

/-- The oldest token that waits may turn out to begin a key. -/
def oldestMayBeKey (s : Lexer) : Bool :=
  (s.possibleKey :: s.outerKeys).any fun key => key.any fun k => k.number == s.given

/-- Gives out tokens until the end or the first flaw, in at most `n` steps. -/
def run : Nat → Lexer → List Token × Option Flaw
  | 0, _ => ([], none)
  | n + 1, s =>
    let fetchOn (s : Lexer) : List Token × Option Flaw :=
      match s.fetch with
      | .error flaw => ([], some flaw)
      | .ok s => run n s
    match s.waiting with
    | [] => if s.ended then ([], none) else fetchOn s
    | token :: rest =>
      match s.refreshKeys with
      | .error flaw => ([], some flaw)
      | .ok s =>
        if s.oldestMayBeKey then fetchOn s
        else
          let (tokens, flaw) := run n { s with waiting := rest, given := s.given + 1 }
          (token :: tokens, flaw)

end Lexer

/-- The tokens of a text up to the first flaw, and that flaw. -/
def tokens (text : List Char) : List Token × Option Flaw :=
  if text.all isAllowed then Lexer.run (8 * text.length + 16) { cursor := ⟨text, {}⟩ }
  else ([], some .forbiddenCharacter)

end Fleet.Yaml

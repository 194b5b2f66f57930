import Fleet.Yaml.Character
import Fleet.Yaml.Flaw

namespace Fleet.Yaml

/-! # Scalars

How a scalar of each style is read from a document.  In all of them a single end of line between
two words stands for a space and every further one for itself.

Each reader goes through the document one character at a time and keeps a `Draft`: the text so
far, and the white space after it that is part of the text only if more of it follows.
-/

/-- A text in the making.  The lists hold their latest character first. -/
structure Draft where
  /-- the text -/
  text : List Char := []
  /-- white space after it, within the line -/
  spaces : List Char := []
  /-- a line has ended since the text -/
  lineEnded : Bool := false
  /-- how that line ended; nothing if its end was escaped -/
  firstBreak : List Char := []
  /-- how the lines after that one ended, none of which held anything -/
  otherBreaks : List Char := []
  deriving Inhabited

namespace Draft

/-- Adds white space to what may come into the text; at the start of a line it never does. -/
def space (d : Draft) (c : Char) : Draft :=
  if d.lineEnded then d else { d with spaces := c :: d.spaces }

/-- Ends a line. -/
def endLine (d : Draft) (c : Char) : Draft :=
  if d.lineEnded then { d with otherBreaks := breakText c :: d.otherBreaks }
  else { d with spaces := [], lineEnded := true, firstBreak := [breakText c] }

/-- Ends a line whose end does not count. -/
def endLineSilently (d : Draft) : Draft :=
  { d with spaces := [], lineEnded := true, firstBreak := [] }

/-- What the white space since the text comes to, latest character first. -/
def filling (d : Draft) : List Char :=
  if d.lineEnded then
    if d.firstBreak == ['\n'] then
      if d.otherBreaks.isEmpty then [' '] else d.otherBreaks
    else d.otherBreaks ++ d.firstBreak
  else d.spaces

/-- Takes the white space since the text into the text. -/
def join (d : Draft) : Draft := { text := d.filling ++ d.text }

/-- Adds a character to the text. -/
def push (d : Draft) (c : Char) : Draft := { text := c :: d.join.text }

/-- The text, once no more follows. -/
def done (d : Draft) : String := String.ofList d.text.reverse

end Draft

/-! ## Plain scalars -/

/-- The characters that end a plain scalar of a flow collection. -/
def isFlowIndicator (c : Char) : Bool := c == ',' || c == '[' || c == ']' || c == '{' || c == '}'

/-- Reads a plain scalar.  `indent` is the first column in which its further lines may begin and
`afterGap` says that the last character was a separator.  Gives the text, where reading stopped,
and whether a line has ended since the text. -/
def plainFrom (inFlow : Bool) (indent : Nat) :
    Draft → Bool → List Char → Mark → Except Flaw (String × Cursor × Bool)
  | d, _, [], m => .ok (d.done, ⟨[], m⟩, d.lineEnded)
  | d, _, '\r' :: '\n' :: rest, m =>
    plainFrom inFlow indent (d.endLine '\n') true rest (m.newline 2)
  | d, afterGap, c :: rest, m =>
    let stop : Except Flaw (String × Cursor × Bool) := .ok (d.done, ⟨c :: rest, m⟩, d.lineEnded)
    if isSpace c then
      if d.lineEnded && m.column < indent && c == '\t' then .error .tabIndentation
      else plainFrom inFlow indent (d.space c) true rest (m.next c)
    else if isBreak c then plainFrom inFlow indent (d.endLine c) true rest (m.newline c.utf8Size)
    else if afterGap && !inFlow && m.column < indent then stop
    else if afterGap && ((m.column == 0 && isDocumentMark (c :: rest)) || c == '#') then stop
    else if inFlow && c == ':' && rest.head?.any (fun x => isFlowIndicator x || x == '?') then
      .error .unexpectedColon
    else if (c == ':' && gapNext rest) || (inFlow && isFlowIndicator c) then stop
    else plainFrom inFlow indent (d.push c) false rest (m.next c)

/-! ## Quoted scalars -/

/-- What is known of an escape by its code: digits still to come, and the number they make. -/
structure Escape where
  missing : Nat
  value : Nat := 0

/-- The character that an escape of one character stands for. -/
def escaped? : Char → Option Char
  | '0' => some '\x00'
  | 'a' => some '\x07'
  | 'b' => some '\x08'
  | 't' => some '\t'
  | '\t' => some '\t'
  | 'n' => some '\n'
  | 'v' => some '\x0b'
  | 'f' => some '\x0c'
  | 'r' => some '\r'
  | 'e' => some '\x1b'
  | ' ' => some ' '
  | '"' => some '"'
  | '/' => some '/'
  | '\\' => some '\\'
  | 'N' => some '\u0085'
  | '_' => some '\u00a0'
  | 'L' => some '\u2028'
  | 'P' => some '\u2029'
  | _ => none

/-- How many hexadecimal digits an escape by code has. -/
def codeLength? : Char → Option Nat
  | 'x' => some 2
  | 'u' => some 4
  | 'U' => some 8
  | _ => none

/-- Reads a scalar between single quotes, from behind the first of them. -/
def singleQuotedFrom : Draft → List Char → Mark → Except Flaw (String × Cursor)
  | _, [], _ => .error .unclosedQuote
  | d, '\r' :: '\n' :: rest, m => singleQuotedFrom (d.endLine '\n') rest (m.newline 2)
  | d, '\'' :: '\'' :: rest, m => singleQuotedFrom (d.push '\'') rest ((m.next '\'').next '\'')
  | d, c :: rest, m =>
    if isSpace c then singleQuotedFrom (d.space c) rest (m.next c)
    else if isBreak c then singleQuotedFrom (d.endLine c) rest (m.newline c.utf8Size)
    else if m.column == 0 && isDocumentMark (c :: rest) then .error .documentMarkInQuote
    else if c == '\'' then .ok (d.join.done, ⟨rest, m.next c⟩)
    else singleQuotedFrom (d.push c) rest (m.next c)

/-- Reads a scalar between double quotes, from behind the first of them. -/
def doubleQuotedFrom :
    Draft → Option Escape → List Char → Mark → Except Flaw (String × Cursor)
  | _, _, [], _ => .error .unclosedQuote
  | d, some e, c :: rest, m =>
    match hexDigit? c with
    | none => .error .unknownEscape
    | some digit =>
      let value := e.value * 16 + digit
      if 1 < e.missing then doubleQuotedFrom d (some ⟨e.missing - 1, value⟩) rest (m.next c)
      else if (0xD800 ≤ value && value ≤ 0xDFFF) || 0x10FFFF < value then .error .invalidCodePoint
      else doubleQuotedFrom (d.push (Char.ofNat value)) none rest (m.next c)
  | d, none, '\r' :: '\n' :: rest, m => doubleQuotedFrom (d.endLine '\n') none rest (m.newline 2)
  | d, none, '\\' :: '\r' :: '\n' :: rest, m =>
    doubleQuotedFrom d.join.endLineSilently none rest ((m.next '\\').newline 2)
  | d, none, '\\' :: c :: rest, m =>
    if isBreak c then
      doubleQuotedFrom d.join.endLineSilently none rest ((m.next '\\').newline c.utf8Size)
    else match escaped? c, codeLength? c with
      | some x, _ => doubleQuotedFrom (d.push x) none rest ((m.next '\\').next c)
      | none, some n => doubleQuotedFrom d (some ⟨n, 0⟩) rest ((m.next '\\').next c)
      | none, none => .error .unknownEscape
  | d, none, c :: rest, m =>
    if isSpace c then doubleQuotedFrom (d.space c) none rest (m.next c)
    else if isBreak c then doubleQuotedFrom (d.endLine c) none rest (m.newline c.utf8Size)
    else if m.column == 0 && isDocumentMark (c :: rest) then .error .documentMarkInQuote
    else if c == '"' then .ok (d.join.done, ⟨rest, m.next c⟩)
    else if c == '\\' then .error .unknownEscape
    else doubleQuotedFrom (d.push c) none rest (m.next c)

/-! ## Block scalars -/

/-- What becomes of the ends of lines behind a block scalar. -/
inductive Chomping where
  /-- none is kept -/
  | strip
  /-- the first is kept -/
  | clip
  /-- all are kept -/
  | keep
  deriving DecidableEq, Repr

/-- What the first line of a block scalar says. -/
structure BlockHeader where
  chomping : Chomping := .clip
  /-- how much deeper than its parent the text stands, if that is said -/
  increment : Option Nat := none

/-- Reads the first line of a block scalar, behind its `|` or `>`. -/
def blockHeader (c : Cursor) : Except Flaw (BlockHeader × Cursor) := do
  let chomping? : Char → Option Chomping
    | '+' => some .keep
    | '-' => some .strip
    | _ => none
  let (header, after) ← match c.rest with
    | first :: second :: _ =>
      match chomping? first with
      | some chomping =>
        if second.isDigit then
          if second == '0' then .error .badBlockHeader
          else .ok (⟨chomping, some (second.toNat - '0'.toNat)⟩, c.skip.skip)
        else .ok (⟨chomping, none⟩, c.skip)
      | none =>
        if first.isDigit then
          if first == '0' then .error .badBlockHeader
          else match chomping? second with
            | some chomping => .ok (⟨chomping, some (first.toNat - '0'.toNat)⟩, c.skip.skip)
            | none => .ok (⟨.clip, some (first.toNat - '0'.toNat)⟩, c.skip)
        else .ok ({}, c)
    | [first] =>
      match chomping? first with
      | some chomping => .ok (⟨chomping, none⟩, c.skip)
      | none =>
        if first.isDigit then
          if first == '0' then .error .badBlockHeader
          else .ok (⟨.clip, some (first.toNat - '0'.toNat)⟩, c.skip)
        else .ok ({}, c)
    | [] => .ok (({} : BlockHeader), c)
  let after := (after.skipWhile isSpace).skipComment
  if breakNext after.rest then .ok (header, after.skipBreak) else .error .badBlockHeader

/-- A block scalar in the making. -/
structure BlockDraft where
  text : List Char := []
  /-- the column of the text; zero while it is not known -/
  indent : Nat
  /-- the deepest column seen while it was not known -/
  deepest : Nat := 0
  firstBreak : List Char := []
  otherBreaks : List Char := []
  /-- the last line began with white space -/
  spacedLine : Bool := false
  /-- reading is inside a line of the text -/
  inLine : Bool := false

namespace BlockDraft

/-- Settles the column of the text, which is deeper than `parent`. -/
def settle (d : BlockDraft) (parent : Int) : BlockDraft :=
  if d.indent = 0 then { d with indent := max (max d.deepest (parent + 1).toNat) 1 } else d

/-- Begins a line of the text with its first character. -/
def beginLine (d : BlockDraft) (literal : Bool) (c : Char) : BlockDraft :=
  let folds := !literal && d.firstBreak == ['\n'] && !d.spacedLine && !isSpace c
  let filling :=
    if folds then if d.otherBreaks.isEmpty then [' '] else d.otherBreaks
    else d.otherBreaks ++ d.firstBreak
  { d with
    text := c :: (filling ++ d.text), firstBreak := [], otherBreaks := [],
    spacedLine := isSpace c, inLine := true }

/-- Ends a line: the first end after the text, or one of an empty line. -/
def endLine (d : BlockDraft) (c : Char) : BlockDraft :=
  if d.inLine then { d with firstBreak := [breakText c], inLine := false }
  else { d with otherBreaks := breakText c :: d.otherBreaks }

/-- The text, once no more follows. -/
def done (d : BlockDraft) (chomping : Chomping) : String :=
  String.ofList <| List.reverse <| match chomping with
    | .strip => d.text
    | .clip => d.firstBreak ++ d.text
    | .keep => d.otherBreaks ++ (d.firstBreak ++ d.text)

end BlockDraft

/-- Reads the lines of a block scalar whose parent stands in column `parent`. -/
def blockLines (literal : Bool) (parent : Int) :
    BlockDraft → List Char → Mark → Except Flaw (BlockDraft × Cursor)
  | d, [], m => .ok (d, ⟨[], m⟩)
  | d, '\r' :: '\n' :: rest, m =>
    let d := if d.inLine then d else { d with deepest := max d.deepest m.column }
    blockLines literal parent (d.endLine '\n') rest (m.newline 2)
  | d, c :: rest, m =>
    if d.inLine then
      if isBreak c then blockLines literal parent (d.endLine c) rest (m.newline c.utf8Size)
      else blockLines literal parent { d with text := c :: d.text } rest (m.next c)
    else
      let outside := d.indent == 0 || m.column < d.indent
      if outside && c == ' ' then blockLines literal parent d rest (m.next c)
      else
        let d := { d with deepest := max d.deepest m.column }
        if outside && c == '\t' then .error .tabIndentation
        else if isBreak c then blockLines literal parent (d.endLine c) rest (m.newline c.utf8Size)
        else
          let d := d.settle parent
          if m.column == d.indent then
            blockLines literal parent (d.beginLine literal c) rest (m.next c)
          else .ok (d, ⟨c :: rest, m⟩)

/-- Reads a block scalar from behind its `|` or `>`. -/
def blockScalar (literal : Bool) (parent : Int) (c : Cursor) : Except Flaw (String × Cursor) := do
  let (header, body) ← blockHeader c
  let indent := match header.increment with
    | none => 0
    | some n => if 0 ≤ parent then parent.toNat + n else n
  let (d, after) ← blockLines literal parent { indent } body.rest body.mark
  return (d.done header.chomping, after)

end Fleet.Yaml

namespace Fleet.Yaml

/-! # Characters of a document

The classes of characters that YAML 1.1 tells apart, and the marks that say where in a document a
character stands.  A line ends at a line feed, a carriage return, both together, or at one of
U+0085, U+2028 and U+2029.
-/

/-- A place in a document: bytes before it, lines before it, characters before it in its line. -/
structure Mark where
  index : Nat := 0
  line : Nat := 0
  column : Nat := 0
  deriving DecidableEq, Repr, Inhabited

/-- The place after a character of the same line. -/
def Mark.next (m : Mark) (c : Char) : Mark :=
  { m with index := m.index + c.utf8Size, column := m.column + 1 }

/-- The place at the start of the next line, past an ending of `width` bytes. -/
def Mark.newline (m : Mark) (width : Nat) : Mark := ⟨m.index + width, m.line + 1, 0⟩

/-- A rest of the document, and where it begins. -/
structure Cursor where
  rest : List Char
  mark : Mark
  deriving Inhabited

/-- The characters a document may hold. -/
def isAllowed (c : Char) : Bool :=
  let n := c.toNat
  n == 0x09 || n == 0x0A || n == 0x0D || (0x20 ≤ n && n ≤ 0x7E) || n == 0x85 ||
    (0xA0 ≤ n && n ≤ 0xD7FF) || (0xE000 ≤ n && n ≤ 0xFFFD) || (0x10000 ≤ n && n ≤ 0x10FFFF)

/-- Ends a line. -/
def isBreak (c : Char) : Bool :=
  c == '\r' || c == '\n' || c == '\u0085' || c == '\u2028' || c == '\u2029'

/-- Separates words inside a line. -/
def isSpace (c : Char) : Bool := c == ' ' || c == '\t'

/-- Separates words. -/
def isGap (c : Char) : Bool := isSpace c || isBreak c

/-- The rest is empty or begins with a separator. -/
def gapNext : List Char → Bool
  | [] => true
  | c :: _ => isGap c

/-- The rest is empty or begins with the end of a line. -/
def breakNext : List Char → Bool
  | [] => true
  | c :: _ => isBreak c

/-- What the end of a line becomes in a text: a line feed, unless it is a character of its own. -/
def breakText (c : Char) : Char := if c == '\u2028' || c == '\u2029' then c else '\n'

/-- The characters of names: of anchors, directives and tag handles. -/
def isWordChar (c : Char) : Bool := c.isAlphanum || c == '_' || c == '-'

/-- The byte-order mark. -/
def byteOrderMark : Char := '\uFEFF'

/-- A line that begins with `---` or `...` and a separator. -/
def isDocumentMark : List Char → Bool
  | '-' :: '-' :: '-' :: rest => gapNext rest
  | '.' :: '.' :: '.' :: rest => gapNext rest
  | _ => false

/-- The value of a hexadecimal digit. -/
def hexDigit? (c : Char) : Option Nat :=
  if c.isDigit then some (c.toNat - '0'.toNat)
  else if 'a' ≤ c && c ≤ 'f' then some (c.toNat - 'a'.toNat + 10)
  else if 'A' ≤ c && c ≤ 'F' then some (c.toNat - 'A'.toNat + 10)
  else none

namespace Cursor

/-- One character on, within the line. -/
def skip (c : Cursor) : Cursor :=
  match c.rest with
  | x :: rest => ⟨rest, c.mark.next x⟩
  | [] => c

/-- Past the end of the line, if the cursor is at one. -/
def skipBreak (c : Cursor) : Cursor :=
  match c.rest with
  | '\r' :: '\n' :: rest => ⟨rest, c.mark.newline 2⟩
  | b :: rest => if isBreak b then ⟨rest, c.mark.newline b.utf8Size⟩ else c
  | [] => c

/-- Takes characters of one line as long as `p` holds. -/
def takeFrom (p : Char → Bool) : List Char → Mark → List Char × Cursor
  | [], m => ([], ⟨[], m⟩)
  | c :: rest, m =>
    if p c then
      let (taken, after) := takeFrom p rest (m.next c)
      (c :: taken, after)
    else ([], ⟨c :: rest, m⟩)

/-- The characters of the line from here on for which `p` holds, and what follows them. -/
def takeWhile (c : Cursor) (p : Char → Bool) : List Char × Cursor := takeFrom p c.rest c.mark

/-- Past the characters of the line for which `p` holds. -/
def skipWhile (c : Cursor) (p : Char → Bool) : Cursor := (c.takeWhile p).2

/-- Past a comment, if the cursor is at one. -/
def skipComment (c : Cursor) : Cursor :=
  if c.rest.head? == some '#' then c.skipWhile fun x => !isBreak x else c

end Cursor

end Fleet.Yaml

import Fleet.Text.Utf8

namespace Fleet.Text

/-! # Control sequences

A text may hold sequences that tell a terminal to do something: they begin with an escape character
and are not seen.  `withoutControls` drops them and every other control character that is not white
space, as one reads a text whose terminal does none of this.

White space inside a sequence is seen, and so is what follows it up to the next character that is
not seen; there the sequence goes on, unless a character that takes several bytes has ended it.  A
sequence that is never ended takes the rest of the text with it.
-/

/-- What a character belongs to. -/
inductive ControlState where
  /-- the text itself -/
  | plain
  /-- an escape character was read -/
  | escape
  /-- characters from a blank to `/` were read behind an escape character -/
  | escapeBlank
  /-- a sequence that began with `[` -/
  | control
  /-- a sequence that began with `]` -/
  | command
  /-- a sequence that began with `P`, and nothing behind it yet -/
  | deviceStart
  /-- the numbers of such a sequence -/
  | deviceNumber
  /-- the characters from a blank to `/` of such a sequence -/
  | deviceBlank
  /-- a text for the terminal, which ends where the byte 9C stands -/
  | deviceText
  deriving DecidableEq, Repr

/-- The white space that is kept wherever it stands. -/
def isKeptSpace (c : Char) : Bool := c == '\t' || c == '\n' || c == '\x0c' || c == '\r'

/-- A character between two others. -/
def isWithin (low high c : Char) : Bool := low ≤ c && c ≤ high

namespace ControlState

/-- What stands behind an escape character. -/
def afterEscape (c : Char) : ControlState :=
  if isWithin ' ' '/' c then escapeBlank
  else if c == '[' then control
  else if c == ']' then command
  else if c == 'P' then deviceStart
  else if c == 'X' || c == '^' || c == '_' then deviceText
  else if isWithin '0' '~' c then plain
  else escape

/-- The state after a character that is not seen. -/
def next (s : ControlState) (c : Char) : ControlState :=
  if c == '\x1b' then escape
  else if c == '\x18' || c == '\x1a' then plain
  else match s with
    | plain => plain
    | escape => afterEscape c
    | escapeBlank => if isWithin '0' '~' c then plain else escapeBlank
    | control => if isWithin '@' '~' c then plain else control
    | command => if c == '\x07' then plain else command
    | deviceStart =>
      if isWithin ' ' '/' c then deviceBlank
      else if c == ':' || isWithin '@' '~' c then deviceText
      else if isWithin '0' '?' c then deviceNumber
      else deviceStart
    | deviceNumber =>
      if isWithin ' ' '/' c then deviceBlank
      else if c == ':' || isWithin '<' '~' c then deviceText
      else deviceNumber
    | deviceBlank => if isWithin '0' '~' c then deviceText else deviceBlank
    | deviceText => if (encode c.toString).contains 0x9C then plain else deviceText

/-- The states in which white space is kept. -/
def keepsSpace : ControlState → Bool
  | plain | escape | escapeBlank | control => true
  | _ => false

/-- A character is seen; `isBehind` says that the one before it was. -/
def shows (s : ControlState) (isBehind : Bool) (c : Char) : Bool :=
  if isKeptSpace c then isBehind || s.keepsSpace
  else (isBehind || s = plain) && ' ' ≤ c && c != '\x7f'

/-- The state after a character that is seen. -/
def afterShown (s : ControlState) (c : Char) : ControlState := if c < '\x80' then s else plain

end ControlState

/-- Drops control sequences from a text that begins in the given state; `isBehind` says that the
character before it was seen. -/
def withoutControlsFrom : ControlState → Bool → List Char → List Char
  | _, _, [] => []
  | s, isBehind, c :: rest =>
    if s.shows isBehind c then c :: withoutControlsFrom (s.afterShown c) true rest
    else withoutControlsFrom (s.next c) false rest

/-- Drops the control sequences and the other control characters that are not white space. -/
def withoutControls (text : List Char) : List Char := withoutControlsFrom .plain false text

end Fleet.Text

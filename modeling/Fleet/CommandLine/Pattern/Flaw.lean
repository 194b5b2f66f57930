import Fleet.Text.Lines

namespace Fleet.CommandLine.Pattern

/-! # Flaws of a pattern

A pattern that cannot be read is shown together with what is wrong with it: the part at fault is
underlined, and so is a second part if the first is at fault because of it.
-/

/-- A place in a pattern; lines and columns are counted from one on. -/
structure Spot where
  offset : Nat := 0
  line : Nat := 1
  column : Nat := 1
  deriving DecidableEq, Repr, Inhabited

/-- The place behind a character. -/
def Spot.after (s : Spot) (c : Char) : Spot :=
  if c == '\n' then ⟨s.offset + 1, s.line + 1, 1⟩ else ⟨s.offset + 1, s.line, s.column + 1⟩

/-- A part of a pattern, from one place up to another. -/
structure Span where
  start : Spot
  stop : Spot
  deriving DecidableEq, Repr, Inhabited

/-- What is wrong with a pattern. -/
inductive Flaw where
  | escapeInSet
  | reversedRange
  | rangeBoundary
  | openSet
  | missingCount
  | hugeCount
  | reversedCounts
  | openCount
  | emptyHex
  | noCharacter
  | hexDigit
  | cutEscape
  | unknownEscape
  | danglingNegation
  | repeatedNegation
  | repeatedFlag
  | cutFlags
  | unknownFlag
  | repeatedName
  | emptyName
  | badName
  | openName
  | openGroup
  | closedGroup
  | nesting (limit : Nat)
  | nothingRepeated
  | openBoundary
  | unknownBoundary
  | cutBoundary
  | badProperty
  | backReference
  | lookAround
  | noUnicode
  | notUtf8
  | unknownProperty
  | unknownValue
  | noClasses
  | noCases
  deriving DecidableEq, Repr

/-- What is said about a flaw. -/
def Flaw.text : Flaw → String
  | escapeInSet => "invalid escape sequence found in character class"
  | reversedRange => "invalid character class range, the start must be <= the end"
  | rangeBoundary => "invalid range boundary, must be a literal"
  | openSet => "unclosed character class"
  | missingCount => "repetition quantifier expects a valid decimal"
  | hugeCount => "decimal literal invalid"
  | reversedCounts => "invalid repetition count range, the start must be <= the end"
  | openCount => "unclosed counted repetition"
  | emptyHex => "hexadecimal literal empty"
  | noCharacter => "hexadecimal literal is not a Unicode scalar value"
  | hexDigit => "invalid hexadecimal digit"
  | cutEscape => "incomplete escape sequence, reached end of pattern prematurely"
  | unknownEscape => "unrecognized escape sequence"
  | danglingNegation => "dangling flag negation operator"
  | repeatedNegation => "flag negation operator repeated"
  | repeatedFlag => "duplicate flag"
  | cutFlags => "expected flag but got end of regex"
  | unknownFlag => "unrecognized flag"
  | repeatedName => "duplicate capture group name"
  | emptyName => "empty capture group name"
  | badName => "invalid capture group character"
  | openName => "unclosed capture group name"
  | openGroup => "unclosed group"
  | closedGroup => "unopened group"
  | nesting limit =>
    "exceed the maximum number of nested parentheses/brackets (" ++ toString limit ++ ")"
  | nothingRepeated => "repetition operator missing expression"
  | openBoundary =>
    "special word boundary assertion is either unclosed or contains an invalid character"
  | unknownBoundary =>
    "unrecognized special word boundary assertion, valid choices are: " ++
      "start, end, start-half or end-half"
  | cutBoundary =>
    "found either the beginning of a special word boundary or a bounded repetition on a \\b " ++
      "with an opening brace, but no closing brace"
  | badProperty => "invalid Unicode character class"
  | backReference => "backreferences are not supported"
  | lookAround => "look-around, including look-ahead and look-behind, is not supported"
  | noUnicode => "Unicode not allowed here"
  | notUtf8 => "pattern can match invalid UTF-8"
  | unknownProperty => "Unicode property not found"
  | unknownValue => "Unicode property value not found"
  | noClasses =>
    "Unicode-aware Perl class not found (make sure the unicode-perl feature is enabled)"
  | noCases =>
    "Unicode-aware case insensitivity matching is not available " ++
      "(make sure the unicode-case feature is enabled)"

/-- A flaw and where it is, and perhaps the part because of which it is one. -/
structure Finding where
  flaw : Flaw
  span : Span
  reason : Option Span := none
  deriving DecidableEq, Repr

namespace Finding

/-- The parts at fault, in the order in which they stand. -/
def spans (f : Finding) : List Span :=
  (f.span :: f.reason.toList).mergeSort fun a b =>
    a.start.offset < b.start.offset ||
      (a.start.offset == b.start.offset && a.stop.offset ≤ b.stop.offset)

/-- The parts that are underlined in a line, which begin and end in it. -/
def spansIn (f : Finding) (line : Nat) : List Span :=
  f.spans.filter fun s => s.start.line == line && s.stop.line == line

/-- The parts that begin in one line and end in another. -/
def longSpans (f : Finding) : List Span := f.spans.filter fun s => s.start.line != s.stop.line

/-- Underlines parts of a line, from a column on. -/
def underline : Nat → List Span → List Char
  | _, [] => []
  | column, s :: rest =>
    let width := max 1 (s.stop.column - s.start.column)
    let gap := s.start.column - column
    List.replicate gap ' ' ++ List.replicate width '^' ++ underline (column + gap + width) rest

/-- A number with blanks in front of it. -/
def padded (width n : Nat) : String :=
  let digits := toString n
  String.ofList (List.replicate (width - digits.length) ' ') ++ digits

/-- The pattern with the parts at fault underlined.  Lines are numbered if there are several. -/
def shown (f : Finding) (pattern : String) : String :=
  let lines := Text.lines pattern.toList
  let count := lines.length + (if pattern.toList.getLast? == some '\n' then 1 else 0)
  let width := if count ≤ 1 then 0 else (toString count).length
  String.join <| (lines.zipIdx 1).map fun (line, number) =>
    let lead := if width = 0 then "    " else padded width number ++ ": "
    let spans := f.spansIn number
    lead ++ String.ofList line ++ "\n" ++
      if spans.isEmpty then "" else
        String.ofList (List.replicate lead.length ' ' ++ underline 1 spans) ++ "\n"

/-- What is said about a pattern that cannot be read. -/
def text (f : Finding) (pattern : String) : String :=
  let body := f.shown pattern
  let body := if pattern.toList.contains '\n' then
      let divider := String.ofList (List.replicate 79 '~') ++ "\n"
      let notes := f.longSpans.map fun s =>
        "on line " ++ toString s.start.line ++ " (column " ++ toString s.start.column ++
          ") through line " ++ toString s.stop.line ++ " (column " ++
          toString (s.stop.column - 1) ++ ")"
      divider ++ body ++ divider ++
        if notes.isEmpty then "" else "\n".intercalate notes ++ "\n"
    else body
  "regex parse error:\n" ++ body ++ "error: " ++ f.flaw.text

end Finding

end Fleet.CommandLine.Pattern

import Fleet.Text.Blank
import Fleet.Text.Lines

namespace Fleet

/-! # Descriptions of a pull request

The first line that is not blank is the title, without the `#` and the white space in front of it
and the white space behind it.  All lines after it are the body.
-/

/-- Title and body of a pull request. -/
structure Description where
  title : String
  body : String
  deriving DecidableEq, Repr, Inhabited

namespace Description

/-- What may stand in front of a title. -/
def isHeading (c : Char) : Bool := c == '#' || Text.isBlank c

/-- Reads a description. -/
def parse (text : String) : Description :=
  match (Text.lines text.toList).dropWhile Text.allBlank with
  | [] => ⟨"", ""⟩
  | title :: body =>
    ⟨String.ofList (Text.trimEnd (title.dropWhile isHeading)),
      String.ofList (Text.joinWith '\n' body)⟩

end Description

end Fleet

import Fleet.Shell.Bytes

namespace Fleet.Shell

/-! # Quoted texts

The ways in which an extended shell writes a text so that it can be read again: between single or
double quotes, with backslashes, or with codes if some of its bytes are no printable characters.
-/

namespace Quotation

/-- A byte is a printable character. -/
def isPrintable (c : Char) : Bool := ' ' ≤ c && c ≤ '~'

/-- Some bytes of a text are no printable characters. -/
def needsCodes (text : String) : Bool := (Bytes.narrow text).any fun c => !isPrintable c

/-- A byte between `$'` and `'`. -/
def code (c : Char) : String :=
  match c with
  | '\x07' => "\\a"
  | '\x08' => "\\b"
  | '\t' => "\\t"
  | '\n' => "\\n"
  | '\x0b' => "\\v"
  | '\x0c' => "\\f"
  | '\r' => "\\r"
  | '\x1b' => "\\E"
  | '\\' => "\\\\"
  | '\'' => "\\'"
  | c =>
    if isPrintable c then c.toString
    else
      let digits := Nat.toDigits 8 c.toNat
      "\\" ++ String.ofList (List.replicate (3 - digits.length) '0' ++ digits)

/-- A text with codes. -/
def coded (text : String) : String :=
  "$'" ++ String.join ((Bytes.narrow text).map code) ++ "'"

/-- A text between single quotes. -/
def single (text : String) : String :=
  if text = "'" then "\\'"
  else "'" ++ String.join (text.toList.map fun c => if c == '\'' then "'\\''" else c.toString) ++ "'"

/-- A text between double quotes. -/
def double (text : String) : String :=
  let isSpecial (c : Char) : Bool := c == '"' || c == '$' || c == '\x60' || c == '\\'
  "\"" ++ String.ofList (text.toList.flatMap fun c => if isSpecial c then ['\\', c] else [c]) ++ "\""

/-- The characters that mean something to a shell wherever they stand. -/
def signs : List Char :=
  [' ', '\t', '\n', '\'', '"', '\\', '|', '&', ';', '(', ')', '<', '>', '!', '\x7b', '\x7d', '*', '[',
    ']', '?', '^', '$', '\x60']

/-- A text behind a character, with a backslash before every character that means something. -/
def slashed : Option Char → List Char → List Char
  | _, [] => []
  | before, c :: rest =>
    let means := signs.contains c || c == ',' ||
      (c == '#' && before.isNone) || (c == '~' && before.all fun b => b == ':' || b == '=')
    (if means then ['\\', c] else [c]) ++ slashed (some c) rest

/-- A text as a word, with backslashes or with codes. -/
def word (text : String) : String :=
  if text.isEmpty then "''"
  else if needsCodes text then coded text
  else String.ofList (slashed none text.toList)

/-- A text that can be read again, between single quotes or with codes. -/
def reusable (text : String) : String := if needsCodes text then coded text else single text

/-- A value as it is listed, between double quotes or with codes. -/
def listed (text : String) : String := if needsCodes text then coded text else double text

/-- A character behind another means something to a shell. -/
def hasMeaning : Option Char → List Char → Bool
  | _, [] => false
  | before, c :: rest =>
    signs.contains c || (c == '~' && before.all fun b => b == ':' || b == '=') ||
      (c == '#' && before.all fun b => b == ' ') || hasMeaning (some c) rest

/-- A text that is quoted only if it has to be. -/
def asNeeded (text : String) : String :=
  if text.isEmpty then text
  else if needsCodes text then coded text
  else if hasMeaning none text.toList then single text
  else text

end Quotation

end Fleet.Shell

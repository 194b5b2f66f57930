import Fleet.Text.Category

namespace Fleet.Text

/-! # Text shown between quotes

A text inside a message is shown so that every character of it can be told: quotes and backslashes
get a backslash, and a character that would not be seen, or that would join the one before it, is
shown by its code.
-/

/-- The characters of other categories that are not seen, as ranges in ascending order, both ends
included: those with the property Default_Ignorable_Code_Point, and those with the property
Grapheme_Extend but for the two sound marks of half width, U+FF9E and U+FF9F, which can be seen. -/
def otherUnseenRanges : List (Nat × Nat) :=
  [
    (0x9BE, 0x9BE), (0x9D7, 0x9D7), (0xB3E, 0xB3E), (0xB57, 0xB57), (0xBBE, 0xBBE),
    (0xBD7, 0xBD7), (0xCC0, 0xCC0), (0xCC2, 0xCC2), (0xCC7, 0xCC8), (0xCCA, 0xCCB),
    (0xCD5, 0xCD6), (0xD3E, 0xD3E), (0xD57, 0xD57), (0xDCF, 0xDCF), (0xDDF, 0xDDF),
    (0x115F, 0x1160), (0x1715, 0x1715), (0x1734, 0x1734), (0x1B35, 0x1B35), (0x1B3B, 0x1B3B),
    (0x1B3D, 0x1B3D), (0x1B43, 0x1B44), (0x1BAA, 0x1BAA), (0x1BF2, 0x1BF3), (0x302E, 0x302F),
    (0x3164, 0x3164), (0xA953, 0xA953), (0xA9C0, 0xA9C0), (0xFFA0, 0xFFA0), (0x111C0, 0x111C0),
    (0x11235, 0x11235), (0x1133E, 0x1133E), (0x1134D, 0x1134D), (0x11357, 0x11357),
    (0x113B8, 0x113B8), (0x113C2, 0x113C2), (0x113C5, 0x113C5), (0x113C7, 0x113C9),
    (0x113CF, 0x113CF), (0x114B0, 0x114B0), (0x114BD, 0x114BD), (0x115AF, 0x115AF),
    (0x116B6, 0x116B6), (0x11930, 0x11930), (0x1193D, 0x1193D), (0x11F41, 0x11F41),
    (0x16FF0, 0x16FF1), (0x1D165, 0x1D166), (0x1D16D, 0x1D172)
  ]

/-- A category of characters that are not seen or join the one before them. -/
def isUnseenCategory (k : Category) : Bool :=
  [.cc, .cf, .cs, .co, .cn, .zl, .zp, .zs, .mn, .me].contains k

/-- A character past ASCII that is shown by its code. -/
def isUnseen (c : Char) : Bool :=
  0x80 ≤ c.toNat &&
    (isUnseenCategory (category c) ||
      otherUnseenRanges.any fun range => range.1 ≤ c.toNat && c.toNat ≤ range.2)

/-- A character by its code, in hexadecimal digits. -/
def byCode (c : Char) : List Char := ['\\', 'u', '\x7b'] ++ Nat.toDigits 16 c.toNat ++ ['\x7d']

/-- A character as it is shown; `single` says that single quotes get a backslash too. -/
def showChar (single : Bool) (c : Char) : List Char :=
  match c with
  | '\x00' => ['\\', '0']
  | '\t' => ['\\', 't']
  | '\r' => ['\\', 'r']
  | '\n' => ['\\', 'n']
  | '\\' => ['\\', '\\']
  | '"' => ['\\', '"']
  | '\'' => if single then ['\\', '\''] else ['\'']
  | c => if c.toNat < 0x20 || c.toNat == 0x7F || isUnseen c then byCode c else [c]

/-- A text between double quotes. -/
def showQuoted (single : Bool) (s : String) : String :=
  String.ofList ('"' :: (s.toList.flatMap (showChar single) ++ ['"']))

end Fleet.Text

namespace Fleet.Text

/-! # White space

The characters with the Unicode property White_Space, and the three ways of cutting them off
the ends of a text.  A zero-width space, a byte-order mark and the ASCII separators
U+001C to U+001F are not among them.
-/

/-- The characters with the Unicode property White_Space. -/
def isBlank (c : Char) : Bool :=
  let n := c.toNat
  (9 ≤ n && n ≤ 13) || n == 0x20 || n == 0x85 || n == 0xA0 || n == 0x1680 ||
    (0x2000 ≤ n && n ≤ 0x200A) || n == 0x2028 || n == 0x2029 || n == 0x202F || n == 0x205F ||
    n == 0x3000

/-- Drops from the end all that satisfies `p`. -/
def dropEndWhile (p : Char → Bool) (cs : List Char) : List Char :=
  (cs.reverse.dropWhile p).reverse

def trimStart (cs : List Char) : List Char := cs.dropWhile isBlank

def trimEnd (cs : List Char) : List Char := dropEndWhile isBlank cs

/-- A text without the white space around it. -/
def trim (cs : List Char) : List Char := trimEnd (trimStart cs)

/-- A text with nothing in it but white space. -/
def allBlank (cs : List Char) : Bool := cs.all isBlank

theorem dropEndWhile_append_singleton (p : Char → Bool) (cs : List Char) (c : Char) :
    dropEndWhile p (cs ++ [c]) = if p c then dropEndWhile p cs else cs ++ [c] := by
  by_cases h : p c <;> simp [dropEndWhile, h]

end Fleet.Text

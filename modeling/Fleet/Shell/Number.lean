namespace Fleet.Shell

/-! # Whole numbers

Whole numbers as programs read them: with blanks and a sign in front, and with `0x` or a zero in
front of digits that are not decimal ones.  They are kept in words of 64 bits.
-/

namespace Number

/-- The largest number in a signed word. -/
def largest : Int := 9223372036854775807

/-- The smallest number in a signed word. -/
def smallest : Int := -9223372036854775808

/-- The number that a word holds when an operation has the given result. -/
def wrap (n : Int) : Int :=
  let size : Int := 18446744073709551616
  let low := n % size
  if largest < low then low - size else low

/-- The unsigned number that a word holds. -/
def unsigned (n : Int) : Nat := (n % 18446744073709551616).toNat

/-- The number nearest to one that a word may be too short for. -/
def clamp (n : Int) : Int := max smallest (min largest n)

/-- The characters that stand before a number and are passed over. -/
def isBlank (c : Char) : Bool := c == ' ' || ('\t' ≤ c && c ≤ '\r')

/-- The digit of a character, in any base up to sixteen. -/
def digit? (base : Nat) (c : Char) : Option Nat :=
  let n :=
    if c.isDigit then c.toNat - '0'.toNat
    else if 'a' ≤ c && c ≤ 'f' then c.toNat - 'a'.toNat + 10
    else if 'A' ≤ c && c ≤ 'F' then c.toNat - 'A'.toNat + 10
    else base
  if n < base then some n else none

/-- Takes digits behind those that make `value`, at most `n`. -/
def takeDigits (base : Nat) : Nat → Nat → List Char → Nat × List Char
  | 0, value, cs => (value, cs)
  | _, value, [] => (value, [])
  | n + 1, value, c :: rest =>
    match digit? base c with
    | some d => takeDigits base n (value * base + d) rest
    | none => (value, c :: rest)

/-- Reads a number without a sign; in base zero the number itself says its base. -/
def magnitude? (base : Nat) (cs : List Char) : Option (Nat × List Char) :=
  let plain (base : Nat) (cs : List Char) : Option (Nat × List Char) :=
    match cs with
    | c :: _ =>
      if (digit? base c).isSome then some (takeDigits base cs.length 0 cs) else none
    | [] => none
  match base, cs with
  | 0, '0' :: x :: c :: rest =>
    if (x == 'x' || x == 'X') && (digit? 16 c).isSome then plain 16 (c :: rest) else plain 8 cs
  | 0, '0' :: _ => plain 8 cs
  | 0, _ => plain 10 cs
  | base, cs => plain base cs

/-- Reads a number at the start of a text, behind blanks. -/
def read? (base : Nat) (cs : List Char) : Option (Int × List Char) :=
  match cs.dropWhile isBlank with
  | '-' :: rest => (magnitude? base rest).map fun (n, rest) => (-(n : Int), rest)
  | '+' :: rest => (magnitude? base rest).map fun (n, rest) => ((n : Int), rest)
  | rest => (magnitude? base rest).map fun (n, rest) => ((n : Int), rest)

/-- The number that a text is, if a word can hold it. -/
def ofText? (base : Nat) (text : String) : Option Int :=
  match read? base text.toList with
  | some (n, rest) => if rest.all isBlank && clamp n = n then some n else none
  | none => none

/-- The number that decimal digits make; nothing else is one. -/
def natural? (text : String) : Option Nat :=
  if !text.isEmpty && text.toList.all Char.isDigit then
    some (takeDigits 10 text.length 0 text.toList).1
  else none

/-- The bits of two words, taken together. -/
def bitwise (f : Nat → Nat → Nat) (a b : Int) : Int :=
  wrap (Int.ofNat (f (unsigned a) (unsigned b)))

/-- The bits of a word, moved to the left; only the last six bits of the distance count. -/
def shiftLeft (a b : Int) : Int := wrap (a * Int.ofNat (Nat.pow 2 (unsigned b % 64)))

/-- The bits of a word, moved to the right. -/
def shiftRight (a b : Int) : Int := a / Int.ofNat (Nat.pow 2 (unsigned b % 64))

end Number

end Fleet.Shell

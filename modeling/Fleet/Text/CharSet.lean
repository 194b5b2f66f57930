namespace Fleet.Text

/-! # Sets of characters

A set of characters is given by ranges of codes, in rising order, which neither overlap nor touch
each other.  Every set has one such form, so two sets are equal if their ranges are.
-/

/-- The largest code of a character. -/
def maxCode : Nat := 0x10FFFF

/-- A set of characters, as ranges of codes with both ends included. -/
structure CharSet where
  ranges : List (Nat × Nat)
  deriving DecidableEq, Repr

namespace CharSet

/-! ## Ranges -/

/-- Puts a range before ranges that begin no earlier, and makes one of those that touch. -/
def absorb (low high : Nat) : List (Nat × Nat) → List (Nat × Nat)
  | [] => [(low, high)]
  | (a, b) :: rest =>
    if a ≤ high + 1 then absorb low (max high b) rest else (low, high) :: (a, b) :: rest

/-- The codes that lie in none of the ranges, from a code on. -/
def gapsFrom (start : Nat) : List (Nat × Nat) → List (Nat × Nat)
  | [] => if start ≤ maxCode then [(start, maxCode)] else []
  | (low, high) :: rest =>
    (if start < low then [(start, low - 1)] else []) ++ gapsFrom (high + 1) rest

/-- The codes that lie in a range of each of two lists. -/
def common (a b : List (Nat × Nat)) : List (Nat × Nat) :=
  a.flatMap fun (low, high) => b.filterMap fun (low2, high2) =>
    let range := (max low low2, min high high2)
    if range.1 ≤ range.2 then some range else none

/-! ## Sets -/

/-- The set with the codes of some ranges. -/
def ofRanges (ranges : List (Nat × Nat)) : CharSet :=
  ⟨(ranges.mergeSort fun a b => a.1 ≤ b.1).foldr (fun (low, high) rest => absorb low high rest) []⟩

/-- The characters from one up to another. -/
def range (low high : Char) : CharSet := ⟨[(low.toNat, high.toNat)]⟩

/-- One character. -/
def single (c : Char) : CharSet := range c c

/-- No character. -/
def none : CharSet := ⟨[]⟩

/-- All characters. -/
def all : CharSet := ⟨[(0, 0xD7FF), (0xE000, maxCode)]⟩

/-- The characters whose code is a byte. -/
def bytes : CharSet := ⟨[(0, 0xFF)]⟩

/-- A character is in a set. -/
def contains (s : CharSet) (c : Char) : Bool :=
  s.ranges.any fun (low, high) => low ≤ c.toNat && c.toNat ≤ high

def isEmpty (s : CharSet) : Bool := s.ranges.isEmpty

/-- Every character of a set is one of ASCII. -/
def isAscii (s : CharSet) : Bool := s.ranges.all fun (_, high) => high < 0x80

/-- The only character of a set, if it has just one. -/
def single? (s : CharSet) : Option Char :=
  match s.ranges with
  | [(low, high)] => if low = high then some (Char.ofNat low) else .none
  | _ => .none

/-- The characters of two sets. -/
def union (a b : CharSet) : CharSet := ofRanges (a.ranges ++ b.ranges)

/-- The characters that are in both of two sets. -/
def inter (a b : CharSet) : CharSet := ⟨common a.ranges b.ranges⟩

/-- The characters of a set that are not in another. -/
def diff (a b : CharSet) : CharSet := ⟨common a.ranges (gapsFrom 0 b.ranges)⟩

/-- The letters of ASCII in the other case. -/
def otherCase (s : CharSet) : CharSet :=
  let moved (low high offset : Nat) : List (Nat × Nat) :=
    (common s.ranges [(low, high)]).map fun (a, b) => (a + offset - 32, b + offset - 32)
  ofRanges (moved 0x41 0x5A 64 ++ moved 0x61 0x7A 0)

end CharSet

end Fleet.Text

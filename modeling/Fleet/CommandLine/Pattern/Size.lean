import Fleet.CommandLine.Pattern.Expression

namespace Fleet.CommandLine.Pattern

/-! # The size of a pattern

A pattern is used as a machine that reads bytes, and as a second one that reads them backwards.  A
pattern is refused if one of its machines were too large.  What a machine takes can be told from the
expression, part by part, and is the same for every copy of a part.

Characters that take several bytes are read byte by byte: `sequences` are the ranges of bytes of all
characters of a set.  Going forwards, states from where the same may follow are one; going
backwards, states with the same behind them are one.
-/

open Text (CharSet)

/-- How many bytes the machines of a pattern may take. -/
def maxSize : Nat := 10485760

/-- What a state takes. -/
def stateSize : Nat := 32

/-- What a way to another state takes, where a state has several for bytes. -/
def arrowSize : Nat := 8

/-- What a way to another state takes, where a state has several for nothing. -/
def branchSize : Nat := 4

/-! ## Characters as bytes -/

/-- How many bytes the character of a code takes. -/
def byteCount (code : Nat) : Nat :=
  if code < 0x80 then 1 else if code < 0x800 then 2 else if code < 0x10000 then 3 else 4

/-- The bytes of the character of a code. -/
def bytesOf (code : Nat) : List Nat :=
  let tail (i : Nat) : Nat := 0x80 + code >>> (6 * i) % 64
  match byteCount code with
  | 1 => [code]
  | 2 => [0xC0 + code >>> 6, tail 0]
  | 3 => [0xE0 + code >>> 12, tail 1, tail 0]
  | _ => [0xF0 + code >>> 18, tail 2, tail 1, tail 0]

/-- Where a range of codes has to be cut, since not all bytes of the same rank lie between those of
its ends: the last code before the cut. -/
def cut? (low high : Nat) : Option Nat :=
  (([0x7F, 0x7FF, 0xFFFF].find? fun m => low ≤ m && m < high)).or <|
    if high < 0x80 then none
    else [0x40, 0x1000, 0x40000].findSome? fun block =>
      if low / block = high / block then none
      else if low % block != 0 then some ((low / block + 1) * block - 1)
      else if high % block != block - 1 then some (high / block * block - 1)
      else none

/-- A range of bytes. -/
abbrev ByteRange := Nat × Nat

/-- The ranges of bytes of the characters of a range, for at most `2 ^ n` pieces of it. -/
def sequences : Nat → Nat → Nat → List (List ByteRange)
  | 0, _, _ => []
  | n + 1, low, high =>
    match cut? low high with
    | some m => sequences n low m ++ sequences n (m + 1) high
    | none => [(bytesOf low).zip (bytesOf high)]

/-- The ranges of bytes of the characters of a set. -/
def setSequences (s : CharSet) : List (List ByteRange) :=
  s.ranges.flatMap fun (low, high) => sequences 32 low high

/-- What may follow from here, and from wherever one gets in at most `n` bytes. -/
def followers : Nat → List (List ByteRange) → List (List (List ByteRange))
  | 0, _ => []
  | n + 1, here =>
    let heads := (here.filterMap List.head?).eraseDups
    if heads.isEmpty then []
    else here :: heads.flatMap fun h =>
      followers n (here.filterMap fun s => if s.head? = some h then some s.tail else none)

/-- What the states take that read a character of a set forwards. -/
def setForwards (s : CharSet) : Nat :=
  let states := (followers 4 (setSequences s)).eraseDups
  let arrows := (states.map fun here => (here.filterMap List.head?).eraseDups.length).foldl (· + ·) 0
  (1 + states.length) * stateSize + arrows * arrowSize

/-- What the states take that read a character of a set backwards. -/
def setBackwards (s : CharSet) : Nat :=
  let all := setSequences s
  let states := (all.flatMap fun bytes => (List.range bytes.length).map fun n =>
    bytes.take (n + 1)).eraseDups
  (2 + states.length) * stateSize + all.length * branchSize

/-! ## Machines -/

/-- A machine. -/
structure Machine where
  /-- it reads backwards -/
  backwards : Bool

namespace Machine

/-- What a set of characters takes in a machine. -/
def setSize (m : Machine) (s : CharSet) : Nat :=
  match s.single? with
  | some c => byteCount c.toNat * stateSize
  | none =>
    if s.isAscii then 2 * stateSize + s.ranges.length * arrowSize
    else if m.backwards then setBackwards s
    else setForwards s

/-- What a way between a state and two others takes. -/
def forkSize : Nat := stateSize + 2 * branchSize

/-- What a choice takes beside its branches. -/
def choiceSize : Nat := 2 * stateSize

/-- What an expression takes as a branch of a choice, if it takes `size` alone. -/
def asBranch (e : Expression) (size : Nat) : Nat :=
  match e with
  | .alt _ _ => size - choiceSize
  | _ => size + branchSize

/-- What something takes at least so many times, and at most so many times. -/
def repeatedSize (size : Nat) (isNeverEmpty : Bool) : Nat → Option Nat → Nat
  | 0, some 1 => size + forkSize + stateSize
  | 0, none => if isNeverEmpty then size + forkSize else size + 2 * forkSize + stateSize
  | least, none => size * least + forkSize
  | least, some most =>
    if least = most then size * least
    else max stateSize (size * least) + stateSize + (most - least) * (size + forkSize)

/-- What an expression takes in a machine.  Only the one that reads forwards remembers where groups
begin and end. -/
def size (m : Machine) : Expression → Nat
  | .empty | .look _ => stateSize
  | .one s => m.setSize s
  | .cat a b => m.size a + m.size b
  | .alt a b => asBranch a (m.size a) + asBranch b (m.size b) + choiceSize
  | .repeated r least most => repeatedSize (m.size r) r.isNeverEmpty least most
  | .group r => m.size r + if m.backwards then 0 else 2 * stateSize

/-- The expression is found at one end of a text only, where the machine begins. -/
def beginsAtEnd (m : Machine) : Expression → Bool
  | .look .textStart => !m.backwards
  | .look .textEnd => m.backwards
  | .cat a b =>
    if m.backwards then m.beginsAtEnd b || (b.isOnlyEmpty && m.beginsAtEnd a)
    else m.beginsAtEnd a || (a.isOnlyEmpty && m.beginsAtEnd b)
  | .alt a b => m.beginsAtEnd a && m.beginsAtEnd b
  | .repeated r least _ => 0 < least && m.beginsAtEnd r
  | .group r => m.beginsAtEnd r
  | _ => false

/-- What a machine takes for a pattern; one that may begin anywhere has states to get there. -/
def total (m : Machine) (e : Expression) : Nat :=
  let lead := if m.beginsAtEnd e then stateSize else 2 * stateSize + arrowSize + forkSize
  lead + m.size (.group e) + stateSize

/-- A machine is too large. -/
def isTooLarge (m : Machine) (e : Expression) : Bool := maxSize < m.total e

end Machine

end Fleet.CommandLine.Pattern

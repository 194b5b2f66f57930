import Fleet.Digest.Block

namespace Fleet.Digest

/-! # The digest SHA-1

The sixteen words of a block are made into eighty, and each of eighty steps mixes one of them into a
state of five words.
-/

namespace Sha1

/-- A word. -/
abbrev Word := BitVec 32

/-- The state: five words. -/
structure State where
  a : Word
  b : Word
  c : Word
  d : Word
  e : Word

/-- The state in the beginning. -/
def start : State := ⟨0x67452301, 0xefcdab89, 0x98badcfe, 0x10325476, 0xc3d2e1f0⟩

/-- The words of a block and `n` more. -/
def schedule : Nat → Array Word → Array Word
  | 0, ws => ws
  | n + 1, ws =>
    let back (k : Nat) : Word := (ws[ws.size - k]?).getD 0
    schedule n (ws.push ((back 3 ^^^ back 8 ^^^ back 14 ^^^ back 16).rotateLeft 1))

/-- How three words of the state are mixed in a step, and what is added. -/
def mixed (s : State) (step : Nat) : Word × Word :=
  match step / 20 with
  | 0 => ((s.b &&& s.c) ||| (~~~s.b &&& s.d), 0x5a827999)
  | 1 => (s.b ^^^ s.c ^^^ s.d, 0x6ed9eba1)
  | 2 => ((s.b &&& s.c) ||| (s.b &&& s.d) ||| (s.c &&& s.d), 0x8f1bbcdc)
  | _ => (s.b ^^^ s.c ^^^ s.d, 0xca62c1d6)

/-- One step. -/
def next (s : State) (entry : Word × Nat) : State :=
  let (word, step) := entry
  let (x, addend) := mixed s step
  ⟨s.a.rotateLeft 5 + x + s.e + addend + word, s.a, s.b.rotateLeft 30, s.c, s.d⟩

/-- The state after a block. -/
def absorb (s : State) (block : List UInt8) : State :=
  let ws := (schedule 64 (words .high block).toArray).toList
  let t := ws.zipIdx.foldl next s
  ⟨s.a + t.a, s.b + t.b, s.c + t.c, s.d + t.d, s.e + t.e⟩

/-- The digest of a message. -/
def digest (message : List UInt8) : List UInt8 :=
  let s := (pieces 64 (filled .high 64 8 message)).foldl absorb start
  bytesOf .high [s.a, s.b, s.c, s.d, s.e]

end Sha1

end Fleet.Digest

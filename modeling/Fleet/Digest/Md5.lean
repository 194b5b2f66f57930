import Fleet.Digest.Block

namespace Fleet.Digest

/-! # The digest MD5

Blocks have sixteen words of 32 bits.  Each of the 64 steps mixes one of them into a state of four
words; sixteen steps in a row do so in the same way.
-/

namespace Md5

/-- A word. -/
abbrev Word := BitVec 32

/-- The number that is added in each step. -/
def addends : List Nat :=
  [0xd76aa478, 0xe8c7b756, 0x242070db, 0xc1bdceee, 0xf57c0faf, 0x4787c62a, 0xa8304613, 0xfd469501,
    0x698098d8, 0x8b44f7af, 0xffff5bb1, 0x895cd7be, 0x6b901122, 0xfd987193, 0xa679438e, 0x49b40821,
    0xf61e2562, 0xc040b340, 0x265e5a51, 0xe9b6c7aa, 0xd62f105d, 0x02441453, 0xd8a1e681, 0xe7d3fbc8,
    0x21e1cde6, 0xc33707d6, 0xf4d50d87, 0x455a14ed, 0xa9e3e905, 0xfcefa3f8, 0x676f02d9, 0x8d2a4c8a,
    0xfffa3942, 0x8771f681, 0x6d9d6122, 0xfde5380c, 0xa4beea44, 0x4bdecfa9, 0xf6bb4b60, 0xbebfbc70,
    0x289b7ec6, 0xeaa127fa, 0xd4ef3085, 0x04881d05, 0xd9d4d039, 0xe6db99e5, 0x1fa27cf8, 0xc4ac5665,
    0xf4292244, 0x432aff97, 0xab9423a7, 0xfc93a039, 0x655b59c3, 0x8f0ccc92, 0xffeff47d, 0x85845dd1,
    0x6fa87e4f, 0xfe2ce6e0, 0xa3014314, 0x4e0811a1, 0xf7537e82, 0xbd3af235, 0x2ad7d2bb, 0xeb86d391]

/-- How far the steps of each row turn a word, four by four. -/
def turns : List (List Nat) := [[7, 12, 17, 22], [5, 9, 14, 20], [4, 11, 16, 23], [6, 10, 15, 21]]

/-- The state: four words. -/
structure State where
  a : Word
  b : Word
  c : Word
  d : Word

/-- The state in the beginning. -/
def start : State := ⟨0x67452301, 0xefcdab89, 0x98badcfe, 0x10325476⟩

/-- How three words of the state are mixed in a step, and which word of the block is taken. -/
def mixed (s : State) (step : Nat) : Word × Nat :=
  match step / 16 with
  | 0 => ((s.b &&& s.c) ||| (~~~s.b &&& s.d), step)
  | 1 => ((s.d &&& s.b) ||| (~~~s.d &&& s.c), (5 * step + 1) % 16)
  | 2 => (s.b ^^^ s.c ^^^ s.d, (3 * step + 5) % 16)
  | _ => (s.c ^^^ (s.b ||| ~~~s.d), (7 * step) % 16)

/-- One step. -/
def next (block : Array Word) (s : State) (entry : Nat × Nat) : State :=
  let (addend, step) := entry
  let (x, k) := mixed s step
  let turn := ((turns[step / 16]?.bind fun row => row[step % 4]?)).getD 0
  let sum := s.a + x + BitVec.ofNat 32 addend + (block[k]?).getD 0
  ⟨s.d, s.b + sum.rotateLeft turn, s.b, s.c⟩

/-- The state after a block. -/
def absorb (s : State) (block : List UInt8) : State :=
  let t := addends.zipIdx.foldl (next (words .low block).toArray) s
  ⟨s.a + t.a, s.b + t.b, s.c + t.c, s.d + t.d⟩

/-- The digest of a message. -/
def digest (message : List UInt8) : List UInt8 :=
  let s := (pieces 64 (filled .low 64 8 message)).foldl absorb start
  bytesOf .low [s.a, s.b, s.c, s.d]

end Md5

end Fleet.Digest

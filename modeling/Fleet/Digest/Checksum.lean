import Fleet.Digest.Block

namespace Fleet.Digest

/-! # Short checks of a message

Numbers that change if a byte does: the rest of a division of polynomials, and two kinds of sums.
-/

namespace Checksum

/-- The divisor, without its highest power. -/
def divisor : BitVec 32 := 0x04c11db7

/-- Moves a rest by one power. -/
def shift (rest : BitVec 32) : BitVec 32 :=
  if rest.msb then (rest <<< 1) ^^^ divisor else rest <<< 1

/-- Takes one more byte into a rest. -/
def divide (rest : BitVec 32) (b : UInt8) : BitVec 32 :=
  (List.range 8).foldl (fun r _ => shift r) (rest ^^^ (BitVec.ofNat 32 b.toNat <<< 24))

/-- The bytes of a length, the lowest first, as many as it needs. -/
def lengthBytes : Nat → Nat → List UInt8
  | 0, _ => []
  | n + 1, length => if length = 0 then [] else UInt8.ofNat length :: lengthBytes n (length / 256)

/-- The rest of a message with its length behind it. -/
def cyclic (message : List UInt8) : Nat :=
  (~~~((message ++ lengthBytes 8 message.length).foldl divide 0)).toNat

/-- A sum of 16 bits that is turned before each byte. -/
def turning (message : List UInt8) : Nat :=
  (message.foldl (fun (sum : BitVec 16) b => sum.rotateRight 1 + BitVec.ofNat 16 b.toNat) 0).toNat

/-- The sum of all bytes, folded to 16 bits. -/
def plain (message : List UInt8) : Nat :=
  let sum := message.foldl (fun n b => n + b.toNat) 0 % 0x100000000
  let folded := sum % 65536 + sum / 65536
  folded % 65536 + folded / 65536

end Checksum

end Fleet.Digest

namespace Fleet.Digest

/-! # Messages as blocks

A digest of a message is made block by block: the state after a block depends on the block and the
state before it.  The message is filled up to whole blocks first, so that its length is part of what
is digested and no message begins another.
-/

/-- The order of the bytes of a word. -/
inductive ByteOrder where
  /-- the lowest byte comes first -/
  | low
  /-- the highest byte comes first -/
  | high
  deriving DecidableEq, Repr

namespace ByteOrder

/-- A number in so many bytes. -/
def bytes (o : ByteOrder) (count n : Nat) : List UInt8 :=
  let low := (List.range count).map fun k => UInt8.ofNat (n >>> (8 * k))
  match o with
  | .low => low
  | .high => low.reverse

/-- The number in some bytes. -/
def number (o : ByteOrder) (bytes : List UInt8) : Nat :=
  let fromHigh := match o with
    | .low => bytes.reverse
    | .high => bytes
  fromHigh.foldl (fun n b => n * 256 + b.toNat) 0

end ByteOrder

/-- The pieces of a list with `size` elements each, the last of which may be shorter. -/
def pieces {α : Type} (size : Nat) (xs : List α) : List (List α) :=
  go xs.length xs
where
  /-- Cuts off one piece after the other, at most `n`. -/
  go : Nat → List α → List (List α)
    | 0, _ => []
    | n + 1, xs => if xs.isEmpty then [] else xs.take size :: go n (xs.drop size)

/-- A message filled up to whole blocks: a one, zeros, and how many bits it has. -/
def filled (o : ByteOrder) (blockSize lengthSize : Nat) (message : List UInt8) : List UInt8 :=
  let used := (message.length + 1 + lengthSize) % blockSize
  message ++ 0x80 :: List.replicate ((blockSize - used) % blockSize) 0 ++
    o.bytes lengthSize (message.length * 8)

/-- The words of a block. -/
def words {w : Nat} (o : ByteOrder) (block : List UInt8) : List (BitVec w) :=
  (pieces (w / 8) block).map fun bytes => BitVec.ofNat w (o.number bytes)

/-- The bytes of words. -/
def bytesOf {w : Nat} (o : ByteOrder) (ws : List (BitVec w)) : List UInt8 :=
  ws.flatMap fun x => o.bytes (w / 8) x.toNat

/-- Bytes in hexadecimal digits. -/
def hex (bytes : List UInt8) : String :=
  String.ofList (bytes.flatMap fun b =>
    [Nat.digitChar (b.toNat / 16), Nat.digitChar (b.toNat % 16)])

end Fleet.Digest

import Fleet.Digest.Block

namespace Fleet.Digest

/-! # The digests SHA-2

Digests of 224 and 256 bits have words of 32 bits, and those of 384 and 512 bits words of 64; all
are made in the same way.  The constants are bits behind the point of roots of prime numbers.
-/

namespace Sha2

/-! ## Constants -/

/-- The first `n` prime numbers. -/
def primes (n : Nat) : List Nat :=
  ((List.range 410).filter fun p => 2 ≤ p && (List.range p).all fun d => d < 2 || p % d != 0).take n

/-- The largest number below `2 ^ bits` whose power is not above another. -/
def root (power n : Nat) : Nat → Nat
  | 0 => 0
  | bits + 1 => go (bits + 1) 0
where
  /-- Settles the bits below the ones that are known. -/
  go : Nat → Nat → Nat
    | 0, known => known
    | k + 1, known =>
      let tried := known + 2 ^ k
      go k (if tried ^ power ≤ n then tried else known)

/-- So many bits behind the point of a root of a number. -/
def rootBits (power bits n : Nat) : Nat :=
  root power (n <<< (bits * power)) (bits + 5) % 1 <<< bits

/-- How a digest is made whose words have `w` bits. -/
structure Kind (w : Nat) where
  /-- the constants that are added in each step -/
  addends : List (BitVec w)
  /-- how far words are turned where the state is mixed -/
  stateTurns : List Nat × List Nat
  /-- how far words are turned where a block is made longer, and then shifted -/
  blockTurns : (Nat × Nat × Nat) × (Nat × Nat × Nat)

/-- Words of 32 bits. -/
def short : Kind 32 where
  addends := (primes 64).map fun p => BitVec.ofNat 32 (rootBits 3 32 p)
  stateTurns := ([2, 13, 22], [6, 11, 25])
  blockTurns := ((7, 18, 3), (17, 19, 10))

/-- Words of 64 bits. -/
def long : Kind 64 where
  addends := (primes 80).map fun p => BitVec.ofNat 64 (rootBits 3 64 p)
  stateTurns := ([28, 34, 39], [14, 18, 41])
  blockTurns := ((1, 8, 7), (19, 61, 6))

/-! ## Steps -/

/-- A word turned to the right in several ways, and all together. -/
def turned {w : Nat} (turns : List Nat) (x : BitVec w) : BitVec w :=
  turns.foldl (fun sum k => sum ^^^ x.rotateRight k) 0

/-- A word turned twice and shifted, and all together. -/
def shifted {w : Nat} (turns : Nat × Nat × Nat) (x : BitVec w) : BitVec w :=
  x.rotateRight turns.1 ^^^ x.rotateRight turns.2.1 ^^^ (x >>> turns.2.2)

/-- The words of a block and `n` more. -/
def schedule {w : Nat} (k : Kind w) : Nat → Array (BitVec w) → Array (BitVec w)
  | 0, ws => ws
  | n + 1, ws =>
    let back (i : Nat) : BitVec w := (ws[ws.size - i]?).getD 0
    schedule k n (ws.push (back 16 + shifted k.blockTurns.1 (back 15) + back 7 +
      shifted k.blockTurns.2 (back 2)))

/-- One step: mixes a word into a state of eight. -/
def next {w : Nat} (k : Kind w) (state : List (BitVec w)) (entry : BitVec w × BitVec w) :
    List (BitVec w) :=
  match state with
  | [a, b, c, d, e, f, g, h] =>
    let x := h + turned k.stateTurns.2 e + ((e &&& f) ^^^ (~~~e &&& g)) + entry.1 + entry.2
    let y := turned k.stateTurns.1 a + ((a &&& b) ^^^ (a &&& c) ^^^ (b &&& c))
    [x + y, a, b, c, d + x, e, f, g]
  | state => state

/-- The state after a block. -/
def absorb {w : Nat} (k : Kind w) (state : List (BitVec w)) (block : List UInt8) :
    List (BitVec w) :=
  let ws := (schedule k (k.addends.length - 16) (words .high block).toArray).toList
  List.zipWith (· + ·) state ((k.addends.zip ws).foldl (next k) state)

/-- A digest of so many bytes, from a state in the beginning. -/
def digestFrom {w : Nat} (k : Kind w) (start : List Nat) (size : Nat) (message : List UInt8) :
    List UInt8 :=
  let state := (pieces (2 * w) (filled .high (2 * w) (w / 4) message)).foldl (absorb k)
    (start.map (BitVec.ofNat w))
  (bytesOf .high state).take size

/-- Bits of the square roots of eight prime numbers, behind the first `skip` of them. -/
def roots (skip bits : Nat) : List Nat := ((primes 16).drop skip |>.take 8).map (rootBits 2 bits)

/-- The digest of 224 bits. -/
def digest224 : List UInt8 → List UInt8 := digestFrom short (roots 8 64) 28

/-- The digest of 256 bits. -/
def digest256 : List UInt8 → List UInt8 := digestFrom short (roots 0 32) 32

/-- The digest of 384 bits. -/
def digest384 : List UInt8 → List UInt8 := digestFrom long (roots 8 64) 48

/-- The digest of 512 bits. -/
def digest512 : List UInt8 → List UInt8 := digestFrom long (roots 0 64) 64

end Sha2

end Fleet.Digest

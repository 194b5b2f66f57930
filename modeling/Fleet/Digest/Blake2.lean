import Fleet.Digest.Sha2

namespace Fleet.Digest

/-! # The digest BLAKE2b

A block has sixteen words of 64 bits.  In each of twelve rounds all of them are mixed into sixteen
words, column by column and then diagonal by diagonal, each round in another order.
-/

namespace Blake2

/-- A word. -/
abbrev Word := BitVec 64

/-- The order in which the words of a block are taken in each round. -/
def orders : List (List Nat) :=
  let ten := [
    [0, 1, 2, 3, 4, 5, 6, 7, 8, 9, 10, 11, 12, 13, 14, 15],
    [14, 10, 4, 8, 9, 15, 13, 6, 1, 12, 0, 2, 11, 7, 5, 3],
    [11, 8, 12, 0, 5, 2, 15, 13, 10, 14, 3, 6, 7, 1, 9, 4],
    [7, 9, 3, 1, 13, 12, 11, 14, 2, 6, 5, 10, 4, 0, 15, 8],
    [9, 0, 5, 7, 2, 4, 10, 15, 14, 1, 11, 12, 6, 8, 3, 13],
    [2, 12, 6, 10, 0, 11, 8, 3, 4, 13, 7, 5, 15, 14, 1, 9],
    [12, 5, 1, 15, 14, 13, 4, 10, 0, 7, 6, 3, 9, 2, 8, 11],
    [13, 11, 7, 14, 12, 1, 3, 9, 5, 0, 15, 4, 8, 6, 2, 10],
    [6, 15, 14, 9, 11, 3, 0, 8, 12, 2, 13, 7, 1, 4, 10, 5],
    [10, 2, 8, 4, 7, 6, 1, 5, 15, 11, 9, 14, 3, 12, 13, 0]]
  ten ++ ten.take 2

/-- The words that are mixed with each other: the columns and then the diagonals. -/
def lanes : List (List Nat) :=
  [[0, 4, 8, 12], [1, 5, 9, 13], [2, 6, 10, 14], [3, 7, 11, 15],
    [0, 5, 10, 15], [1, 6, 11, 12], [2, 7, 8, 13], [3, 4, 9, 14]]

/-- The state in the beginning, before the size of the digest is mixed in. -/
def start : List Word := (Sha2.roots 0 64).map (BitVec.ofNat 64)

/-- Mixes two words of a block into four. -/
def mix (x y : Word) (v : Array Word) (lane : List Nat) : Array Word :=
  match lane with
  | [i, j, k, l] =>
    let at? (n : Nat) : Word := (v[n]?).getD 0
    let a := at? i + at? j + x
    let d := (at? l ^^^ a).rotateRight 32
    let c := at? k + d
    let b := (at? j ^^^ c).rotateRight 24
    let a := a + b + y
    let d := (d ^^^ a).rotateRight 16
    let c := c + d
    let b := (b ^^^ c).rotateRight 63
    (((v.setIfInBounds i a).setIfInBounds j b).setIfInBounds k c).setIfInBounds l d
  | _ => v

/-- One round. -/
def round (block : Array Word) (v : Array Word) (order : List Nat) : Array Word :=
  let word (n : Nat) : Word := (block[n]?).getD 0
  ((pieces 2 order).zip lanes).foldl (fun v (pair, lane) =>
    match pair with
    | [m, n] => mix (word m) (word n) v lane
    | _ => v) v

/-- The state after a block; `count` bytes were taken so far, and perhaps no block follows. -/
def absorb (state : List Word) (count : Nat) (isLast : Bool) (block : List UInt8) : List Word :=
  let filled := block ++ List.replicate (128 - block.length) 0
  let v := (state ++ start).toArray
  let v := v.modify 12 fun x => x ^^^ BitVec.ofNat 64 count
  let v := v.modify 13 fun x => x ^^^ BitVec.ofNat 64 (count >>> 64)
  let v := if isLast then v.modify 14 (~~~·) else v
  let v := (orders.foldl (round (words .low filled).toArray) v).toList
  List.zipWith (· ^^^ ·) state (List.zipWith (· ^^^ ·) (v.take 8) (v.drop 8))

/-- The state after the blocks of a message. -/
def absorbAll : List Word → Nat → List (List UInt8) → List Word
  | state, count, [] => absorb state count true []
  | state, count, [last] => absorb state (count + last.length) true last
  | state, count, block :: rest =>
    let count := count + block.length
    absorbAll (absorb state count false block) count rest

/-- The digest of a message in so many bytes. -/
def digest (size : Nat) (message : List UInt8) : List UInt8 :=
  let state := match start with
    | first :: rest => (first ^^^ 0x01010000 ^^^ BitVec.ofNat 64 size) :: rest
    | [] => []
  (bytesOf .low (absorbAll state 0 (pieces 128 message))).take size

end Blake2

end Fleet.Digest

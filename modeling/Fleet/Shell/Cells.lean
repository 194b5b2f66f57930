import Fleet.Shell.Number
import Fleet.Text.Utf8

namespace Fleet.Shell

/-! # Lists of values

A variable may have many values, each with a key: a number, or a name.  Numbers come in their order,
and names in the order of the buckets into which their hashes put them, the latest first in each.
-/

/-- The values of a list, by their keys. -/
inductive Cells where
  /-- with numbers in ascending order -/
  | numbered (cells : List (Nat × String))
  /-- with names, the latest first -/
  | named (cells : List (String × String))
  deriving DecidableEq, Repr

namespace Cells

/-- The hash of a name: each byte is mixed into a product with a prime. -/
def hash (name : String) : Nat :=
  ((Text.encode name).foldl (fun (h : UInt32) b => (h * 16777619) ^^^ b.toUInt32) 2166136261).toNat

/-- How many buckets there are. -/
def buckets : Nat := 1024

/-- Names in the order of their buckets. -/
def inBuckets {α : Type} (name : α → String) (xs : List α) : List α :=
  let placed := xs.map fun x => (hash (name x) % buckets, x)
  (placed.mergeSort fun a b => a.1 ≤ b.1).map (·.2)

/-- The keys and values in their order. -/
def entries : Cells → List (String × String)
  | numbered cells => cells.map fun (k, v) => (toString k, v)
  | named cells => inBuckets (·.1) cells

/-- The keys are names. -/
def isNamed : Cells → Bool
  | named _ => true
  | numbered _ => false

/-- The first number behind those that are in use. -/
def next : Cells → Nat
  | numbered cells => match cells.getLast? with
    | some (k, _) => k + 1
    | none => 0
  | named _ => 0

/-- The value of a key. -/
def get? (c : Cells) (key : String) : Option String :=
  match c with
  | numbered cells => (Number.natural? key).bind fun k => cells.lookup k
  | named cells => cells.lookup key

/-- Puts a value among numbered ones. -/
def place (k : Nat) (v : String) : List (Nat × String) → List (Nat × String)
  | [] => [(k, v)]
  | (j, w) :: rest =>
    if k < j then (k, v) :: (j, w) :: rest
    else if k = j then (k, v) :: rest
    else (j, w) :: place k v rest

/-- Gives a key a value. -/
def put (c : Cells) (key v : String) : Cells :=
  match c with
  | numbered cells => match Number.natural? key with
    | some k => numbered (place k v cells)
    | none => c
  | named cells =>
    if (cells.lookup key).isSome then
      named (cells.map fun (k, w) => (k, if k == key then v else w))
    else named ((key, v) :: cells)

/-- Takes out a key. -/
def erase (c : Cells) (key : String) : Cells :=
  match c with
  | numbered cells => numbered (cells.filter fun (k, _) => some k != Number.natural? key)
  | named cells => named (cells.filter fun (k, _) => k != key)

/-- A list with these values, from the number zero on. -/
def ofValues (values : List String) : Cells :=
  numbered (values.zipIdx.map fun (v, k) => (k, v))

end Cells

end Fleet.Shell

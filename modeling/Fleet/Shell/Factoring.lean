import Fleet.Shell.Bytes
import Fleet.Shell.Invocation

namespace Fleet.Shell

/-! # Prime factors

Small factors are found by trying them.  What is left is a prime if it passes a test for several
bases; otherwise a factor is found by following a sequence of remainders until two of them agree in
it.
-/

namespace Factoring

/-- The rest of a power. -/
def powerMod (base exponent m : Nat) : Nat :=
  go (Nat.log2 exponent + 1) 1 (base % m) exponent
where
  /-- Goes through the bits of the exponent. -/
  go : Nat → Nat → Nat → Nat → Nat
    | 0, acc, _, _ => acc % m
    | n + 1, acc, b, e => go n (if e % 2 = 1 then acc * b % m else acc) (b * b % m) (e / 2)

/-- Some square out of the next `n` is one less than nothing. -/
def reaches (m : Nat) : Nat → Nat → Bool
  | 0, x => x == m - 1
  | n + 1, x => x == m - 1 || reaches m n (x * x % m)

/-- The bases that a number is tested with; they tell primes up to eighty bits. -/
def bases : List Nat := [2, 3, 5, 7, 11, 13, 17, 19, 23, 29, 31, 37, 41]

/-- How often two divides a number, and what is left; `n` bounds how often. -/
def halved : Nat → Nat → Nat × Nat
  | 0, m => (0, m)
  | n + 1, m => if m % 2 = 1 then (0, m) else let (s, d) := halved n (m / 2); (s + 1, d)

/-- A number is a prime, as far as the test can tell. -/
def isPrime (m : Nat) : Bool :=
  if m < 2 then false
  else if bases.contains m then true
  else if m % 2 = 0 then false
  else
    let (s, d) := halved (Nat.log2 m + 1) (m - 1)
    bases.all fun a =>
      let x := powerMod a d m
      x == 1 || reaches m (s - 1) x

/-- Follows a sequence at one and at two steps until both agree in a factor. -/
def collide (m c : Nat) : Nat → Nat → Nat → Option Nat
  | 0, _, _ => none
  | n + 1, x, y =>
    let step (x : Nat) : Nat := (x * x + c) % m
    let x := step x
    let y := step (step y)
    let d := Nat.gcd (if x < y then y - x else x - y) m
    if d = m then none else if d = 1 then collide m c n x y else some d

/-- How far a sequence is followed. -/
def maxSteps : Nat := 2000000

/-- A factor of a number that is no prime. -/
def factor? (m : Nat) : Option Nat :=
  (List.range 20).findSome? fun c => collide m (c + 1) maxSteps 2 2

/-- The factors of a number that has no small ones; `n` bounds their number. -/
def largeFactors : Nat → Nat → List Nat
  | 0, m => [m]
  | n + 1, m =>
    if m < 2 then []
    else if isPrime m then [m]
    else match factor? m with
      | some d => largeFactors n d ++ largeFactors n (m / d)
      | none => [m]

/-- Takes a factor out of a number as often as it divides it; `n` bounds how often. -/
def takeOut (d : Nat) : Nat → Nat → List Nat × Nat
  | 0, m => ([], m)
  | n + 1, m =>
    if m % d = 0 then let (ds, rest) := takeOut d n (m / d); (d :: ds, rest) else ([], m)

/-- The factors up to which all are tried. -/
def maxTried : Nat := 1000

/-- The prime factors of a number in order. -/
def primeFactors (m : Nat) : List Nat :=
  if m = 0 then []
  else
    let size := Nat.log2 m + 1
    let (small, rest) := (List.range maxTried).foldl (fun (ds, rest) k =>
      let (more, rest) := takeOut (k + 2) size rest
      (ds ++ more, rest)) ([], m)
    small ++ (largeFactors size rest).mergeSort fun a b => a ≤ b

/-- The factors of a number as they are written; with exponents if `-h` asks for them. -/
def line (o : Options) (m : Nat) : String :=
  let factors := primeFactors m
  let written := if o.has 'h' then
      factors.eraseDups.map fun p =>
        let n := factors.count p
        toString p ++ if n = 1 then "" else "^" ++ toString n
    else factors.map toString
  toString m ++ ":" ++ String.join (written.map fun w => " " ++ w) ++ "\n"

/-- The number that a word is. -/
def number? (word : String) : Option Nat :=
  match word.toList.dropWhile (· == ' ') with
  | '+' :: rest => Number.natural? (String.ofList rest)
  | rest => Number.natural? (String.ofList rest)

/-- The program `factor`: the prime factors of numbers. -/
def run (i : Invocation) : Ended :=
  i.withOptions { alone := "h", long := [("exponents", 'h')] } fun o =>
    let isGap (c : Char) : Bool := c == ' ' || c == '\n' || c == '\t'
    let words := if o.words.isEmpty then
        Bytes.wordsBy isGap (Bytes.chars i.input)
      else o.words.map String.toList
    let output := words.map fun cs =>
      let word := String.ofList cs
      match number? word with
      | some m => (false, Text.encode (line o m))
      | none => i.complaint (Options.quoted word ++ " is not a valid positive integer")
    { i.ends (if output.any (·.1) then 1 else 0) with
      output, taken := if o.words.isEmpty then i.input.length else 0 }

end Factoring

end Fleet.Shell

import Fleet.Shell.Number
import Fleet.Text.Lines

namespace Fleet.Shell

/-! # Permissions

The permissions of a file are nine bits: reading, writing and running, for its owner, its group and
the others.  A mode changes them; it is an octal number, or clauses such as `u+x` with commas
between them.
-/

namespace Permission

/-- The bits of those that a letter stands for. -/
def owners? (c : Char) : Option Nat :=
  [('u', 448), ('g', 56), ('o', 7), ('a', 511)].lookup c

/-- The bits that a letter gives, for all. -/
def granted? (c : Char) : Option Nat :=
  [('r', 292), ('w', 146), ('x', 73), ('s', 0), ('t', 0)].lookup c

/-- What one class has, given to all. -/
def copied? (before : Nat) (c : Char) : Option Nat :=
  ([('u', before / 64), ('g', before / 8), ('o', before)].lookup c).map fun n => n % 8 * 73

/-- Changes some bits to others. -/
def replaced (before whose bits : Nat) : Nat :=
  Nat.lor (before - Nat.land before whose) (Nat.land whose bits)

/-- The signs of a clause and what stands behind them. -/
def signs (runs : Bool) (whom before : Nat) : Nat → List Char → Option Nat
  | 0, _ => none
  | _, [] => none
  | n + 1, sign :: rest =>
    let letters := rest.takeWhile fun c => (granted? c).isSome || c == 'X'
    let given (c : Char) : Nat :=
      (granted? c).getD (if runs || 0 < Nat.land before 73 then 73 else 0)
    let (bits, left) : Nat × List Char := match letters, rest with
      | [], c :: more => match copied? before c with
        | some bits => (bits, more)
        | none => (0, rest)
      | _, _ => ((letters.map given).foldl Nat.lor 0, rest.drop letters.length)
    let after : Option Nat := match sign with
      | '+' => some (Nat.lor before (Nat.land whom bits))
      | '-' => some (replaced before (Nat.land whom bits) 0)
      | '=' => some (replaced before whom bits)
      | _ => none
    after.bind fun after => if left.isEmpty then some after else signs runs whom after n left

/-- One clause. -/
def clause (runs : Bool) (before : Nat) (cs : List Char) : Option Nat :=
  let letters := cs.takeWhile fun c => (owners? c).isSome
  let whom := if letters.isEmpty then 511 else (letters.filterMap owners?).foldl Nat.lor 0
  signs runs whom before (cs.length + 1) (cs.drop letters.length)

/-- The permissions after a mode; `runs` if a capital X gives the right to run in any case. -/
def after? (runs : Bool) (mode : String) (before : Nat) : Option Nat :=
  let cs := mode.toList
  if !cs.isEmpty && cs.all Char.isDigit then
    match Number.magnitude? 8 cs with
    | some (n, []) => if n < 4096 then some (n % 512) else none
    | _ => none
  else (Text.splitOn ',' cs).foldl (fun before cs => before.bind fun b => clause runs b cs)
    (some before)

end Permission

end Fleet.Shell

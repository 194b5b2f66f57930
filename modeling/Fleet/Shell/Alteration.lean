import Fleet.Shell.Command
import Fleet.Shell.Group
import Fleet.Shell.Quotation

namespace Fleet.Shell

/-! # Altered values

What an extended shell makes of the value of a parameter: a part of it, other letters, or a text in
the place of what a pattern matches.  Values are taken byte by byte.
-/

namespace Alteration

/-- The characters of a value from a number on, which counts from the end if it is negative; `none`
if they would end before they begin. -/
def slice? (value : String) (start : Int) (count : Option Int) : Option String :=
  let bytes := Bytes.narrow value
  let size := Int.ofNat bytes.length
  let first := if start < 0 then size + start else start
  if first < 0 || size < first then some ""
  else
    let last := match count with
      | none => size
      | some n => if n < 0 then size + n else min size (first + n)
    if last < first then none
    else some (Bytes.widen ((bytes.drop first.toNat).take (last - first).toNat))

/-- The values from a key on, which counts from behind the last if it is negative, and at most so
many. -/
def sliceOf (entries : List (Nat × String)) (start : Int) (count : Option Nat) : List String :=
  let next := match entries.getLast? with
    | some (k, _) => Int.ofNat k + 1
    | none => 0
  let first := if start < 0 then next + start else start
  if first < 0 then []
  else
    let found := (entries.filter fun (k, _) => first ≤ Int.ofNat k).map (·.2)
    match count with
    | some n => found.take n
    | none => found

/-- A value in which the letters that a pattern matches are large or small. -/
def lettered (pattern : Shapes) (large all : Bool) (value : String) : String :=
  let change (c : Char) : Char :=
    if pattern.acceptsBytes [c] then (if large then c.toUpper else c.toLower) else c
  match Bytes.narrow value with
  | [] => value
  | c :: rest => Bytes.widen (change c :: if all then rest.map change else rest)

/-- A text that is put in the place of a piece; a sign that is not quoted stands for the piece. -/
def filled (text : List (Char × Bool)) (piece : List Char) : List Char :=
  text.flatMap fun (c, quoted) => if c == '&' && !quoted then piece else [c]

/-- The bytes of a text that is put in the place of something: backslashes quote. -/
def filling : List (Char × Bool) → List (Char × Bool)
  | [] => []
  | ('\\', false) :: (c, _) :: rest => (c, true) :: filling rest
  | m :: rest => m :: filling rest

/-- A value with a text in the place of what a pattern matches. -/
def replaced (place : Place) (pattern : Shapes) (text : List (Char × Bool)) (value : String) :
    String :=
  let bytes := (filling text).flatMap fun (c, q) => (Bytes.narrow c.toString).map fun b => (b, q)
  let cs := Bytes.narrow value
  Bytes.widen (match place with
    | .first => pattern.replacedFrom false (filled bytes) (cs.length + 1) cs
    | .everywhere => pattern.replacedFrom true (filled bytes) (cs.length + 1) cs
    | .front => pattern.replacedFront (filled bytes) cs
    | .back => pattern.replacedBack (filled bytes) cs)

/-- What a letter tells of a value that is a text. -/
def told? (letter : Char) (value : String) : Option String :=
  let large (cs : List Char) : List Char := cs.map Char.toUpper
  match letter with
  | 'Q' | 'K' | 'k' => some (Quotation.reusable value)
  | 'U' => some (String.ofList (large value.toList))
  | 'u' => some (String.ofList (large (value.toList.take 1) ++ value.toList.drop 1))
  | 'L' => some (String.ofList (value.toList.map Char.toLower))
  | 'E' | 'P' => some value
  | _ => none

end Alteration

end Fleet.Shell

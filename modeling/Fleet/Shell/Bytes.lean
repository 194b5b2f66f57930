import Fleet.Text.Lines
import Fleet.Text.Utf8

namespace Fleet.Shell

/-! # Bytes as characters

Programs work on bytes.  A byte is written as the character of its number, so that the signs of a
program can be told from its other bytes; `narrow` and `widen` lead from and to texts.
-/

namespace Bytes

/-- The characters of some bytes. -/
def chars (bytes : List UInt8) : List Char := bytes.map fun b => Char.ofNat b.toNat

/-- The bytes of some characters. -/
def ofChars (cs : List Char) : List UInt8 := cs.map fun c => UInt8.ofNat c.toNat

/-- The bytes of a text. -/
def narrow (text : String) : List Char := chars (Text.encode text)

/-- The text that bytes stand for. -/
def widen (cs : List Char) : String := String.ofList (Text.decodeLossy (ofChars cs))

/-- The lines of some bytes without their ends, and whether the last of them has one. -/
def linesBy (separator : Char) (cs : List Char) : List (List Char) × Bool :=
  let pieces := Text.splitOn separator cs
  if pieces.getLast? == some [] then (pieces.dropLast, true) else (pieces, false)

/-- The lines of some bytes without their ends. -/
def lines (cs : List Char) : List (List Char) := (linesBy '\n' cs).1

/-- Lines, each with an end. -/
def unlines (ls : List (List Char)) : List Char := ls.flatMap fun l => l ++ ['\n']

/-- Lines, each with an end but the last, which has one if `whole`. -/
def unlinesAs (whole : Bool) (ls : List (List Char)) : List Char :=
  if whole then unlines ls else Text.joinWith '\n' ls

/-- The words between gaps. -/
def wordsBy (isGap : Char → Bool) (cs : List Char) : List (List Char) :=
  (cs.foldr (fun c words =>
    if isGap c then [] :: words
    else match words with
      | [] => [[c]]
      | w :: ws => (c :: w) :: ws) [[]]).filter fun w => !w.isEmpty

/-- One text is not behind another in the order of bytes. -/
def notBehind : List Char → List Char → Bool
  | [], _ => true
  | _ :: _, [] => false
  | a :: as, b :: bs => a < b || (a == b && notBehind as bs)

/-- Texts in the order of their bytes. -/
def sorted (texts : List String) : List String :=
  ((texts.map fun text => (narrow text, text)).mergeSort fun a b => notBehind a.1 b.1).map (·.2)

/-- A text at the right end of a column. -/
def rightAligned (width : Nat) (cs : List Char) : List Char :=
  List.replicate (width - cs.length) ' ' ++ cs

/-- A number at the right end of a column. -/
def column (width n : Nat) : List Char := rightAligned width (toString n).toList

end Bytes

end Fleet.Shell

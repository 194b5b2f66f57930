namespace Fleet.Text

/-! # Lines

A line ends at a line feed; a carriage return just before the line feed belongs to the ending.
A final line feed opens no further line, and a last line without one keeps its carriage return.

Main statements: `joinWith_splitOn` (cutting loses nothing) and `notMem_of_mem_splitOn` (no piece
holds the separator).
-/

/-- Puts one more element in front of a list that is already cut. -/
def cutBefore {α : Type} [BEq α] (sep c : α) (pieces : List (List α)) : List (List α) :=
  if c == sep then [] :: pieces
  else match pieces with
    | [] => [[c]]
    | piece :: rest => (c :: piece) :: rest

/-- Cuts a list at every `sep`; there is one piece more than there are separators. -/
def splitOn {α : Type} [BEq α] (sep : α) (cs : List α) : List (List α) :=
  cs.foldr (cutBefore sep) [[]]

/-- Puts `sep` between the pieces: the inverse of `splitOn`. -/
def joinWith {α : Type} (sep : α) : List (List α) → List α
  | [] => []
  | [piece] => piece
  | piece :: pieces => piece ++ sep :: joinWith sep pieces

/-- Drops one carriage return from the end. -/
def dropReturn (line : List Char) : List Char :=
  match line.reverse with
  | '\r' :: front => front.reverse
  | _ => line

/-- The lines of a text, given as its pieces between line feeds. -/
def linesOfPieces : List (List Char) → List (List Char)
  | [] => []
  | [last] => if last.isEmpty then [] else [last]
  | piece :: pieces => dropReturn piece :: linesOfPieces pieces

/-- The lines of a text. -/
def lines (cs : List Char) : List (List Char) := linesOfPieces (splitOn '\n' cs)

section Lemmas

variable {α : Type} [BEq α]

@[simp] theorem splitOn_nil (sep : α) : splitOn sep [] = [[]] := rfl

@[simp] theorem splitOn_cons (sep c : α) (cs : List α) :
    splitOn sep (c :: cs) = cutBefore sep c (splitOn sep cs) := rfl

theorem cutBefore_ne_nil (sep c : α) (pieces : List (List α)) : cutBefore sep c pieces ≠ [] := by
  unfold cutBefore
  split
  · simp
  · split <;> simp

theorem splitOn_ne_nil (sep : α) (cs : List α) : splitOn sep cs ≠ [] := by
  cases cs with
  | nil => simp
  | cons c cs => exact cutBefore_ne_nil sep c _

/-- Nothing is lost by cutting. -/
theorem joinWith_splitOn [LawfulBEq α] (sep : α) (cs : List α) :
    joinWith sep (splitOn sep cs) = cs := by
  induction cs with
  | nil => rfl
  | cons c cs ih =>
    cases hs : splitOn sep cs with
    | nil => exact absurd hs (splitOn_ne_nil sep cs)
    | cons piece pieces =>
      rw [hs] at ih
      by_cases hc : c = sep
      · simp [hs, cutBefore, hc, joinWith, ih]
      · cases pieces with
        | nil => simpa [hs, cutBefore, hc, joinWith] using ih
        | cons p ps => simpa [hs, cutBefore, hc, joinWith] using ih

/-- No piece holds the separator. -/
theorem notMem_of_mem_splitOn [LawfulBEq α] (sep : α) (cs : List α) :
    ∀ piece ∈ splitOn sep cs, sep ∉ piece := by
  induction cs with
  | nil => simp
  | cons c cs ih =>
    cases hs : splitOn sep cs with
    | nil => exact absurd hs (splitOn_ne_nil sep cs)
    | cons piece pieces =>
      rw [hs] at ih
      by_cases hc : c = sep
      · intro q hq
        have hq : q = [] ∨ q ∈ piece :: pieces := by simpa [hs, cutBefore, hc] using hq
        rcases hq with rfl | hq
        · simp
        · exact ih q hq
      · intro q hq
        have hq : q = c :: piece ∨ q ∈ pieces := by simpa [hs, cutBefore, hc] using hq
        rcases hq with rfl | hq
        · have h1 := ih piece (by simp)
          simp [h1, Ne.symm hc]
        · exact ih q (by simp [hq])

end Lemmas

end Fleet.Text

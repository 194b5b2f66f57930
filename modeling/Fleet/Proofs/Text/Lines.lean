import Fleet.Text.Blank
import Fleet.Text.Lines
import Mathlib.Data.List.DropRight

namespace Fleet.Text

/-! # Cutting and trimming

A text that ends with its line can be followed by another: the lines of the one come first and
then those of the other (`lines_append`).  Trimming leaves a text that begins and ends with something
other than white space, so it does nothing to a text that is trimmed (`trim_trim`).  Line endings are
white space, so a text is blank exactly if its lines are (`all_allBlank_lines`).
-/

/-- A separator cuts a list in two that are cut on their own. -/
theorem splitOn_append_cons {α : Type} [BEq α] [LawfulBEq α] (sep : α) (a b : List α) :
    splitOn sep (a ++ sep :: b) = splitOn sep a ++ splitOn sep b := by
  induction a with
  | nil => simp [cutBefore]
  | cons c a ih =>
    rw [List.cons_append, splitOn_cons, splitOn_cons, ih]
    cases hs : splitOn sep a with
    | nil => exact absurd hs (splitOn_ne_nil sep a)
    | cons piece pieces => by_cases hc : c = sep <;> simp [cutBefore, hc]

/-- A list without the separator is one piece. -/
theorem splitOn_of_notMem {α : Type} [BEq α] [LawfulBEq α] {sep : α} {cs : List α}
    (h : sep ∉ cs) : splitOn sep cs = [cs] := by
  induction cs with
  | nil => rfl
  | cons c cs ih =>
    simp only [List.mem_cons, not_or] at h
    simp [ih h.2, cutBefore, Ne.symm h.1]

/-- What stands in front of a list and holds no separator belongs to its first piece. -/
theorem splitOn_append_of_notMem {α : Type} [BEq α] [LawfulBEq α] {sep : α} {a : List α}
    (h : sep ∉ a) (b : List α) : splitOn sep (a ++ b) = (splitOn sep b).modifyHead (a ++ ·) := by
  induction a with
  | nil => cases hb : splitOn sep b <;> simp [hb]
  | cons c a ih =>
    simp only [List.mem_cons, not_or] at h
    rw [List.cons_append, splitOn_cons, ih h.2]
    cases hb : splitOn sep b with
    | nil => exact absurd hb (splitOn_ne_nil sep b)
    | cons piece pieces => simp [cutBefore, Ne.symm h.1]

/-- Pieces without the separator are found again when they are joined. -/
theorem splitOn_joinWith {α : Type} [BEq α] [LawfulBEq α] {sep : α} {pieces : List (List α)}
    (hne : pieces ≠ []) (h : ∀ piece ∈ pieces, sep ∉ piece) :
    splitOn sep (joinWith sep pieces) = pieces := by
  induction pieces with
  | nil => exact absurd rfl hne
  | cons piece rest ih =>
    have hpiece := splitOn_of_notMem (h piece (by simp))
    cases rest with
    | nil => exact hpiece
    | cons next rest =>
      rw [joinWith, splitOn_append_cons, hpiece, ih (by simp) fun q hq => h q (by simp [hq])]
      · rfl
      · simp

/-- The first pieces are joined at the front of all. -/
theorem joinWith_isPrefix {α : Type} (sep : α) (front more : List (List α)) :
    joinWith sep front <+: joinWith sep (front ++ more) := by
  induction front with
  | nil => exact List.nil_prefix
  | cons piece front ih =>
    cases front with
    | nil => cases more <;> simp [joinWith]
    | cons next front => simpa [joinWith] using ih

/-- There is one piece more than there are separators. -/
theorem length_splitOn {α : Type} [BEq α] [LawfulBEq α] (sep : α) (cs : List α) :
    (splitOn sep cs).length = cs.count sep + 1 := by
  induction cs with
  | nil => rfl
  | cons c cs ih =>
    rw [splitOn_cons, List.count_cons]
    cases hs : splitOn sep cs with
    | nil => exact absurd hs (splitOn_ne_nil sep cs)
    | cons piece rest =>
      rw [hs] at ih
      by_cases hc : c = sep <;> simp [cutBefore, hc] at ih ⊢ <;> omega

/-- One more piece stands behind a separator. -/
theorem joinWith_concat {α : Type} (sep : α) {pieces : List (List α)} (hne : pieces ≠ [])
    (last : List α) : joinWith sep (pieces ++ [last]) = joinWith sep pieces ++ sep :: last := by
  induction pieces with
  | nil => exact absurd rfl hne
  | cons piece rest ih =>
    cases rest with
    | nil => simp [joinWith]
    | cons next rest => simpa [joinWith] using ih (by simp)

/-- The last piece is empty exactly if there is nothing behind the last separator. -/
theorem getLast?_splitOn_eq_nil_iff {α : Type} [BEq α] [LawfulBEq α] (sep : α) (cs : List α) :
    (splitOn sep cs).getLast? = some [] ↔ cs = [] ∨ cs.getLast? = some sep := by
  constructor
  · intro h
    obtain ⟨front, hfront⟩ := List.getLast?_eq_some_iff.1 h
    have hcs := joinWith_splitOn sep cs
    rw [hfront] at hcs
    cases front with
    | nil => exact .inl hcs.symm
    | cons piece rest =>
      rw [joinWith_concat sep (by simp)] at hcs
      exact .inr (by simp [← hcs])
  · rintro (rfl | h)
    · rfl
    · obtain ⟨front, rfl⟩ := List.getLast?_eq_some_iff.1 h
      rw [splitOn_append_cons]
      simp

/-- Texts with a separator of one character between them. -/
theorem toList_intercalate {sep : String} (c : Char) (hsep : sep.toList = [c])
    (texts : List String) :
    (sep.intercalate texts).toList = joinWith c (texts.map String.toList) := by
  induction texts with
  | nil => simp [joinWith]
  | cons text rest ih =>
    cases rest with
    | nil => simp [joinWith]
    | cons next rest =>
      rw [String.intercalate_cons_cons, String.toList_append, String.toList_append, ih, hsep]
      simp [joinWith]

/-! ## Lines -/

/-- A text whose last line has ended. -/
def EndsLine (cs : List Char) : Prop := cs = [] ∨ ∃ front, cs = front ++ ['\n']

theorem linesOfPieces_append (pieces : List (List Char)) {rest : List (List Char)}
    (hne : rest ≠ []) :
    linesOfPieces (pieces ++ rest) = pieces.map dropReturn ++ linesOfPieces rest := by
  induction pieces with
  | nil => rfl
  | cons piece pieces ih =>
    cases hp : pieces ++ rest with
    | nil => simp [hne] at hp
    | cons q qs => rw [List.cons_append, hp, linesOfPieces, ← hp, ih]; simp; simp

/-- The lines of a text that goes on after a line feed. -/
theorem lines_append_cons (a b : List Char) :
    lines (a ++ '\n' :: b) = (splitOn '\n' a).map dropReturn ++ lines b := by
  rw [lines, splitOn_append_cons, linesOfPieces_append _ (splitOn_ne_nil _ _), lines]

/-- The lines of two texts that follow one another. -/
theorem lines_append {a : List Char} (h : EndsLine a) (b : List Char) :
    lines (a ++ b) = lines a ++ lines b := by
  rcases h with rfl | ⟨front, rfl⟩
  · rfl
  · have hb := lines_append_cons front b
    have hnil := lines_append_cons front []
    rw [List.append_assoc, List.singleton_append, hb, hnil]
    simp [lines, linesOfPieces]

/-- A carriage return at the end of a line is dropped; any other line is kept. -/
theorem dropReturn_eq_or (line : List Char) :
    dropReturn line = line ∨ line = dropReturn line ++ ['\r'] := by
  unfold dropReturn
  split
  · next front hr => exact .inr (by rw [← List.reverse_reverse line, hr, List.reverse_cons])
  · exact .inl rfl

theorem mem_of_mem_dropReturn {line : List Char} {c : Char} (h : c ∈ dropReturn line) :
    c ∈ line := by
  rcases dropReturn_eq_or line with hkept | hdropped
  · exact hkept ▸ h
  · rw [hdropped]
    exact List.mem_append_left _ h

theorem mem_linesOfPieces {pieces : List (List Char)} {line : List Char}
    (h : line ∈ linesOfPieces pieces) :
    ∃ piece ∈ pieces, line = piece ∨ line = dropReturn piece := by
  induction pieces with
  | nil => cases h
  | cons piece pieces ih =>
    cases pieces with
    | nil =>
      simp only [linesOfPieces] at h
      split at h
      · cases h
      · exact ⟨piece, by simp, .inl (by simpa using h)⟩
    | cons q qs =>
      rcases List.mem_cons.1 h with rfl | h
      · exact ⟨piece, by simp, .inr rfl⟩
      · obtain ⟨p, hp, hline⟩ := ih h
        exact ⟨p, by simp [hp], hline⟩

/-- No line holds a line feed. -/
theorem notMem_of_mem_lines {cs line : List Char} (h : line ∈ lines cs) : '\n' ∉ line := by
  obtain ⟨piece, hp, rfl | rfl⟩ := mem_linesOfPieces h
  · exact notMem_of_mem_splitOn _ _ _ hp
  · exact fun hmem => notMem_of_mem_splitOn _ _ _ hp (mem_of_mem_dropReturn hmem)

/-! ## Trimming -/

theorem trimEnd_isPrefix (cs : List Char) : trimEnd cs <+: cs := cs.rdropWhile_prefix _

theorem mem_of_mem_trim {cs : List Char} {c : Char} (h : c ∈ trim cs) : c ∈ cs :=
  (List.dropWhile_suffix _).subset ((trimEnd_isPrefix _).subset h)

/-- There is no white space at the beginning, so there is none when the end is cut off. -/
theorem trimStart_trimEnd {cs : List Char} (h : trimStart cs = cs) :
    trimStart (trimEnd cs) = trimEnd cs := by
  obtain ⟨back, hback⟩ := trimEnd_isPrefix cs
  cases ht : trimEnd cs with
  | nil => rfl
  | cons c rest =>
    have hc : isBlank c = false := by
      have hcs : cs = c :: (rest ++ back) := by rw [← hback, ht]; rfl
      cases hb : isBlank c with
      | false => rfl
      | true =>
        -- white space at the beginning would have been trimmed, and the text become shorter
        rw [hcs, trimStart, List.dropWhile_cons_of_pos hb] at h
        have := congrArg List.length h
        have hsuffix : (rest ++ back).dropWhile isBlank <:+ rest ++ back := List.dropWhile_suffix _
        have hle := hsuffix.length_le
        simp only [List.length_cons] at this
        omega
    simp [trimStart, hc]

/-- What is trimmed needs no more trimming. -/
theorem trim_trim (cs : List Char) : trim (trim cs) = trim cs := by
  have h : trimStart (trimStart cs) = trimStart cs := List.dropWhile_idempotent _ _
  have hend : trimEnd (trimEnd (trimStart cs)) = trimEnd (trimStart cs) :=
    List.rdropWhile_idempotent _ _
  rw [trim, trim, trimStart_trimEnd h, hend]

theorem trimEnd_append_blank (cs : List Char) {c : Char} (h : isBlank c = true) :
    trimEnd (cs ++ [c]) = trimEnd cs := by
  rw [trimEnd, dropEndWhile_append_singleton, if_pos h]
  rfl

/-- White space behind a text is cut off. -/
theorem trimEnd_append_blanks (cs : List Char) {blanks : List Char}
    (h : ∀ c ∈ blanks, isBlank c = true) : trimEnd (cs ++ blanks) = trimEnd cs := by
  induction blanks using List.reverseRecOn with
  | nil => rw [List.append_nil]
  | append_singleton blanks c ih =>
    rw [← List.append_assoc, trimEnd_append_blank _ (h c (by simp)),
      ih fun c hc => h c (by simp [hc])]

/-- A text that does not end with white space is left as it is. -/
theorem trimEnd_eq_self {cs : List Char} (h : ∀ c, cs.getLast? = some c → isBlank c = false) :
    trimEnd cs = cs := by
  rcases List.eq_nil_or_concat cs with rfl | ⟨front, c, rfl⟩
  · rfl
  · rw [List.concat_eq_append] at h ⊢
    rw [trimEnd, dropEndWhile_append_singleton, h c (by simp)]
    rfl

/-- What is cut off is white space, and what is left does not end with any. -/
theorem trimEnd_spec (cs : List Char) :
    (∃ blanks, trimEnd cs ++ blanks = cs ∧ ∀ c ∈ blanks, isBlank c = true) ∧
      ∀ c, (trimEnd cs).getLast? = some c → isBlank c = false := by
  refine ⟨⟨cs.rtakeWhile isBlank, List.rdropWhile_append_rtakeWhile ..,
    fun c hc => List.mem_rtakeWhile_imp hc⟩, fun c hc => ?_⟩
  have hne : trimEnd cs ≠ [] := by
    intro hnil
    simp [hnil] at hc
  have hnot := List.rdropWhile_last_not isBlank cs hne
  rw [List.getLast?_eq_some_getLast hne, Option.some_inj] at hc
  rw [← hc]
  exact Bool.eq_false_iff.2 hnot

theorem trimEnd_cons {c : Char} (h : isBlank c = false) (cs : List Char) :
    trimEnd (c :: cs) = c :: trimEnd cs := by
  rw [trimEnd, dropEndWhile, List.reverse_cons, List.dropWhile_append]
  split
  · next hnil =>
    have hall : trimEnd cs = [] := by simpa [trimEnd, dropEndWhile] using hnil
    simp [hall, h]
  · simp [trimEnd, dropEndWhile]

/-- A carriage return at the end of a line makes no difference to the trimmed line. -/
theorem trim_dropReturn (line : List Char) : trim (dropReturn line) = trim line := by
  rcases dropReturn_eq_or line with hkept | hdropped
  · rw [hkept]
  · conv_rhs => rw [hdropped, trim, trimStart, List.dropWhile_append]
    -- if all in front of the carriage return is white space, nothing is left of either line
    split
    · next hnil =>
      rw [List.isEmpty_iff] at hnil
      rw [trim, trimStart, hnil]
      rfl
    · rw [trimEnd_append_blank _ (by decide), trim, trimStart]

/-! ## Blank lines -/

theorem allBlank_dropReturn (line : List Char) : allBlank (dropReturn line) = allBlank line := by
  rcases dropReturn_eq_or line with hkept | hdropped
  · rw [hkept]
  · have hreturn : ['\r'].all isBlank = true := by decide
    conv_rhs => rw [hdropped, allBlank, List.all_append, hreturn, Bool.and_true]
    rfl

/-- What a carriage return makes no difference to holds of all lines if it holds of all pieces. -/
theorem all_linesOfPieces {p : List Char → Bool} (hreturn : ∀ line, p (dropReturn line) = p line)
    (hnil : p [] = true) (pieces : List (List Char)) :
    (linesOfPieces pieces).all p = pieces.all p := by
  induction pieces with
  | nil => rfl
  | cons piece pieces ih =>
    cases pieces with
    | nil => cases piece <;> simp [linesOfPieces, hnil]
    | cons next rest => simp [linesOfPieces, hreturn, ih]

/-- A line feed is blank, so it makes no difference between blank pieces. -/
theorem allBlank_joinWith (pieces : List (List Char)) :
    allBlank (joinWith '\n' pieces) = pieces.all allBlank := by
  induction pieces with
  | nil => rfl
  | cons piece pieces ih =>
    cases pieces with
    | nil => simp [joinWith]
    | cons next rest =>
      have hfeed : isBlank '\n' = true := by decide
      simp only [allBlank] at ih
      simp [joinWith, allBlank, ih, hfeed]

/-- A text is blank if all of its lines are. -/
theorem all_allBlank_lines (cs : List Char) : (lines cs).all allBlank = allBlank cs := by
  rw [lines, all_linesOfPieces allBlank_dropReturn rfl, ← allBlank_joinWith, joinWith_splitOn]

end Fleet.Text

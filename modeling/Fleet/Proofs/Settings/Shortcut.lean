import Fleet.Settings.Reading
import Fleet.Proofs.Text.Lines
import Fleet.Proofs.Yaml.Remarks

namespace Fleet.Settings

/-! # The shortcut for files without settings

A settings file in which every line is blank or begins with `#` is taken to hold no key, and is not
read as a document.  Lines, white space and comments are not the same for a document, though: other
breaks than a line feed end a line, and with it a comment, and a `#` begins a comment only behind
white space that a document knows.  `HasSlip` says which lines make a difference.

Where there is no such line, a document holds no key either; but the shortcut is more lenient
(`shortcut_without_slips`): a document would be at fault with any white space that is not a space.
-/

open Text (isBlank joinWith linesOfPieces lines splitOn)
open Yaml (Document Place isBreak isGap remarks)

variable {line text white : List Char} {place : Place}

/-! ## Idle lines -/

theorem isIdleLine_cons {c : Char} (h : isBlank c = false) (cs : List Char) :
    isIdleLine (c :: cs) = (c == '#') := by
  rw [isIdleLine, Text.trim, Text.trimStart, List.dropWhile_cons_of_neg (by simp [h]),
    Text.trimEnd_cons h]

/-- A line is idle if it is white space, perhaps with a `#` and a comment behind it. -/
theorem exists_of_isIdleLine (h : isIdleLine line = true) :
    ∃ white, (∀ c ∈ white, isBlank c = true) ∧
      (line = white ∨ ∃ comment, line = white ++ '#' :: comment) := by
  refine ⟨line.takeWhile isBlank, fun c hc => List.mem_takeWhile_imp hc, ?_⟩
  have hline := List.takeWhile_append_dropWhile (p := isBlank) (l := line)
  cases hmore : line.dropWhile isBlank with
  | nil =>
    rw [hmore, List.append_nil] at hline
    exact .inl hline.symm
  | cons c comment =>
    have hc : isBlank c = false := by
      have hnot := List.head?_dropWhile_not isBlank line
      simpa [hmore] using hnot
    have hsign : c = '#' := by
      rw [isIdleLine, Text.trim, Text.trimStart, hmore, Text.trimEnd_cons hc] at h
      exact beq_iff_eq.1 h
    rw [hmore, hsign] at hline
    exact .inr ⟨comment, hline.symm⟩

/-- A text has idle lines if all its pieces between line feeds are idle. -/
theorem all_isIdleLine_lines (text : List Char) :
    (lines text).all isIdleLine = (splitOn '\n' text).all isIdleLine := by
  refine Text.all_linesOfPieces (fun line => ?_) rfl _
  rw [isIdleLine, Text.trim_dropReturn, isIdleLine]

/-! ## Slips -/

/-- The line holds more than white space and a comment for a document: the `#` is no beginning of a
comment, or the comment ends before the line does. -/
def HasSlip (line : List Char) : Prop :=
  ∃ white comment, line = white ++ '#' :: comment ∧ (∀ c ∈ white, isBlank c = true) ∧
    ((∃ c, white.getLast? = some c ∧ isGap c = false) ∨
      ∃ front c rest, comment = front ++ c :: rest ∧ isBreak c = true ∧
        remarks isBlank .behindGap rest = false)

/-- The place behind white space depends on its last character alone. -/
def behindBlank (white : List Char) (place : Place) : Place :=
  (white.getLast?.map fun c => .after (isGap c)).getD place

theorem behindBlank_ne (hplace : place ≠ .inComment) : behindBlank white place ≠ .inComment := by
  unfold behindBlank
  cases white.getLast? with
  | none => exact hplace
  | some c => exact Place.after_ne _

/-- White space is passed. -/
theorem remarks_append_of_blank (hplace : place ≠ .inComment)
    (hwhite : ∀ c ∈ white, isBlank c = true) (rest : List Char) :
    remarks isBlank place (white ++ rest) = remarks isBlank (behindBlank white place) rest := by
  induction white generalizing place with
  | nil => rfl
  | cons c white ih =>
    rw [List.forall_mem_cons] at hwhite
    have hsign : c ≠ '#' := by
      rintro rfl
      exact absurd hwhite.1 (by decide)
    have hpassed : remarks isBlank place (c :: (white ++ rest)) =
        remarks isBlank (.after (isGap c)) (white ++ rest) := by
      by_cases hbreak : isBreak c = true
      · rw [Yaml.remarks_break hbreak, isGap, hbreak, Bool.or_true]
        rfl
      · rw [Bool.not_eq_true] at hbreak
        rw [isGap, hbreak, Bool.or_false, Bool.eq_iff_iff, Yaml.remarks_cons hplace hbreak]
        simp [hsign, hwhite.1, Place.behind]
    rw [List.cons_append, hpassed, ih (Place.after_ne _) hwhite.2, behindBlank, behindBlank,
      List.getLast?_cons]
    cases white.getLast? <;> rfl

/-- A comment may be as long as its line if only remarks follow every break in it. -/
theorem remarks_inComment {comment : List Char}
    (h : ∀ front c rest, comment = front ++ c :: rest → isBreak c = true →
      remarks isBlank .behindGap rest = true) :
    remarks isBlank .inComment comment = true := by
  induction comment with
  | nil => rfl
  | cons c comment ih =>
    by_cases hbreak : isBreak c = true
    · rw [Yaml.remarks_break hbreak]
      exact h [] c comment rfl hbreak
    · rw [Yaml.remarks_comment (by simpa using hbreak)]
      exact ih fun front d rest heq => h (c :: front) d rest (by rw [heq, List.cons_append])

/-- An idle line is white space and comments for a document too if it has no slip. -/
theorem remarks_of_not_hasSlip (hidle : isIdleLine line = true) (hslip : ¬ HasSlip line) :
    remarks isBlank .behindGap line = true := by
  obtain ⟨white, hwhite, rfl | ⟨comment, rfl⟩⟩ := exists_of_isIdleLine hidle
  · have hend := remarks_append_of_blank (show Place.behindGap ≠ .inComment by decide) hwhite []
    rwa [List.append_nil] at hend
  · have hgap : behindBlank white .behindGap = .behindGap := by
      unfold behindBlank
      cases hlast : white.getLast? with
      | none => rfl
      | some c =>
        have hc : isGap c = true := by
          by_contra hc
          exact hslip ⟨white, comment, rfl, hwhite, .inl ⟨c, hlast, by simpa using hc⟩⟩
        simp [hc, Place.after]
    rw [remarks_append_of_blank (by decide) hwhite, hgap, Yaml.remarks_cons (by decide) (by decide)]
    refine .inl ⟨rfl, rfl, remarks_inComment fun front c rest heq hbreak => ?_⟩
    by_contra hrest
    exact hslip ⟨white, comment, rfl, hwhite,
      .inr ⟨front, c, rest, heq, hbreak, by simpa using hrest⟩⟩

/-- A line with a slip is more than that. -/
theorem not_hasSlip_of_remarks (h : remarks isBlank .behindGap line = true) : ¬ HasSlip line := by
  rintro ⟨white, comment, rfl, hwhite, hslip⟩
  rw [remarks_append_of_blank (by decide) hwhite] at h
  obtain ⟨-, hgap, hcomment⟩ | ⟨hother, -⟩ :=
    (Yaml.remarks_cons (behindBlank_ne (by decide)) (by decide)).1 h
  · obtain ⟨c, hlast, hc⟩ | ⟨front, c, rest, rfl, hbreak, hrest⟩ := hslip
    · simp [behindBlank, hlast, hc, Place.after] at hgap
    · simp [Yaml.remarks_append_break hbreak, hrest] at hcomment
  · exact hother rfl

/-- A line feed ends every comment. -/
theorem remarks_joinWith (pieces : List (List Char)) :
    remarks isBlank .behindGap (joinWith '\n' pieces) =
      pieces.all (remarks isBlank .behindGap) := by
  induction pieces with
  | nil => rfl
  | cons piece pieces ih =>
    cases pieces with
    | nil => simp [joinWith]
    | cons next rest =>
      have hjoin : joinWith '\n' (piece :: next :: rest) =
          piece ++ '\n' :: joinWith '\n' (next :: rest) := rfl
      rw [hjoin, Yaml.remarks_append_break (by decide), ih]
      rfl

theorem remarks_of_shortcut (hidle : (lines text).all isIdleLine = true)
    (hslips : ∀ line ∈ splitOn '\n' text, ¬ HasSlip line) :
    remarks isBlank .behindGap text = true := by
  rw [all_isIdleLine_lines, List.all_eq_true] at hidle
  rw [← Text.joinWith_splitOn '\n' text, remarks_joinWith, List.all_eq_true]
  exact fun line hline => remarks_of_not_hasSlip (hidle line hline) (hslips line hline)

/-! ## Agreement -/

/-- A flaw of the text is an error, whatever was read in front of it. -/
theorem readDocument_of_flaw {d : Document} (h : d.flaw ≠ none) :
    ∃ error, readDocument d = .error error := by
  obtain ⟨flaw, hflaw⟩ := Option.ne_none_iff_exists'.1 h
  have hbehind : ∀ read : Except FileError Given, ∃ error : FileError,
      (read.bind fun _ => .error (.malformed flaw) : Except FileError Given) = .error error := by
    rintro (error | given)
    · exact ⟨error, rfl⟩
    · exact ⟨.malformed flaw, rfl⟩
  rw [readDocument, hflaw]
  split
  · exact hbehind (.error _)
  · split
    · exact hbehind (readFields ..)
    · exact hbehind (.ok [])
    · exact hbehind (.error _)

/-- A text is not what the settings themselves can be. -/
theorem readDocument_of_text {d : Document} {said : String} {mark : Yaml.Mark} (hsaid : said ≠ "")
    (hitems : d.items = [⟨.scalar none said .plain, mark⟩]) :
    ∃ error, readDocument d = .error error := by
  rw [readDocument, hitems]
  dsimp only
  split
  · next h => cases h
  · next h =>
    simp only [Yaml.Item.scalar.injEq] at h
    exact absurd h.2.1 hsaid
  · exact ⟨_, rfl⟩

/-- A text that the shortcut is taken for, and in which no line has a slip, holds no key for a
document either: there is nothing in it but texts and the end.  The document says the same as the
shortcut, the defaults, exactly if its white space is spaces and all its characters are allowed. -/
theorem shortcut_without_slips (text : String) (hidle : (lines text.toList).all isIdleLine = true)
    (hslips : ∀ line ∈ splitOn '\n' text.toList, ¬ HasSlip line) :
    parse text = .ok {} ∧
      (∀ token ∈ (Yaml.tokens text.toList).1, token.kind = .streamEnd ∨ Yaml.Lexer.IsText token) ∧
      ((readDocument (Document.ofText text.toList)).map ofGiven = parse text ↔
        text.toList.all Yaml.isAllowed = true ∧
          remarks (· == ' ') .behindGap text.toList = true) := by
  have hremarks := remarks_of_shortcut hidle hslips
  have hparse : parse text = .ok {} := by rw [parse, if_pos hidle]
  refine ⟨hparse, Yaml.tokens_of_remarks hremarks, ?_⟩
  rw [hparse]
  constructor
  · intro hread
    by_contra hnot
    have hother : text.toList.all Yaml.isAllowed = false ∨
        remarks (· == ' ') .behindGap text.toList = false := by
      by_cases hallowed : text.toList.all Yaml.isAllowed = true
      · exact .inr (Bool.eq_false_iff.2 fun hspaces => hnot ⟨hallowed, hspaces⟩)
      · exact .inl (Bool.eq_false_iff.2 hallowed)
    obtain ⟨error, herror⟩ : ∃ error,
        readDocument (Document.ofText text.toList) = .error error := by
      obtain hflaw | ⟨said, mark, hsaid, hitems⟩ := Yaml.ofText_of_not_spaces hremarks hother
      · exact readDocument_of_flaw hflaw
      · exact readDocument_of_text hsaid hitems
    rw [herror] at hread
    cases hread
  · rintro ⟨hallowed, hspaces⟩
    rw [Yaml.ofText_of_spaces hallowed hspaces]
    rfl

theorem shortcut_without_slips_sample :
    let text := "\u2003\n # work_dir: x\r\n"
    parse text = .ok {} ∧
      (∀ token ∈ (Yaml.tokens text.toList).1, token.kind ≠ .key) ∧
      (readDocument (Document.ofText text.toList)).map ofGiven ≠ parse text := by
  intro text
  have hslips : ∀ line ∈ splitOn '\n' text.toList, ¬ HasSlip line := fun line hline =>
    not_hasSlip_of_remarks (List.all_eq_true.1 (by decide +kernel) line hline)
  obtain ⟨hparse, htokens, hagree⟩ := shortcut_without_slips text (by decide +kernel) hslips
  refine ⟨hparse, fun token htoken hkey => ?_, fun hread => ?_⟩
  · obtain hend | ⟨said, -, htext⟩ := htokens token htoken
    · exact absurd (hkey.symm.trans hend) (by decide)
    · exact absurd (hkey.symm.trans htext) (by simp)
  · exact absurd (hagree.1 hread).2 (by decide +kernel)

/-- With a carriage return in a comment a setting is discarded. -/
example : parse "#\rwork_dir: x" = .ok {} ∧
    (readDocument (Document.ofText "#\rwork_dir: x".toList)).map ofGiven =
      .ok { workDir := ⟨"x"⟩ } := by decide +kernel

end Fleet.Settings

import Fleet.Description
import Fleet.Proofs.Text.Lines

namespace Fleet

/-! # What a description holds

A description is blank lines, the first line that is not blank, and the rest
(`Description.IsMadeOf`).  Of the line the title keeps what stands between the heading marks and the
white space at its end (`Description.IsTitle`).  The body keeps the rest, except that all lines end
alike and the last end is dropped: `Text.joinWith_lines` says so for the lines of any text.

`Description.parse_splits` puts these together: nothing else is lost, added or changed.
-/

namespace Text

variable {cs piece rest : List Char}

/-! ## The ends of lines -/

/-- Ends every line with a line feed alone. -/
def unifyEndings : List Char → List Char
  | '\r' :: '\n' :: rest => '\n' :: unifyEndings rest
  | c :: rest => c :: unifyEndings rest
  | [] => []

/-- Drops one line feed from the end. -/
def dropFeed (cs : List Char) : List Char := if cs.getLast? = some '\n' then cs.dropLast else cs

theorem unifyEndings_cons {c : Char} (h : c ≠ '\r' ∨ rest.head? ≠ some '\n') :
    unifyEndings (c :: rest) = c :: unifyEndings rest := by
  refine unifyEndings.eq_2 c rest ?_
  rintro rest' rfl rfl
  simp at h

/-- What holds no line feed is kept, unless it ends with a carriage return that belongs to one. -/
theorem unifyEndings_append (hpiece : '\n' ∉ piece)
    (h : piece.getLast? ≠ some '\r' ∨ rest.head? ≠ some '\n') :
    unifyEndings (piece ++ rest) = piece ++ unifyEndings rest := by
  induction piece with
  | nil => rfl
  | cons c piece ih =>
    simp only [List.mem_cons, not_or] at hpiece
    cases piece with
    | nil =>
      refine unifyEndings_cons (h.imp_left fun hlast => ?_)
      simpa using hlast
    | cons d piece =>
      have hd : d ≠ '\n' := fun he => hpiece.2 (by simp [he])
      rw [List.cons_append, unifyEndings_cons (.inr (by simpa using hd)),
        ih hpiece.2 (by simpa using h)]
      rfl

/-- Without a line feed there is no line to end. -/
theorem unifyEndings_of_notMem (h : '\n' ∉ cs) : unifyEndings cs = cs := by
  have hkept : unifyEndings (cs ++ []) = cs ++ unifyEndings [] :=
    unifyEndings_append h (.inr (by simp))
  rwa [List.append_nil, unifyEndings, List.append_nil] at hkept

theorem unifyEndings_append_feed (h : '\n' ∉ piece) (rest : List Char) :
    unifyEndings (piece ++ '\n' :: rest) = dropReturn piece ++ '\n' :: unifyEndings rest := by
  by_cases hlast : piece.getLast? = some '\r'
  · obtain ⟨front, rfl⟩ := List.getLast?_eq_some_iff.1 hlast
    have hdropped : dropReturn (front ++ ['\r']) = front := by simp [dropReturn]
    have hfront : '\n' ∉ front := fun hmem => h (by simp [hmem])
    rw [List.append_assoc, unifyEndings_append hfront (.inr (by simp)), hdropped]
    rfl
  · have hkept : dropReturn piece = piece := by
      rcases List.eq_nil_or_concat piece with rfl | ⟨front, c, rfl⟩
      · rfl
      · have hc : c ≠ '\r' := by simpa using hlast
        simp [dropReturn, hc]
    rw [unifyEndings_append h (.inl hlast), hkept, unifyEndings_cons (.inl (by decide))]

theorem unifyEndings_ne_nil (h : cs ≠ []) : unifyEndings cs ≠ [] := by
  fun_cases unifyEndings cs with
  | case1 rest => simp
  | case2 c rest _ => simp
  | case3 => exact absurd rfl h

theorem dropFeed_of_notMem (h : '\n' ∉ cs) : dropFeed cs = cs :=
  if_neg fun he => h (List.mem_of_mem_getLast? he)

/-- A line feed with something behind it is not the last. -/
theorem dropFeed_append_cons (a : List Char) (c : Char) (h : rest ≠ []) :
    dropFeed (a ++ c :: rest) = a ++ c :: dropFeed rest := by
  have hlast : (a ++ c :: rest).getLast? = rest.getLast? := by
    obtain ⟨d, ds, rfl⟩ := List.exists_cons_of_ne_nil h
    rw [List.getLast?_append_cons, List.getLast?_cons_cons]
  unfold dropFeed
  rw [hlast]
  split
  · rw [List.dropLast_append_of_ne_nil (by simp), List.dropLast_cons_of_ne_nil h]
  · rfl

/-- Only an empty piece is no line. -/
theorem linesOfPieces_eq_nil {pieces : List (List Char)}
    (h : linesOfPieces (piece :: pieces) = []) : piece = [] ∧ pieces = [] := by
  cases pieces with
  | nil => simpa [linesOfPieces] using h
  | cons next rest => cases h

/-- Joined again, the lines of a text are the text with all lines ended alike, without the last of
these ends. -/
theorem joinWith_lines (cs : List Char) :
    joinWith '\n' (lines cs) = dropFeed (unifyEndings cs) := by
  suffices h : ∀ pieces : List (List Char), pieces ≠ [] → (∀ piece ∈ pieces, '\n' ∉ piece) →
      joinWith '\n' (linesOfPieces pieces) = dropFeed (unifyEndings (joinWith '\n' pieces)) by
    have := h _ (splitOn_ne_nil '\n' cs) (notMem_of_mem_splitOn '\n' cs)
    rwa [joinWith_splitOn] at this
  intro pieces hne hpieces
  induction pieces with
  | nil => exact absurd rfl hne
  | cons piece rest ih =>
    rw [List.forall_mem_cons] at hpieces
    cases rest with
    | nil =>
      rw [joinWith, unifyEndings_of_notMem hpieces.1, dropFeed_of_notMem hpieces.1]
      cases piece <;> rfl
    | cons next rest =>
      have ih := ih (by simp) hpieces.2
      have hjoin : joinWith '\n' (piece :: next :: rest) =
          piece ++ '\n' :: joinWith '\n' (next :: rest) := rfl
      have hlines : linesOfPieces (piece :: next :: rest) =
          dropReturn piece :: linesOfPieces (next :: rest) := rfl
      rw [hjoin, unifyEndings_append_feed hpieces.1, hlines]
      cases hmore : linesOfPieces (next :: rest) with
      | nil =>
        -- the piece is the last line, and its end is the one that is dropped
        obtain ⟨rfl, rfl⟩ := linesOfPieces_eq_nil hmore
        simp [joinWith, unifyEndings, dropFeed]
      | cons line more =>
        have hlast : joinWith '\n' (next :: rest) ≠ [] := by
          intro hnil
          have hpiece := splitOn_joinWith (by simp) hpieces.2
          rw [hnil, splitOn_nil] at hpiece
          rw [← hpiece] at hmore
          cases hmore
        rw [dropFeed_append_cons _ _ (unifyEndings_ne_nil hlast), ← ih, hmore]
        rfl

end Text

namespace Description

open Text (EndsLine allBlank dropReturn isBlank lines trimEnd)

variable {text blank line ending rest title : List Char}

/-! ## The title -/

/-- A title and the line that it stands in: in front of it are only `#` and white space, behind it
only white space, and it neither begins with the one nor ends with the other. -/
structure IsTitle (line title : List Char) : Prop where
  between : ∃ front back, line = front ++ title ++ back ∧
    (∀ c ∈ front, c = '#' ∨ isBlank c = true) ∧ ∀ c ∈ back, isBlank c = true
  head : ∀ c, title.head? = some c → c ≠ '#' ∧ isBlank c = false
  last : ∀ c, title.getLast? = some c → isBlank c = false

theorem isHeading_iff {c : Char} : isHeading c = true ↔ c = '#' ∨ isBlank c = true := by
  simp [isHeading]

/-- A line has one title. -/
theorem IsTitle.eq (h : IsTitle line title) : title = trimEnd (line.dropWhile isHeading) := by
  obtain ⟨⟨front, back, rfl, hfront, hback⟩, hhead, hlast⟩ := h
  have hfront : ∀ c ∈ front, isHeading c = true := fun c hc => isHeading_iff.2 (hfront c hc)
  rw [List.append_assoc, List.dropWhile_append_of_pos hfront]
  cases title with
  | nil =>
    have hdropped : back.dropWhile isHeading = [] :=
      List.dropWhile_eq_nil_iff.2 fun c hc => isHeading_iff.2 (.inr (hback c hc))
    rw [List.nil_append, hdropped]
    rfl
  | cons c title =>
    have hc : isHeading c = false := by simpa [isHeading] using hhead c rfl
    rw [List.cons_append, List.dropWhile_cons_of_neg (by simp [hc]), ← List.cons_append,
      Text.trimEnd_append_blanks _ hback, Text.trimEnd_eq_self hlast]

/-- What is left of a line is its title. -/
theorem isTitle_trimEnd (line : List Char) :
    IsTitle line (trimEnd (line.dropWhile isHeading)) := by
  obtain ⟨⟨back, hback, hblank⟩, hlast⟩ := Text.trimEnd_spec (line.dropWhile isHeading)
  refine ⟨⟨line.takeWhile isHeading, back, ?_,
    fun c hc => isHeading_iff.1 (List.mem_takeWhile_imp hc), hblank⟩, fun c hc => ?_, hlast⟩
  · rw [List.append_assoc, hback, List.takeWhile_append_dropWhile]
  · have hnot := List.head?_dropWhile_not isHeading line
    rw [← hback, List.head?_append, hc] at hnot
    simpa [isHeading] using hnot

/-- A carriage return at the end of a line is no part of its title. -/
theorem IsTitle.of_dropReturn (h : IsTitle (dropReturn line) title) : IsTitle line title := by
  obtain ⟨⟨front, back, hline, hfront, hback⟩, hhead, hlast⟩ := h
  refine ⟨?_, hhead, hlast⟩
  rcases Text.dropReturn_eq_or line with hkept | hdropped
  · exact ⟨front, back, hkept ▸ hline, hfront, hback⟩
  · refine ⟨front, back ++ ['\r'], ?_, hfront, ?_⟩
    · rw [hdropped, hline, List.append_assoc]
    · rw [List.forall_mem_append]
      exact ⟨hback, by simp [isBlank]⟩

/-! ## The parts of a description -/

/-- A text as blank lines, the first line that is not blank, the end of this line, and the rest. -/
structure IsMadeOf (text blank line ending rest : List Char) : Prop where
  text_eq : text = blank ++ line ++ ending ++ rest
  endsLine : EndsLine blank
  blankLines : ∀ l ∈ lines blank, allBlank l = true
  oneLine : '\n' ∉ line
  notBlank : allBlank line = false
  ends : ending = ['\n'] ∨ ending = ['\r', '\n'] ∨ ending = [] ∧ rest = []

theorem forall_lines_allBlank_iff :
    (∀ l ∈ lines text, allBlank l = true) ↔ allBlank text = true := by
  rw [← Text.all_allBlank_lines, List.all_eq_true]

/-- One more blank line in front. -/
theorem IsMadeOf.cons (h : IsMadeOf text blank line ending rest) {piece : List Char}
    (hpiece : allBlank piece = true) :
    IsMadeOf (piece ++ '\n' :: text) (piece ++ '\n' :: blank) line ending rest where
  text_eq := by simp [h.text_eq]
  endsLine := by
    rcases h.endsLine with rfl | ⟨front, rfl⟩
    · exact .inr ⟨piece, rfl⟩
    · exact .inr ⟨piece ++ '\n' :: front, by simp⟩
  blankLines := by
    have hfeed : isBlank '\n' = true := by decide
    have hblank := forall_lines_allBlank_iff.1 h.blankLines
    refine forall_lines_allBlank_iff.2 ?_
    simp only [allBlank, List.all_append, List.all_cons, Bool.and_eq_true] at hpiece hblank ⊢
    exact ⟨hpiece, hfeed, hblank⟩
  oneLine := h.oneLine
  notBlank := h.notBlank
  ends := h.ends

/-- A text that is not blank is made in this way. -/
theorem exists_isMadeOf (h : allBlank text = false) :
    ∃ blank line ending rest, IsMadeOf text blank line ending rest := by
  suffices hpieces : ∀ pieces : List (List Char), (∀ piece ∈ pieces, '\n' ∉ piece) →
      allBlank (Text.joinWith '\n' pieces) = false →
      ∃ blank line ending rest,
        IsMadeOf (Text.joinWith '\n' pieces) blank line ending rest by
    have := hpieces _ (Text.notMem_of_mem_splitOn '\n' text)
    rw [Text.joinWith_splitOn] at this
    exact this h
  intro pieces hfeeds hblank
  induction pieces with
  | nil => cases hblank
  | cons piece more ih =>
    rw [List.forall_mem_cons] at hfeeds
    cases more with
    | nil => exact ⟨[], piece, [], [], by simp [Text.joinWith], .inl rfl, by simp [lines,
        Text.linesOfPieces], hfeeds.1, hblank, .inr (.inr ⟨rfl, rfl⟩)⟩
    | cons next more =>
      by_cases hpiece : allBlank piece = true
      · have hmore : allBlank (Text.joinWith '\n' (next :: more)) = false := by
          rw [Text.allBlank_joinWith, List.all_cons, hpiece] at hblank
          rw [Text.allBlank_joinWith]
          exact hblank
        obtain ⟨blank, line, ending, rest, hmade⟩ := ih hfeeds.2 hmore
        exact ⟨_, line, ending, rest, hmade.cons hpiece⟩
      · exact ⟨[], piece, ['\n'], Text.joinWith '\n' (next :: more), by simp [Text.joinWith],
          .inl rfl, by simp [lines, Text.linesOfPieces], hfeeds.1, by simpa using hpiece,
          .inl rfl⟩

/-- The lines of a description: blank ones, the line of the title, and those of the body. -/
theorem IsMadeOf.lines_eq (h : IsMadeOf text blank line ending rest) :
    ∃ first, (first = line ∨ first = dropReturn line) ∧
      lines text = lines blank ++ first :: lines rest := by
  have hfeed : ∀ front : List Char, '\n' ∉ front →
      lines (front ++ '\n' :: rest) = dropReturn front :: lines rest := fun front hfront => by
    rw [Text.lines_append_cons, Text.splitOn_of_notMem hfront]
    rfl
  rw [h.text_eq, List.append_assoc, List.append_assoc, Text.lines_append h.endsLine]
  rcases h.ends with rfl | rfl | ⟨rfl, rfl⟩
  · exact ⟨dropReturn line, .inr rfl, by rw [← hfeed line h.oneLine]; rfl⟩
  · have hreturn : '\n' ∉ line ++ ['\r'] := by simpa using h.oneLine
    have hdropped : dropReturn (line ++ ['\r']) = line := by simp [dropReturn]
    refine ⟨line, .inl rfl, ?_⟩
    rw [← hdropped, ← hfeed _ hreturn, List.append_assoc, hdropped]
    rfl
  · have hne : line ≠ [] := by
      rintro rfl
      exact absurd h.notBlank (by decide)
    refine ⟨line, .inl rfl, ?_⟩
    rw [List.append_nil, List.append_nil, lines, lines, Text.splitOn_of_notMem h.oneLine]
    simp [Text.linesOfPieces, hne, lines]

/-- The line of the title and the rest say what a description holds. -/
theorem IsMadeOf.parse_eq {text : String} (h : IsMadeOf text.toList blank line ending rest) :
    IsTitle line (parse text).title.toList ∧
      (parse text).body.toList = Text.dropFeed (Text.unifyEndings rest) := by
  obtain ⟨first, hfirst, hlines⟩ := h.lines_eq
  have hnot : allBlank first = false := by
    rcases hfirst with rfl | rfl
    · exact h.notBlank
    · rw [Text.allBlank_dropReturn, h.notBlank]
  have hdropped : (lines text.toList).dropWhile allBlank = first :: lines rest := by
    rw [hlines, List.dropWhile_append_of_pos h.blankLines,
      List.dropWhile_cons_of_neg (by simp [hnot])]
  rw [parse, hdropped]
  simp only [String.toList_ofList]
  refine ⟨?_, Text.joinWith_lines rest⟩
  rcases hfirst with rfl | rfl
  · exact isTitle_trimEnd first
  · exact (isTitle_trimEnd _).of_dropReturn

/-- A title is a title of its own. -/
theorem IsTitle.self (h : IsTitle line title) : IsTitle title title :=
  ⟨⟨[], [], by simp, by simp, by simp⟩, h.head, h.last⟩

theorem IsTitle.mem (h : IsTitle line title) {c : Char} (hc : c ∈ title) : c ∈ line := by
  obtain ⟨front, back, rfl, -, -⟩ := h.between
  simp [hc]

/-- A description whose lines are all blank has neither a title nor a body.  Any other is blank
lines, a first line that is not, and a rest; and in whatever way it is taken for these, its title is
the title of the line, which has no line feed and is a title of its own, and its body is the rest
with all lines ended alike and the last end dropped. -/
theorem parse_splits (text : String) :
    ((∀ l ∈ lines text.toList, allBlank l = true) → parse text = ⟨"", ""⟩) ∧
      ((∃ l ∈ lines text.toList, allBlank l = false) →
        ∃ blank line ending rest, IsMadeOf text.toList blank line ending rest) ∧
      ∀ blank line ending rest, IsMadeOf text.toList blank line ending rest →
        (∀ title, IsTitle line title ↔ title = (parse text).title.toList) ∧
          '\n' ∉ (parse text).title.toList ∧
          IsTitle (parse text).title.toList (parse text).title.toList ∧
          (parse text).body.toList = Text.dropFeed (Text.unifyEndings rest) := by
  refine ⟨fun hblank => ?_, fun ⟨l, hl, hnot⟩ => ?_, fun blank line ending rest hmade => ?_⟩
  · rw [parse, List.dropWhile_eq_nil_iff.2 hblank]
  · refine exists_isMadeOf (Bool.eq_false_iff.2 fun hall => ?_)
    have := forall_lines_allBlank_iff.2 hall l hl
    rw [hnot] at this
    cases this
  · obtain ⟨htitle, hbody⟩ := hmade.parse_eq
    refine ⟨fun title => ⟨fun h => ?_, ?_⟩, fun hmem => hmade.oneLine (htitle.mem hmem),
      htitle.self, hbody⟩
    · rw [h.eq, htitle.eq]
    · rintro rfl
      exact htitle

/-- A title with marks of its own inside, and a body with both kinds of ends, a carriage return that
belongs to none of them and two ends at its end. -/
theorem parse_splits_sample :
    let text := " \r\n\u2003\n ## Use #1 #\u00a0\r\n\na\r\r\nb\rc\n\r\n"
    let line := " ## Use #1 #\u00a0".toList
    let rest := "\na\r\r\nb\rc\n\r\n".toList
    IsMadeOf text.toList " \r\n\u2003\n".toList line ['\r', '\n'] rest ∧
      IsTitle line "Use #1 #".toList ∧
      (parse text).title.toList = "Use #1 #".toList ∧
      (parse text).body.toList = "\na\r\nb\rc\n".toList := by
  intro text line rest
  have hmade : IsMadeOf text.toList " \r\n\u2003\n".toList line ['\r', '\n'] rest :=
    ⟨by decide +kernel, .inr ⟨" \r\n\u2003".toList, by decide +kernel⟩, by decide +kernel,
      by decide +kernel, by decide +kernel, .inr (.inl rfl)⟩
  have htitle : IsTitle line "Use #1 #".toList := by
    have hfront : " ## ".toList.all isHeading = true := by decide
    have hback : "\u00a0".toList.all isBlank = true := by decide
    refine ⟨⟨" ## ".toList, "\u00a0".toList, rfl, fun c hc => ?_, List.all_eq_true.1 hback⟩,
      fun c hc => ?_, fun c hc => ?_⟩
    · simpa [isHeading] using List.all_eq_true.1 hfront c hc
    · obtain rfl := Option.some.inj (hc : some 'U' = some c)
      decide
    · obtain rfl := Option.some.inj (hc : some '#' = some c)
      decide
  obtain ⟨hiff, -, -, hbody⟩ := (parse_splits text).2.2 _ _ _ _ hmade
  exact ⟨hmade, htitle, ((hiff _).1 htitle).symm, hbody.trans (by decide +kernel)⟩

end Description

end Fleet

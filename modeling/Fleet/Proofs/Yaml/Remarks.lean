import Fleet.Proofs.Yaml.Mapping
import Fleet.Text.Blank

namespace Fleet.Yaml

/-! # Texts of white space and comments

`remarks` goes through a text and looks for anything that is neither white space nor in a comment.
A comment is told by the rules of a document: it begins with a `#` behind a gap, and every break
ends it.  What counts as white space is left open, since a document knows fewer such characters than
there are: only spaces are passed in front of a token, a tab cannot begin one, and any other white
space begins a scalar.

A lexer in front of such a text (`Lexer.Quiet`) fetches scalars and the end of the text and nothing
else (`Quiet.fetch`), so no key is ever found in one (`tokens_of_remarks`).
-/

open Text (isBlank)

/-- Where a character of a text stands. -/
inductive Place where
  /-- a comment may begin there -/
  | behindGap
  | inText
  | inComment
  deriving DecidableEq

/-- A place in a gap. -/
def Place.within (inComment : Bool) : Place := if inComment then .inComment else .behindGap

/-- A place in no comment. -/
def Place.after (afterGap : Bool) : Place := if afterGap then .behindGap else .inText

theorem Place.after_ne (afterGap : Bool) : after afterGap ≠ .inComment := by
  cases afterGap <;> decide

/-- The place behind a character that is in no comment and ends no line. -/
def Place.behind (c : Char) : Place := .after (isSpace c)

/-- The rest of a text is white space and comments. -/
def remarks (white : Char → Bool) : Place → List Char → Bool
  | _, [] => true
  | place, c :: rest =>
    if isBreak c then remarks white .behindGap rest
    else if place = .inComment then remarks white .inComment rest
    else if c == '#' then place = .behindGap && remarks white .inComment rest
    else white c && remarks white (.behind c) rest

section

variable {white : Char → Bool} {place : Place} {c : Char} {cs rest : List Char}

theorem remarks_break (h : isBreak c = true) (place : Place) (rest : List Char) :
    remarks white place (c :: rest) = remarks white .behindGap rest := by
  rw [remarks, if_pos h]

theorem remarks_comment (h : isBreak c = false) (rest : List Char) :
    remarks white .inComment (c :: rest) = remarks white .inComment rest := by
  rw [remarks, if_neg (by simp [h]), if_pos rfl]

/-- In no comment, only white space and the beginning of a comment are remarks. -/
theorem remarks_cons (hplace : place ≠ .inComment) (h : isBreak c = false) :
    remarks white place (c :: rest) = true ↔
      c = '#' ∧ place = .behindGap ∧ remarks white .inComment rest = true ∨
        c ≠ '#' ∧ white c = true ∧ remarks white (.behind c) rest = true := by
  rw [remarks, if_neg (by simp [h]), if_neg hplace]
  by_cases hsign : c = '#' <;> simp [hsign]

theorem remarks_mono {white' : Char → Bool} (hwhite : ∀ c, white c = true → white' c = true)
    (h : remarks white place cs = true) : remarks white' place cs = true := by
  induction cs generalizing place with
  | nil => rfl
  | cons c cs ih =>
    by_cases hbreak : isBreak c = true
    · rw [remarks_break hbreak] at h ⊢
      exact ih h
    · rw [Bool.not_eq_true] at hbreak
      by_cases hplace : place = .inComment
      · subst hplace
        rw [remarks_comment hbreak] at h ⊢
        exact ih h
      · rw [remarks_cons hplace hbreak] at h ⊢
        exact h.imp (And.imp_right (And.imp_right ih)) (And.imp_right (And.imp (hwhite c) ih))

/-- A break separates remarks. -/
theorem remarks_append_break (h : isBreak c = true) (place : Place) (cs rest : List Char) :
    remarks white place (cs ++ c :: rest) =
      (remarks white place cs && remarks white .behindGap rest) := by
  induction cs generalizing place with
  | nil => rw [List.nil_append, remarks_break h, remarks, Bool.true_and]
  | cons d cs ih =>
    rw [List.cons_append, remarks, remarks, ih, ih, ih]
    split
    · rfl
    · split
      · rfl
      · split
        · rw [Bool.and_assoc]
        · rw [Bool.and_assoc]

end

namespace Lexer

variable {s t : Lexer} {c : Char} {rest : List Char} {m : Mark} {keyAllowed inComment : Bool}

/-! ## Gaps -/

/-- Among remarks a gap reaches the end of the text or stops at white space other than a space.
Where a key may begin, it reaches the end if all white space is spaces. -/
theorem gapFrom_remarks (keyAllowed inComment : Bool) (m : Mark)
    (h : remarks isBlank (.within inComment) rest = true) :
    ((gapFrom false keyAllowed inComment rest m).2.rest = [] ∧
        (keyAllowed = true → remarks (· == ' ') (.within inComment) rest = true)) ∨
      (∃ c more, (gapFrom false keyAllowed inComment rest m).2.rest = c :: more ∧
        isBlank c = true ∧ isBreak c = false ∧ c ≠ ' ' ∧
        remarks isBlank (.behind c) more = true) ∧
        (keyAllowed = true → remarks (· == ' ') (.within inComment) rest = false) := by
  fun_induction gapFrom false keyAllowed inComment rest m with
  | case1 => exact .inl ⟨rfl, fun _ => rfl⟩
  | case2 keyAllowed inComment rest m ih =>
    rw [remarks_break (by decide), remarks_break (by decide)] at h ⊢
    exact (ih h).imp (And.imp_right fun hend _ => hend (by simp))
      (And.imp_right fun hstop _ => hstop (by simp))
  | case3 keyAllowed inComment c rest m _ hbreak ih =>
    rw [remarks_break hbreak] at h ⊢
    exact (ih h).imp (And.imp_right fun hend _ => hend (by simp))
      (And.imp_right fun hstop _ => hstop (by simp))
  | case4 keyAllowed inComment c rest m _ hbreak hpassed ih =>
    have hbreak : isBreak c = false := by simpa using hbreak
    cases inComment with
    | true =>
      rw [Place.within, if_pos rfl, remarks_comment hbreak] at h ⊢
      exact ih h
    | false =>
      obtain ⟨rfl, -⟩ | ⟨-, hblank, hrest⟩ := (remarks_cons (by decide) hbreak).1 h
      · simp [byteOrderMark] at hpassed
      · simp only [Bool.false_or, Bool.or_eq_true, Bool.and_eq_true, beq_iff_eq] at hpassed
        obtain (⟨-, rfl⟩ | rfl) | ⟨hkey, rfl⟩ := hpassed
        · exact absurd hblank (by decide)
        · exact ih hrest
        · exact (ih hrest).imp (And.imp_right fun _ h => absurd hkey (by simp [h]))
            (And.imp_right fun _ h => absurd hkey (by simp [h]))
  | case5 keyAllowed inComment c rest m _ hbreak hpassed hsign ih =>
    have hbreak : isBreak c = false := by simpa using hbreak
    obtain rfl := beq_iff_eq.1 hsign
    cases inComment with
    | true => simp at hpassed
    | false =>
      obtain ⟨-, -, hrest⟩ | ⟨hother, -, -⟩ := (remarks_cons (by decide) hbreak).1 h
      · exact ih hrest
      · exact absurd rfl hother
  | case6 keyAllowed inComment c rest m _ hbreak hpassed hsign =>
    have hbreak : isBreak c = false := by simpa using hbreak
    cases inComment with
    | true => simp at hpassed
    | false =>
      have hspace : c ≠ ' ' := by
        rintro rfl
        simp at hpassed
      obtain ⟨rfl, -, -⟩ | ⟨hother, hblank, hrest⟩ := (remarks_cons (by decide) hbreak).1 h
      · simp at hsign
      · refine .inr ⟨⟨c, rest, rfl, hblank, hbreak, hspace, hrest⟩, fun _ => ?_⟩
        rw [Bool.eq_false_iff, Ne, remarks_cons (by decide) hbreak]
        simp [hother, hspace]

/-- Behind a place where a key may begin, one may begin. -/
theorem gapFrom_fst (h : keyAllowed = true) (rest : List Char) (m : Mark) :
    (gapFrom false keyAllowed inComment rest m).1 = true := by
  fun_induction gapFrom false keyAllowed inComment rest m with
  | case1 => exact h
  | case2 _ _ _ _ ih => exact ih (by simp)
  | case3 _ _ _ _ _ _ _ ih => exact ih (by simp)
  | case4 _ _ _ _ _ _ _ _ ih => exact ih h
  | case5 _ _ _ _ _ _ _ _ _ ih => exact ih h
  | case6 => exact h

end Lexer

/-! ## Scalars -/

theorem Draft.done_ne_empty {d : Draft} (h : d.text ≠ []) : d.done ≠ "" := by
  simpa [done] using h

/-- Among remarks a plain scalar reaches the end of the text or the beginning of a comment. -/
theorem plainFrom_remarks {d : Draft} {afterGap : Bool} {rest : List Char} (m : Mark)
    (hd : d.text ≠ []) (h : remarks isBlank (.after afterGap) rest = true) :
    ∃ text after lineEnded, plainFrom false 0 d afterGap rest m = .ok (text, after, lineEnded) ∧
      text ≠ "" ∧ remarks isBlank .behindGap after.rest = true := by
  fun_induction plainFrom false 0 d afterGap rest m with
  | case1 d afterGap m => exact ⟨_, _, _, rfl, d.done_ne_empty hd, rfl⟩
  | case2 d afterGap rest m ih =>
    rw [remarks_break (by decide), remarks_break (by decide)] at h
    exact ih (by unfold Draft.endLine; split <;> exact hd) h
  | case3 d afterGap c rest m _ hspace htab => simp at htab
  | case4 d afterGap c rest m _ hspace htab ih =>
    have hbreak : isBreak c = false := by
      obtain rfl | rfl : c = ' ' ∨ c = '\t' := by simpa [isSpace] using hspace
      · decide
      · decide
    obtain ⟨rfl, -⟩ | ⟨-, -, hrest⟩ := (remarks_cons (Place.after_ne afterGap) hbreak).1 h
    · exact absurd hspace (by decide)
    · rw [Place.behind, hspace] at hrest
      exact ih (by unfold Draft.space; split <;> exact hd) hrest
  | case5 d afterGap c rest m _ hspace hbreak ih =>
    rw [remarks_break hbreak] at h
    exact ih (by unfold Draft.endLine; split <;> exact hd) h
  | case6 d afterGap c rest m _ stop hspace hbreak hdeep => simp at hdeep
  | case7 d afterGap c rest m _ stop hspace hbreak hdeep hsign =>
    have hgap : afterGap = true := (Bool.and_eq_true_iff.1 hsign).1
    exact ⟨_, _, _, rfl, d.done_ne_empty hd, by simpa [hgap, Place.after] using h⟩
  | case8 d afterGap c rest m _ hspace hbreak hdeep hsign hcolon => simp at hcolon
  | case9 d afterGap c rest m _ stop hspace hbreak hdeep hsign hcolon hvalue =>
    have hbreak : isBreak c = false := by simpa using hbreak
    have hc : c = ':' := by
      simp only [Bool.false_and, Bool.or_false, Bool.and_eq_true, beq_iff_eq] at hvalue
      exact hvalue.1
    subst hc
    obtain ⟨hcolon, -⟩ | ⟨-, hblank, -⟩ := (remarks_cons (Place.after_ne afterGap) hbreak).1 h
    · exact absurd hcolon (by decide)
    · exact absurd hblank (by decide)
  | case10 d afterGap c rest m _ hspace hbreak hdeep hsign hcolon hvalue ih =>
    have hbreak : isBreak c = false := by simpa using hbreak
    obtain ⟨rfl, hgap, -⟩ | ⟨-, -, hrest⟩ := (remarks_cons (Place.after_ne afterGap) hbreak).1 h
    · -- behind a gap a comment would have ended the scalar
      have hafter : afterGap = true := by
        cases afterGap with
        | true => rfl
        | false => cases hgap
      simp [hafter] at hsign
    · rw [Place.behind, Bool.eq_false_iff.2 hspace] at hrest
      exact ih (by simp [Draft.push]) hrest

/-! ## Fetching -/

namespace Lexer

/-- In front of remarks, where nothing but scalars was found. -/
structure Quiet (s : Lexer) : Prop where
  outside : s.outerKeys = []
  noBlock : s.indent = -1
  notRequired : ∀ key, s.possibleKey = some key → key.required = false
  rest : remarks isBlank .behindGap s.cursor.rest = true

/-- A token for a text without quotes. -/
def IsText (token : Token) : Prop := ∃ text, text ≠ "" ∧ token.kind = .scalar text .plain

namespace Quiet

/-- Whatever key may have begun, the lexer is quiet. -/
theorem setKey (h : Quiet s) {key : Option PossibleKey}
    (hkey : ∀ k, key = some k → k.required = false) : Quiet { s with possibleKey := key } :=
  ⟨h.outside, h.noBlock, hkey, h.rest⟩

/-- No key is missed. -/
theorem refreshKeys (h : Quiet s) :
    ∃ key, (∀ k, key = some k → k.required = false) ∧
      s.refreshKeys = .ok { s with possibleKey := key } := by
  cases hkey : s.possibleKey with
  | none => exact ⟨none, by simp, by rw [refreshKeys_of_none h.outside hkey, ← hkey]⟩
  | some key =>
    have hrequired := h.notRequired key hkey
    by_cases hstale : s.isStale key = true
    · refine ⟨none, by simp, ?_⟩
      rw [refreshKeys_of_stale h.outside hkey hstale, hrequired]
      rfl
    · refine ⟨some key, by simpa using hrequired, ?_⟩
      rw [refreshKeys_of_fresh h.outside hkey (by simpa using hstale), ← hkey]

theorem dropKey (h : Quiet s) : s.dropKey = .ok { s with possibleKey := none } := by
  unfold Lexer.dropKey
  split
  · next number mark hkey => cases h.notRequired _ hkey
  · rfl

theorem noteKey (h : Quiet s) :
    ∃ key, (∀ k, key = some k → k.required = false) ∧
      s.noteKey = .ok { s with possibleKey := key } := by
  by_cases hallowed : s.keyAllowed = true
  · have hcolumn : (s.indent == s.column) = false := by
      rw [h.noBlock, column, beq_eq_false_iff_ne]
      omega
    refine ⟨some ⟨false, s.nextNumber, s.mark⟩, by simp, ?_⟩
    rw [noteKey_of_keyAllowed hallowed h.dropKey, hcolumn, Bool.and_false]
  · exact ⟨s.possibleKey, h.notRequired, by rw [Lexer.noteKey, if_neg hallowed]; rfl⟩

theorem closeBlocks (h : Quiet s) : s.closeBlocks (-1) = s :=
  closeBlocks_of_le (Int.le_of_eq h.noBlock)

theorem fetchEnd (h : Quiet s) (hfetch : s.fetchEnd = .ok t) :
    Quiet t ∧ ∃ token, t.waiting = s.waiting ++ [token] ∧ token.kind = .streamEnd := by
  have hend : ∀ m, Quiet { s with cursor := ⟨[], m⟩ } := fun m =>
    ⟨h.outside, h.noBlock, h.notRequired, rfl⟩
  simp only [Lexer.fetchEnd, (hend _).closeBlocks, (hend _).dropKey, bind, Except.bind, pure,
    Except.pure, Except.ok.injEq] at hfetch
  subst hfetch
  exact ⟨⟨h.outside, h.noBlock, by simp [emit], rfl⟩, _, rfl, rfl⟩

/-- A scalar begins with white space that no gap passes. -/
theorem fetchPlain (h : Quiet s) {c : Char} {rest : List Char} (hcursor : s.cursor.rest = c :: rest)
    (hspace : isSpace c = false) (hbreak : isBreak c = false) (hcolon : c ≠ ':')
    (hrest : remarks isBlank (.behind c) rest = true) (hfetch : s.fetchPlain = .ok t) :
    Quiet t ∧ ∃ token, t.waiting = s.waiting ++ [token] ∧ IsText token := by
  obtain ⟨key, hkey, hnote⟩ := h.noteKey
  rw [Place.behind, hspace] at hrest
  obtain ⟨text, after, lineEnded, hread, htext, hafter⟩ :=
    plainFrom_remarks (d := Draft.push {} c) (s.mark.next c) (by simp [Draft.push]) hrest
  rw [← plainFrom_push hspace hbreak hcolon] at hread
  have hscalar := fetchPlain_of_noteKey hnote
    (by simpa [inFlow, mark, h.outside, h.noBlock, hcursor] using hread)
  rw [hscalar] at hfetch
  obtain rfl := Except.ok.inj hfetch
  exact ⟨⟨h.outside, h.noBlock, hkey, hafter⟩, _, rfl, text, htext, rfl⟩

/-- Among remarks no token begins but a scalar. -/
theorem fetchFrom (h : Quiet s) {c : Char} {rest : List Char} (hcursor : s.cursor.rest = c :: rest)
    (hspace : c ≠ ' ') (hbreak : isBreak c = false) (hblank : isBlank c = true)
    (hrest : remarks isBlank (.behind c) rest = true) (hfetch : s.fetchFrom c rest = .ok t) :
    Quiet t ∧ ∃ token, t.waiting = s.waiting ++ [token] ∧ IsText token := by
  by_cases htab : c = '\t'
  · subst htab
    simp [Lexer.fetchFrom, isDocumentMark, startsPlain, isGap, isSpace] at hfetch
  · have hother : isSpace c = false := by simp [isSpace, hspace, htab]
    have hbegins : beginsPlain c = true := by
      have hnot : c ∉ indicators := not_mem_indicators (by decide) hblank
      simp [beginsPlain, isGap, hother, hbreak, hnot]
    have hcolon : c ≠ ':' := by
      rintro rfl
      exact absurd hblank (by decide)
    rw [fetchFrom_of_beginsPlain hbegins] at hfetch
    exact h.fetchPlain hcursor hother hbreak hcolon hrest hfetch

theorem indent_le (h : Quiet s) : s.indent ≤ s.column := by
  rw [h.noBlock, column]
  omega

/-- At the end of the text its end is fetched; anywhere else a scalar is. -/
theorem fetch (h : Quiet s) (hfetch : s.fetch = .ok t) :
    Quiet t ∧ ∃ token, t.waiting = s.waiting ++ [token] ∧
      (s.skipGap.cursor.rest = [] → token.kind = .streamEnd) ∧
      (s.skipGap.cursor.rest ≠ [] → IsText token) := by
  have hgap := gapFrom_remarks s.keyAllowed false s.mark h.rest
  have hcursor : s.skipGap.cursor = (gapFrom false s.keyAllowed false s.cursor.rest s.mark).2 := by
    simp [skipGap, inFlow, h.outside]
  rw [← hcursor] at hgap
  obtain ⟨hend, -⟩ | ⟨⟨c, rest, hstop, hblank, hbreak, hspace, hrest⟩, -⟩ := hgap
  · have hquiet : Quiet s.skipGap := ⟨h.outside, h.noBlock, h.notRequired, by rw [hend]; rfl⟩
    obtain ⟨key, hkey, hkeys⟩ := hquiet.refreshKeys
    have hset := hquiet.setKey hkey
    rw [fetch_of_skipGap hkeys hset.indent_le] at hfetch
    simp only [hend] at hfetch
    obtain ⟨ht, token, hwaiting, hkind⟩ := hset.fetchEnd hfetch
    exact ⟨ht, token, hwaiting, fun _ => hkind, absurd hend⟩
  · have hsign : c ≠ '#' := by
      rintro rfl
      exact absurd hblank (by decide)
    have hquiet : Quiet s.skipGap := by
      refine ⟨h.outside, h.noBlock, h.notRequired, ?_⟩
      rw [hstop]
      exact (remarks_cons (by decide) hbreak).2 (.inr ⟨hsign, hblank, hrest⟩)
    obtain ⟨key, hkey, hkeys⟩ := hquiet.refreshKeys
    have hset := hquiet.setKey hkey
    rw [fetch_of_skipGap hkeys hset.indent_le] at hfetch
    simp only [hstop] at hfetch
    obtain ⟨ht, token, hwaiting, hkind⟩ := hset.fetchFrom hstop hspace hbreak hblank hrest hfetch
    exact ⟨ht, token, hwaiting, fun hend => absurd hend (by simp [hstop]), fun _ => hkind⟩

/-- Whatever is given out was waiting, or is a text or the end. -/
theorem run (h : Quiet s) (n : Nat) :
    ∃ more, (∀ token ∈ more, token.kind = .streamEnd ∨ IsText token) ∧
      (run n s).1 <+: s.waiting ++ more := by
  induction n generalizing s with
  | zero => exact ⟨[], by simp, List.nil_prefix⟩
  | succ n ih =>
    -- a token that is fetched waits behind the others
    have hbehind : ∀ {s' t : Lexer}, Quiet s' → s'.waiting = s.waiting → s'.fetch = .ok t →
        ∃ more, (∀ token ∈ more, token.kind = .streamEnd ∨ IsText token) ∧
          (Lexer.run n t).1 <+: s.waiting ++ more := by
      intro s' t hs' hwaiting hfetch
      obtain ⟨ht, token, htoken, hend, htext⟩ := hs'.fetch hfetch
      obtain ⟨more, hmore, hrun⟩ := ih ht
      refine ⟨token :: more, List.forall_mem_cons.2 ⟨?_, hmore⟩, ?_⟩
      · by_cases hrest : s'.skipGap.cursor.rest = []
        · exact .inl (hend hrest)
        · exact .inr (htext hrest)
      · rwa [htoken, hwaiting, List.append_assoc] at hrun
    cases hwaiting : s.waiting with
    | nil =>
      rw [Lexer.run, hwaiting]
      by_cases hended : s.ended = true
      · exact ⟨[], by simp, by simp [hended]⟩
      · cases hfetch : s.fetch with
        | error flaw => exact ⟨[], by simp, by simp [hended, hfetch]⟩
        | ok t => simpa [hended, hwaiting, hfetch] using hbehind h rfl hfetch
    | cons token rest =>
      obtain ⟨key, hkey, hkeys⟩ := h.refreshKeys
      rw [Lexer.run, hwaiting]
      simp only [hkeys]
      split
      · cases hfetch : Lexer.fetch { s with possibleKey := key } with
        | error flaw => exact ⟨[], by simp, List.nil_prefix⟩
        | ok t => simpa [hwaiting] using hbehind (h.setKey hkey) rfl hfetch
      · have hgiven : Quiet { s with possibleKey := key, waiting := rest, given := s.given + 1 } :=
          ⟨h.outside, h.noBlock, hkey, h.rest⟩
        obtain ⟨more, hmore, hrun⟩ := ih hgiven
        exact ⟨more, hmore, List.cons_prefix_cons.2 ⟨rfl, hrun⟩⟩

end Quiet

end Lexer

/-! ## Whole texts -/

section

variable {text : List Char}

/-- Among remarks there is nothing but texts and the end. -/
theorem tokens_of_remarks (h : remarks isBlank .behindGap text = true) :
    ∀ token ∈ (tokens text).1, token.kind = .streamEnd ∨ Lexer.IsText token := by
  have hquiet : Lexer.Quiet { cursor := ⟨text, {}⟩ } := ⟨rfl, rfl, by simp, h⟩
  intro token htoken
  rw [tokens] at htoken
  split at htoken
  · obtain ⟨more, hmore, hrun⟩ := hquiet.run (8 * text.length + 16)
    exact hmore token (hrun.subset htoken)
  · cases htoken

/-- With no white space but spaces there is nothing but the end. -/
theorem tokens_of_spaces (hallowed : text.all isAllowed = true)
    (h : remarks (· == ' ') .behindGap text = true) :
    ∃ mark, tokens text = ([⟨.streamEnd, mark, mark⟩], none) := by
  have hblank : remarks isBlank .behindGap text = true :=
    remarks_mono (fun c hc => by simp only [beq_iff_eq] at hc; subst hc; decide) h
  have hrest : (Lexer.gapFrom false true false text {}).2.rest = [] := by
    obtain ⟨hend, -⟩ | ⟨-, hstop⟩ := Lexer.gapFrom_remarks true false {} hblank
    · exact hend
    · exact absurd h (Bool.eq_false_iff.1 (hstop rfl))
  have hgap : Lexer.gapFrom false true false text {} =
      (true, ⟨[], (Lexer.gapFrom false true false text {}).2.mark⟩) := by
    rw [← hrest]
    exact Prod.ext (Lexer.gapFrom_fst rfl text {}) rfl
  obtain ⟨mark, hfetch⟩ := Lexer.fetch_end false ⟨text, {}⟩ 0 hgap
  have hgiven := (Lexer.comes_fetch rfl rfl hfetch).trans (Lexer.comes_give rfl rfl rfl)
  refine ⟨mark, ?_⟩
  rw [tokens, if_pos hallowed]
  exact (hgiven.ends (Lexer.ends_of_ended rfl rfl)).run_eq (by simp)

/-- With other white space there is a text in front of the end. -/
theorem tokens_of_not_spaces (h : remarks isBlank .behindGap text = true)
    (hother : remarks (· == ' ') .behindGap text = false) :
    (tokens text).1 = [] ∨ ∃ token rest, (tokens text).1 = token :: rest ∧ Lexer.IsText token := by
  have hquiet : Lexer.Quiet { cursor := ⟨text, {}⟩ } := ⟨rfl, rfl, by simp, h⟩
  have hstop : (Lexer.gapFrom false true false text {}).2.rest ≠ [] := by
    obtain ⟨-, hend⟩ | ⟨⟨c, more, hmore, -⟩, -⟩ :=
      Lexer.gapFrom_remarks true false {} h
    · exact absurd (hend rfl) (Bool.eq_false_iff.1 hother)
    · simp [hmore]
  rw [tokens]
  split
  · cases hfetch : Lexer.fetch { cursor := ⟨text, {}⟩ } with
    | error flaw =>
      rw [(Lexer.ends_of_fetch rfl rfl hfetch).run_eq (by omega)]
      exact .inl rfl
    | ok t =>
      obtain ⟨ht, token, hwaiting, -, htext⟩ := hquiet.fetch hfetch
      obtain ⟨more, -, hrun⟩ := ht.run (8 * text.length + 15)
      have hfirst := Lexer.comes_fetch rfl rfl hfetch (8 * text.length + 15)
      rw [hwaiting, List.nil_append, List.singleton_append] at hrun
      rw [hfirst, List.nil_append]
      cases hgiven : (Lexer.run (8 * text.length + 15) t).1 with
      | nil => exact .inl rfl
      | cons first rest =>
        rw [hgiven, List.cons_prefix_cons] at hrun
        exact .inr ⟨first, rest, rfl, hrun.1 ▸ htext hstop⟩
  · exact .inl rfl

end

/-! ## Documents -/

section

variable {text : List Char}

/-- With no white space but spaces a text is an empty document. -/
theorem ofText_of_spaces (hallowed : text.all isAllowed = true)
    (h : remarks (· == ' ') .behindGap text = true) : Document.ofText text = {} := by
  obtain ⟨mark, htokens⟩ := tokens_of_spaces hallowed h
  have hend : Comes Reading.run 1 { tokens := [⟨.streamEnd, mark, mark⟩] } []
      { tokens := [⟨.streamEnd, mark, mark⟩], state := .finished } :=
    Reading.comes_on (by simp) rfl
  have hevents : events text = ([], none) := by
    rw [events, htokens]
    exact (hend.ends (Reading.ends_of_finished rfl)).run_eq (by simp)
  rw [Document.ofText, hevents]
  rfl

/-- Otherwise it has a flaw or says a text. -/
theorem ofText_of_not_spaces (h : remarks isBlank .behindGap text = true)
    (hother : text.all isAllowed = false ∨ remarks (· == ' ') .behindGap text = false) :
    (Document.ofText text).flaw ≠ none ∨ ∃ said mark, said ≠ "" ∧
      (Document.ofText text).items = [⟨.scalar none said .plain, mark⟩] := by
  have hfirst : (tokens text).1 = [] ∨
      ∃ token rest, (tokens text).1 = token :: rest ∧ Lexer.IsText token := by
    rcases hother with hforbidden | hother
    · exact .inl (by rw [tokens, hforbidden]; rfl)
    · exact tokens_of_not_spaces h hother
  rw [Document.ofText, events]
  generalize tokens text = result at hfirst
  obtain ⟨out, flaw⟩ := result
  dsimp only at hfirst ⊢
  obtain rfl | ⟨⟨_, start, stop⟩, rest, rfl, said, hsaid, rfl⟩ := hfirst
  · have hnone : Ends Reading.run 1 { tokens := [], broken := flaw.getD .unexpectedToken } []
        (some (flaw.getD .unexpectedToken)) :=
      Reading.ends_of_step (by simp) rfl
    refine .inl ?_
    rw [hnone.run_eq (by simp)]
    exact Document.flaw_ofEvents _ [] []
  · obtain ⟨n, flaw', hn, hends⟩ := Reading.ends_behindNode rest (flaw.getD .unexpectedToken)
    have hscalar := Reading.comes_scalar said .plain start stop rest (flaw.getD .unexpectedToken)
    refine .inr ⟨said, start, hsaid, ?_⟩
    rw [(hscalar.ends hends).run_eq (by simp; omega)]
    rfl

end

end Fleet.Yaml

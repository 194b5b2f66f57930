import Fleet.Yaml.Event

namespace Fleet.Yaml

/-! # Steps of a reader

Texts become tokens and tokens become events step by step, with a number of steps that is known
beforehand.  `Comes run n s out t` says that from `s` a reader comes to `t` in `n` steps and gives
out `out` on the way; `Ends run n s out flaw` says that within `n` steps it gives out `out` and
ends, perhaps at a flaw.  For both readers there is one lemma for each kind of step.

The rest is about a token that is fetched.  Of a text that stays in its line every character is
taken: a word ends at the `:` behind it (`plainFrom_word`), and between single quotes anything may
stand that ends no line, a quote being written twice (`singleQuotedFrom_doubled`).  In front of a
token gaps are passed (`Lexer.gapFrom_cons`), and the character behind them says which token begins.
-/

section

variable {σ α : Type} (run : Nat → σ → List α × Option Flaw)

/-- From `s` a reader comes to `t` in `n` steps and gives out `out` on the way. -/
def Comes (n : Nat) (s : σ) (out : List α) (t : σ) : Prop :=
  ∀ m, run (m + n) s = (out ++ (run m t).1, (run m t).2)

/-- From `s` a reader gives out `out` and ends within `n` steps. -/
def Ends (n : Nat) (s : σ) (out : List α) (flaw : Option Flaw) : Prop :=
  ∀ m, run (m + n) s = (out, flaw)

variable {run} {n k : Nat} {s t u : σ} {out more : List α} {flaw : Option Flaw}

theorem Comes.refl (s : σ) : Comes run 0 s [] s := fun _ => rfl

theorem Comes.trans (h : Comes run n s out t) (h' : Comes run k t more u) :
    Comes run (k + n) s (out ++ more) u := by
  intro m
  rw [← Nat.add_assoc, h, h', List.append_assoc]

theorem Comes.ends (h : Comes run n s out t) (h' : Ends run k t more flaw) :
    Ends run (k + n) s (out ++ more) flaw := by
  intro m
  rw [← Nat.add_assoc, h, h']

/-- More steps than are needed make no difference. -/
theorem Ends.run_eq (h : Ends run n s out flaw) {m : Nat} (hm : n ≤ m) :
    run m s = (out, flaw) := by
  rw [← h, Nat.sub_add_cancel hm]

end

/-! ## Tokens -/

namespace Lexer

variable {s t : Lexer} {token : Token} {rest : List Token} {key : PossibleKey}

/-- No key has to be given up where there is none. -/
theorem refreshKeys_of_none (houter : s.outerKeys = []) (hkey : s.possibleKey = none) :
    s.refreshKeys = .ok s := by
  cases s
  subst houter hkey
  rfl

/-- A possible key in the same line, not too long ago, is kept. -/
theorem refreshKeys_of_fresh (houter : s.outerKeys = []) (hkey : s.possibleKey = some key)
    (hfresh : s.isStale key = false) : s.refreshKeys = .ok s := by
  cases s
  subst houter hkey
  simp [refreshKeys, refreshKey, hfresh, bind, Except.bind, pure, Except.pure]

/-- A possible key that is over is given up, unless it is required. -/
theorem refreshKeys_of_stale (houter : s.outerKeys = []) (hkey : s.possibleKey = some key)
    (hstale : s.isStale key = true) :
    s.refreshKeys =
      if key.required then .error .missingColon else .ok { s with possibleKey := none } := by
  cases s
  subst houter hkey
  cases hrequired : key.required <;>
    simp [refreshKeys, refreshKey, hstale, hrequired, bind, Except.bind, pure, Except.pure]

/-- If no token waits, one is fetched. -/
theorem comes_fetch (hwaiting : s.waiting = []) (hended : s.ended = false)
    (hfetch : s.fetch = .ok t) : Comes run 1 s [] t := by
  intro m
  rw [run, hwaiting]
  simp [hended, hfetch]

/-- If the oldest token may turn out to be a key, a further one is fetched. -/
theorem comes_await (hwaiting : s.waiting = token :: rest) (hkeys : s.refreshKeys = .ok s)
    (hkey : s.oldestMayBeKey = true) (hfetch : s.fetch = .ok t) : Comes run 1 s [] t := by
  intro m
  rw [run, hwaiting]
  simp [hkeys, hkey, hfetch]

/-- A token that is no possible key any more is given out. -/
theorem comes_giveOne (hwaiting : s.waiting = token :: rest) (hkeys : s.refreshKeys = .ok t)
    (hkey : t.oldestMayBeKey = false) :
    Comes run 1 s [token] { t with waiting := rest, given := t.given + 1 } := by
  intro m
  rw [run, hwaiting]
  simp [hkeys, hkey]

/-- If no token may turn out to be a key, all that wait are given out. -/
theorem comes_give (houter : s.outerKeys = []) (hkey : s.possibleKey = none) {tokens : List Token}
    (hwaiting : s.waiting = tokens) :
    Comes run tokens.length s tokens
      { s with waiting := [], given := s.given + tokens.length } := by
  induction tokens generalizing s with
  | nil =>
    cases s
    subst hwaiting
    exact Comes.refl _
  | cons token rest ih =>
    have hone := comes_giveOne hwaiting (refreshKeys_of_none houter hkey)
      (by simp [oldestMayBeKey, houter, hkey])
    have hrest := @ih { s with waiting := rest, given := s.given + 1 } houter hkey rfl
    have hboth := hone.trans hrest
    rwa [show s.given + 1 + rest.length = s.given + (token :: rest).length by
      simp; omega] at hboth

/-- Nothing follows the end. -/
theorem ends_of_ended (hwaiting : s.waiting = []) (hended : s.ended = true) :
    Ends run 1 s [] none := by
  intro m
  rw [run, hwaiting]
  simp [hended]

/-- A flaw where a token should be fetched. -/
theorem ends_of_fetch {flaw : Flaw} (hwaiting : s.waiting = []) (hended : s.ended = false)
    (hfetch : s.fetch = .error flaw) : Ends run 1 s [] (some flaw) := by
  intro m
  rw [run, hwaiting]
  simp [hended, hfetch]

/-- A required key that is over leaves nothing to be given out. -/
theorem ends_of_refreshKeys {flaw : Flaw} (hwaiting : s.waiting = token :: rest)
    (hkeys : s.refreshKeys = .error flaw) : Ends run 1 s [] (some flaw) := by
  intro m
  rw [run, hwaiting]
  simp [hkeys]

end Lexer

/-! ## Events -/

namespace Reading

variable {r r' : Reading} {event : Located}

/-- A step with an event. -/
theorem comes_event (hstate : r.state ≠ .finished) (hstep : r.step = .ok (some event, r')) :
    Comes run 1 r [event] r' := by
  intro m
  rw [run, if_neg hstate, hstep]
  rfl

/-- A step without an event. -/
theorem comes_on (hstate : r.state ≠ .finished) (hstep : r.step = .ok (none, r')) :
    Comes run 1 r [] r' := by
  intro m
  rw [run, if_neg hstate, hstep]
  rfl

theorem ends_of_finished (hstate : r.state = .finished) : Ends run 1 r [] none := by
  intro m
  rw [run, if_pos hstate]

theorem ends_of_step {flaw : Flaw} (hstate : r.state ≠ .finished)
    (hstep : r.step = .error flaw) : Ends run 1 r [] (some flaw) := by
  intro m
  rw [run, if_neg hstate, hstep]

/-- In a document that began without a line of its own. -/
def inDocument (state : State) (tokens : List Token) (broken : Flaw) : Reading :=
  { tokens, state, around := [.documentEnd], handles := standardHandles, broken }

/-- Behind the one node of such a document. -/
def behindNode (tokens : List Token) (broken : Flaw) : Reading :=
  { tokens, state := .documentEnd, handles := standardHandles, broken }

/-- A scalar is a document of its own. -/
theorem comes_scalar (text : String) (style : Style) (start stop : Mark) (rest : List Token)
    (broken : Flaw) :
    Comes run 2 { tokens := ⟨.scalar text style, start, stop⟩ :: rest, broken }
      [⟨.scalar none none text style, start⟩] (behindNode rest broken) := by
  let all := Token.mk (.scalar text style) start stop :: rest
  have hdocument : Comes run 1 { tokens := all, broken } [] (inDocument .blockNode all broken) :=
    comes_on (by simp) rfl
  have hscalar : Comes run 1 (inDocument .blockNode all broken)
      [⟨.scalar none none text style, start⟩] (behindNode rest broken) :=
    comes_event (by simp [inDocument]) rfl
  exact hdocument.trans hscalar

/-- Behind its one node a document ends, if only at a flaw. -/
theorem ends_behindNode (tokens : List Token) (broken : Flaw) :
    ∃ n flaw, n ≤ 2 ∧ Ends run n (behindNode tokens broken) [] flaw := by
  have hstate : (behindNode tokens broken).state ≠ .finished := by simp [behindNode]
  have hstep : (behindNode tokens broken).step = .error .furtherDocument ∨
      (behindNode tokens broken).step =
        .ok (none, { behindNode tokens broken with state := .finished }) := by
    show documentEnd _ = _ ∨ documentEnd _ = _
    dsimp only [documentEnd]
    split
    · exact .inr rfl
    · exact .inl rfl
  rcases hstep with hstep | hstep
  · exact ⟨1, _, by decide, ends_of_step hstate hstep⟩
  · exact ⟨2, _, by decide, (comes_on hstate hstep).ends (ends_of_finished rfl)⟩

end Reading

/-! ## Places in a line -/

section

variable {c : Char} {cs rest : List Char} {m : Mark} {d : Draft}

/-- The place behind characters of one line. -/
def Mark.advance (m : Mark) (cs : List Char) : Mark := cs.foldl Mark.next m

theorem Mark.advance_cons (m : Mark) (c : Char) (cs : List Char) :
    m.advance (c :: cs) = (m.next c).advance cs := rfl

@[simp] theorem Mark.advance_line (m : Mark) (cs : List Char) : (m.advance cs).line = m.line := by
  induction cs generalizing m with
  | nil => rfl
  | cons c cs ih => rw [advance_cons, ih]; rfl

/-! ## Words -/

/-- A letter or digit of ASCII, or an underscore. -/
def isKeyChar (c : Char) : Bool := c.isAlphanum || c == '_'

/-- What is no such character, whatever it is. -/
theorem ne_of_isKeyChar (h : isKeyChar c = true) {x : Char} (hx : isKeyChar x = false) : c ≠ x := by
  rintro rfl
  rw [h] at hx
  cases hx

theorem toNat_of_isKeyChar (h : isKeyChar c = true) :
    48 ≤ c.toNat ∧ c.toNat ≤ 57 ∨ 65 ≤ c.toNat ∧ c.toNat ≤ 90 ∨ c.toNat = 95 ∨
      97 ≤ c.toNat ∧ c.toNat ≤ 122 := by
  change (c.isUpper || c.isLower || c.isDigit || c == '_') = true at h
  rw [Bool.or_eq_true, Bool.or_eq_true, Bool.or_eq_true, beq_iff_eq] at h
  obtain ((hupper | hlower) | hdigit) | rfl := h
  · have hcodes : 65 ≤ c.toNat ∧ c.toNat ≤ 90 := of_decide_eq_true hupper
    exact .inr (.inl hcodes)
  · obtain ⟨hleast, hmost⟩ := Bool.and_eq_true_iff.1 hlower
    have hcodes : 97 ≤ c.toNat ∧ c.toNat ≤ 122 :=
      ⟨of_decide_eq_true hleast, of_decide_eq_true hmost⟩
    exact .inr (.inr (.inr hcodes))
  · obtain ⟨hleast, hmost⟩ := Bool.and_eq_true_iff.1 hdigit
    have hcodes : 48 ≤ c.toNat ∧ c.toNat ≤ 57 :=
      ⟨of_decide_eq_true hleast, of_decide_eq_true hmost⟩
    exact .inl hcodes
  · exact .inr (.inr (.inl rfl))

theorem not_gap_of_isKeyChar (h : isKeyChar c = true) : isSpace c = false ∧ isBreak c = false := by
  have hne : ∀ x, isKeyChar x = false → (c == x) = false := fun x hx =>
    beq_false_of_ne (ne_of_isKeyChar h hx)
  constructor
  · simp [isSpace, hne ' ', hne '\t', isKeyChar]
  · simp [isBreak, hne '\r', hne '\n', hne '\u0085', hne '\u2028', hne '\u2029', isKeyChar]

theorem utf8Size_of_isKeyChar (h : isKeyChar c = true) : c.utf8Size = 1 := by
  have hcode := toNat_of_isKeyChar h
  have hval : c.val.toNat = c.toNat := rfl
  have hlast : (0x7f : UInt32).toNat = 127 := rfl
  rw [Char.utf8Size_eq_one_iff, UInt32.le_iff_toNat_le, hval, hlast]
  omega

/-- A word has one byte for each of its characters. -/
theorem Mark.advance_index_of_isKeyChar (h : ∀ c ∈ cs, isKeyChar c = true) (m : Mark) :
    (m.advance cs).index = m.index + cs.length := by
  induction cs generalizing m with
  | nil => rfl
  | cons c cs ih =>
    obtain ⟨hc, hcs⟩ := List.forall_mem_cons.1 h
    rw [advance_cons, ih hcs, List.length_cons]
    simp only [next, utf8Size_of_isKeyChar hc]
    omega

/-- A character that separates nothing comes into the text. -/
theorem plainFrom_push (hspace : isSpace c = false) (hbreak : isBreak c = false) (hcolon : c ≠ ':')
    (indent : Nat) :
    plainFrom false indent d false (c :: rest) m =
      plainFrom false indent (d.push c) false rest (m.next c) := by
  have hreturn : c ≠ '\r' := by
    rintro rfl
    exact absurd hbreak (by decide)
  rw [plainFrom.eq_3 _ _ _ _ _ _ _ (by rintro _ rfl; exact absurd rfl hreturn)]
  simp [hspace, hbreak, hcolon]

/-- A word is read up to the `:` behind it. -/
theorem plainFrom_word (h : ∀ c ∈ cs, isKeyChar c = true) (indent : Nat) (text : List Char) :
    plainFrom false indent { text } false (cs ++ ':' :: ' ' :: rest) m =
      .ok (String.ofList (text.reverse ++ cs), ⟨':' :: ' ' :: rest, m.advance cs⟩, false) := by
  induction cs generalizing text m with
  | nil => simp [plainFrom, isSpace, isBreak, gapNext, isGap, Draft.done, Mark.advance]
  | cons c cs ih =>
    rw [List.forall_mem_cons] at h
    have hpush : Draft.push { text } c = { text := c :: text } := rfl
    obtain ⟨hspace, hbreak⟩ := not_gap_of_isKeyChar h.1
    rw [List.cons_append, plainFrom_push hspace hbreak (ne_of_isKeyChar h.1 (by decide)), hpush,
      ih h.2, Mark.advance_cons]
    simp

/-! ## Quotations -/

/-- A text as it stands between single quotes. -/
def doubled : List Char → List Char
  | [] => []
  | '\'' :: cs => '\'' :: '\'' :: doubled cs
  | c :: cs => c :: doubled cs

theorem doubled_cons (h : c ≠ '\'') : doubled (c :: cs) = c :: doubled cs := doubled.eq_3 c cs h

/-- A character of the text comes behind all that was read of it. -/
theorem Draft.join_push (d : Draft) (c : Char) : (d.push c).join.text = c :: d.join.text := by
  simp [push, join, filling]

/-- White space within a line comes into the text as any other character, once more follows. -/
theorem Draft.join_space (h : d.lineEnded = false) (c : Char) :
    (d.space c).join.text = c :: d.join.text := by
  simp [space, join, filling, h]

/-- A text of one line is read from between quotes as it was written. -/
theorem singleQuotedFrom_doubled (h : ∀ c ∈ cs, isBreak c = false) (hcolumn : 0 < m.column)
    (hline : d.lineEnded = false) (hrest : rest.head? ≠ some '\'') :
    ∃ m', singleQuotedFrom d (doubled cs ++ '\'' :: rest) m =
      .ok (String.ofList (d.join.text.reverse ++ cs), ⟨rest, m'⟩) := by
  induction cs generalizing d m with
  | nil =>
    refine ⟨m.next '\'', ?_⟩
    rw [doubled, List.nil_append, singleQuotedFrom.eq_4 _ _ _ _ (by simp)
      (by rintro _ - rfl; exact hrest rfl)]
    simp [isSpace, isBreak, Nat.ne_of_gt hcolumn, Draft.done]
  | cons c cs ih =>
    rw [List.forall_mem_cons] at h
    -- what is left to read once a character has come into the text
    have hgoOn : ∀ {d' : Draft} {m' : Mark}, d'.lineEnded = false → 0 < m'.column →
        d'.join.text = c :: d.join.text →
        ∃ m'', singleQuotedFrom d' (doubled cs ++ '\'' :: rest) m' =
          .ok (String.ofList (d.join.text.reverse ++ c :: cs), ⟨rest, m''⟩) := by
      intro d' m' hline' hcolumn' htext
      obtain ⟨m'', hread⟩ := ih h.2 hcolumn' hline'
      exact ⟨m'', by rw [hread, htext]; simp⟩
    by_cases hquote : c = '\''
    · subst hquote
      rw [doubled, List.cons_append, List.cons_append, singleQuotedFrom]
      exact hgoOn rfl (Nat.succ_pos _) (d.join_push _)
    · have hreturn : c ≠ '\r' := by
        rintro rfl
        exact absurd h.1 (by decide)
      rw [doubled_cons hquote, List.cons_append, singleQuotedFrom.eq_4 _ _ _ _
        (by rintro _ rfl; exact absurd rfl hreturn) (by rintro _ rfl; exact absurd rfl hquote)]
      by_cases hspace : isSpace c = true
      · rw [if_pos hspace]
        exact hgoOn (by simp [Draft.space, hline]) (Nat.succ_pos _) (Draft.join_space hline c)
      · rw [if_neg hspace, if_neg (by simp [h.1]), if_neg (by simp [Nat.ne_of_gt hcolumn]),
          if_neg (by simpa using hquote)]
        exact hgoOn rfl (Nat.succ_pos _) (d.join_push _)

end

namespace Lexer

variable {c : Char} {cs rest : List Char} {m : Mark} {inFlow keyAllowed inComment : Bool}
  {s t : Lexer} {column : Int}

/-! ## Gaps -/

theorem gapFrom_cons (h : c ≠ '\r') :
    gapFrom inFlow keyAllowed inComment (c :: rest) m =
      if isBreak c then
        gapFrom inFlow (keyAllowed || !inFlow) false rest (m.newline c.utf8Size)
      else if inComment || (m.column == 0 && c == byteOrderMark) || c == ' ' ||
          ((inFlow || !keyAllowed) && c == '\t') then
        gapFrom inFlow keyAllowed inComment rest (m.next c)
      else if c == '#' then gapFrom inFlow keyAllowed true rest (m.next c)
      else (keyAllowed, ⟨c :: rest, m⟩) := by
  rw [gapFrom.eq_3 _ _ _ _ _ _ (by rintro _ rfl; exact absurd rfl h)]

/-- Behind the end of a line a key may begin, in column 0.  Of two characters that end a line
together the second may be passed on its own. -/
theorem gapFrom_break (h : isBreak c = true) (keyAllowed inComment : Bool) (m : Mark) :
    ∃ m', m'.column = 0 ∧ gapFrom false keyAllowed inComment (c :: rest) m =
      gapFrom false true false rest m' := by
  by_cases hcrlf : ∃ rest', c = '\r' ∧ rest = '\n' :: rest'
  · obtain ⟨rest', rfl, rfl⟩ := hcrlf
    refine ⟨⟨m.index + 1, m.line, 0⟩, rfl, ?_⟩
    rw [gapFrom, gapFrom_cons (by decide), if_pos (by decide)]
    simp [Mark.newline, Char.utf8Size]
  · refine ⟨m.newline c.utf8Size, rfl, ?_⟩
    rw [gapFrom.eq_3 _ _ _ _ _ _ (by rintro rest' rfl rfl; exact hcrlf ⟨rest', rfl, rfl⟩), if_pos h]
    simp

/-- A comment is passed with the end of its line. -/
theorem gapFrom_comment (h : ∀ c ∈ cs, isBreak c = false) (keyAllowed : Bool) (m : Mark) :
    ∃ m', m'.column = 0 ∧ gapFrom false keyAllowed true (cs ++ '\n' :: rest) m =
      gapFrom false true false rest m' := by
  induction cs generalizing m with
  | nil => exact gapFrom_break (by decide) keyAllowed true m
  | cons c cs ih =>
    rw [List.forall_mem_cons] at h
    have hreturn : c ≠ '\r' := by
      rintro rfl
      exact absurd h.1 (by decide)
    obtain ⟨m', hcolumn, hgap⟩ := ih h.2 (m.next c)
    refine ⟨m', hcolumn, ?_⟩
    rw [List.cons_append, gapFrom_cons hreturn, if_neg (by simp [h.1]), if_pos (by simp), hgap]

/-- Nothing is passed in front of a character that is neither white space nor begins a comment. -/
theorem gapFrom_stop (hbreak : isBreak c = false) (hbom : c ≠ byteOrderMark) (hspace : c ≠ ' ')
    (htab : c = '\t' → keyAllowed = true) (hcomment : c ≠ '#') :
    gapFrom false keyAllowed false (c :: rest) m = (keyAllowed, ⟨c :: rest, m⟩) := by
  have hreturn : c ≠ '\r' := by
    rintro rfl
    exact absurd hbreak (by decide)
  rw [gapFrom_cons hreturn, if_neg (by simp [hbreak])]
  by_cases ht : c = '\t'
  · simp [ht, htab ht, byteOrderMark]
  · simp [hbom, hspace, ht, hcomment]

/-! ## Which token begins -/

/-- The characters that mean something where a token begins, and the one that begins a mark of the
document. -/
def indicators : List Char :=
  ['-', '?', ':', '.', ',', '[', ']', '{', '}', '#', '&', '*', '!', '|', '>', '\'', '"', '%', '@',
    '\x60']

/-- Begins a plain scalar, whatever stands behind it. -/
def beginsPlain (c : Char) : Bool := !isGap c && !indicators.contains c

theorem not_mem_indicators {kind : Char → Bool} (hnone : indicators.any kind = false)
    (h : kind c = true) : c ∉ indicators := fun hmem =>
  List.any_eq_false.1 hnone c hmem h

theorem beginsPlain_of_isKeyChar (h : isKeyChar c = true) : beginsPlain c = true := by
  obtain ⟨hspace, hbreak⟩ := not_gap_of_isKeyChar h
  have hnot : c ∉ indicators := not_mem_indicators (by decide) h
  simp [beginsPlain, isGap, hspace, hbreak, hnot]

theorem fetchFrom_of_beginsPlain (h : beginsPlain c = true) (s : Lexer) :
    s.fetchFrom c rest = s.fetchPlain := by
  simp only [beginsPlain, Bool.and_eq_true, Bool.not_eq_true'] at h
  have hne : ∀ x ∈ indicators, c ≠ x := by
    rintro x hx rfl
    simp [hx] at h
  simp only [indicators, List.forall_mem_cons] at hne
  have hmark : isDocumentMark (c :: rest) = false := by
    rw [isDocumentMark.eq_3 _ (by simp [hne]) (by simp [hne])]
  simp [fetchFrom, startsPlain, hne, hmark, h.1]

/-- No block collection is closed at a column that none stands deeper than. -/
theorem closeBlocks_of_le (h : s.indent ≤ column) : s.closeBlocks column = s := by
  unfold closeBlocks
  split
  · rfl
  · cases s.indents with
    | nil => rfl
    | cons outer outers => rw [closeBlocksFrom, if_neg (by omega)]

/-- What is fetched behind a gap, if no block collection ends there. -/
theorem fetch_of_skipGap (hgap : s.skipGap.refreshKeys = .ok t) (hblocks : t.indent ≤ t.column) :
    s.fetch =
      match t.cursor.rest with
      | [] => t.fetchEnd
      | c :: rest => t.fetchFrom c rest := by
  rw [fetch, hgap]
  show (match (t.closeBlocks t.column).cursor.rest with
    | [] => (t.closeBlocks t.column).fetchEnd
    | c :: rest => (t.closeBlocks t.column).fetchFrom c rest) = _
  rw [closeBlocks_of_le hblocks]

/-- A plain scalar, behind the note that a key may have begun. -/
theorem fetchPlain_of_noteKey (hnote : s.noteKey = .ok t) {text : String} {after : Cursor}
    {lineEnded : Bool}
    (hread : plainFrom t.inFlow (t.indent + 1).toNat {} false t.cursor.rest t.mark =
      .ok (text, after, lineEnded)) :
    s.fetchPlain = .ok
      { t with
        keyAllowed := lineEnded
        waiting := t.waiting ++ [⟨.scalar text .plain, t.mark, after.mark⟩]
        cursor := after } := by
  simp only [inFlow, mark] at hread
  simp [fetchPlain, hnote, inFlow, mark, hread, Lexer.read, emit, bind, Except.bind, pure,
    Except.pure]

theorem noteKey_of_keyAllowed (hallowed : s.keyAllowed = true) (hdrop : s.dropKey = .ok t) :
    s.noteKey = .ok
      { t with possibleKey := some ⟨!s.inFlow && s.indent == s.column, s.nextNumber, s.mark⟩ } := by
  simp [noteKey, hallowed, hdrop, bind, Except.bind, pure, Except.pure]

end Lexer

end Fleet.Yaml

import Fleet.Proofs.Yaml.Steps

namespace Fleet.Yaml

/-! # Lines of one mapping

Some lines of a document give words texts, one a line, in the form `key: 'value'`; the others are
empty or comments.  `document` writes them.

A lexer comes from the beginning of one line to the beginning of the next (`Lexer.AtLine`): it
passes empty lines and comments, and takes an entry in a few steps (`AtLine.entry`), so by induction
it takes them all (`AtLine.lines`).  A key is looked for over 1024 characters at most; a longer one
is a flaw (`AtLine.longKey`).
-/

/-- May stand in a line of a document. -/
def isInline (c : Char) : Bool := isAllowed c && !isBreak c

/-- A word, and the text that it is given. -/
structure Entry where
  key : String
  value : String
  key_ne : key ≠ ""
  key_word : ∀ c ∈ key.toList, isKeyChar c = true
  value_inline : ∀ c ∈ value.toList, isInline c = true

/-- A line of a document that is written as one mapping of words. -/
inductive Line where
  | entry (e : Entry)
  | blank
  | comment (text : String) (inline : ∀ c ∈ text.toList, isInline c = true)

/-- How an entry is written: the key, and the value between single quotes. -/
def Entry.text (e : Entry) : List Char :=
  e.key.toList ++ ':' :: ' ' :: '\'' :: (doubled e.value.toList ++ ['\''])

/-- A line as it is written. -/
def Line.text : Line → List Char
  | entry e => e.text
  | blank => []
  | comment text _ => '#' :: text.toList

/-- The entry of a line, if it is one. -/
def Line.entry? : Line → Option Entry
  | entry e => some e
  | _ => none

/-- The text of some lines. -/
def document (ls : List Line) : List Char := ls.flatMap fun l => l.text ++ ['\n']

/-- The entries among some lines. -/
def entries (ls : List Line) : List Entry := ls.filterMap Line.entry?

/-- The key is short enough to be found. -/
def Entry.IsShort (e : Entry) : Prop := e.key.toList.length ≤ 1024

instance (e : Entry) : Decidable e.IsShort := inferInstanceAs (Decidable (_ ≤ _))

theorem document_cons (l : Line) (ls : List Line) :
    document (l :: ls) = l.text ++ '\n' :: document ls := by
  simp [document]

theorem document_append (ls more : List Line) :
    document (ls ++ more) = document ls ++ document more := by
  simp [document]

theorem not_break_of_isInline {c : Char} (h : isInline c = true) : isBreak c = false := by
  simp only [isInline, Bool.and_eq_true, Bool.not_eq_true'] at h
  exact h.2

/-- The kinds of the tokens of an entry. -/
def Entry.kinds (e : Entry) : List TokenKind :=
  [.key, .scalar e.key .plain, .value, .scalar e.value .singleQuoted]

theorem Entry.text_append (e : Entry) (rest : List Char) :
    e.text ++ rest =
      e.key.toList ++ ':' :: ' ' :: '\'' :: (doubled e.value.toList ++ '\'' :: rest) := by
  simp [text]

theorem Entry.key_toList_ne (e : Entry) : e.key.toList ≠ [] := fun h =>
  e.key_ne (String.toList_eq_nil_iff.1 h)

namespace Lexer

variable {cs key value rest : List Char} {m : Mark} {cursor : Cursor} {inside ka : Bool} {g : Nat}

/-- In front of a block mapping in column 0, or inside it.  No token waits. -/
def atTop (inside : Bool) (cursor : Cursor) (keyAllowed : Bool) (given : Nat) : Lexer :=
  { cursor, keyAllowed, given,
    indent := if inside then 0 else -1, indents := if inside then [-1] else [] }

/-- Behind a word in column 0 that may be a key. -/
def atColon (inside : Bool) (key rest : List Char) (m : Mark) (given : Nat) : Lexer :=
  { atTop inside ⟨':' :: ' ' :: rest, m.advance key⟩ false given with
    possibleKey := some ⟨inside, given, m⟩
    waiting := [⟨.scalar (String.ofList key) .plain, m, m.advance key⟩] }

theorem fetch_key (hkey : ∀ c ∈ key, isKeyChar c = true) (hne : key ≠ []) (hm : m.column = 0)
    (hgap : gapFrom false ka false cursor.rest cursor.mark =
      gapFrom false true false (key ++ ':' :: ' ' :: rest) m) :
    (atTop inside cursor ka g).fetch = .ok (atColon inside key rest m g) := by
  obtain ⟨c, cs, rfl⟩ := List.exists_cons_of_ne_nil hne
  have hc := hkey c (by simp)
  obtain ⟨hspace, hbreak⟩ := not_gap_of_isKeyChar hc
  have hstop : gapFrom false true false (c :: cs ++ ':' :: ' ' :: rest) m =
      (true, ⟨c :: cs ++ ':' :: ' ' :: rest, m⟩) :=
    gapFrom_stop hbreak (ne_of_isKeyChar hc (by decide)) (ne_of_isKeyChar hc (by decide))
      (fun _ => rfl) (ne_of_isKeyChar hc (by decide))
  have hskip : (atTop inside cursor ka g).skipGap =
      atTop inside ⟨c :: cs ++ ':' :: ' ' :: rest, m⟩ true g := by
    simp only [skipGap, atTop, inFlow, mark, List.isEmpty_nil, Bool.not_true]
    rw [hgap, hstop]
  have hkeys : (atTop inside cursor ka g).skipGap.refreshKeys =
      .ok (atTop inside ⟨c :: cs ++ ':' :: ' ' :: rest, m⟩ true g) := by
    rw [hskip, refreshKeys_of_none rfl rfl]
  rw [fetch_of_skipGap hkeys (by cases inside <;> simp [atTop, column, hm])]
  show fetchFrom _ c _ = _
  rw [fetchFrom_of_beginsPlain (beginsPlain_of_isKeyChar hc)]
  have hread : plainFrom false ((if inside then (0 : Int) else -1) + 1).toNat {} false
      (c :: cs ++ ':' :: ' ' :: rest) m = _ := plainFrom_word hkey _ []
  have hnote := noteKey_of_keyAllowed (s := atTop inside ⟨c :: cs ++ ':' :: ' ' :: rest, m⟩ true g)
    rfl rfl
  refine (fetchPlain_of_noteKey hnote hread).trans ?_
  cases inside <;> simp [atColon, atTop, inFlow, column, mark, nextNumber, hm]

/-- A word of up to 1024 characters is still a possible key when the `:` behind it is read. -/
theorem isStale_atColon (hkey : ∀ c ∈ key, isKeyChar c = true) :
    (atColon inside key rest m g).isStale ⟨inside, g, m⟩ = decide (1024 < key.length) := by
  have hindex := Mark.advance_index_of_isKeyChar hkey m
  simp only [isStale, atColon, atTop, mark, Mark.advance_line, hindex]
  by_cases hlong : 1024 < key.length <;> simp [hlong]

/-- Nothing is passed in front of a `:`. -/
theorem gapFrom_colon (m : Mark) :
    gapFrom false false false (':' :: rest) m = (false, ⟨':' :: rest, m⟩) :=
  gapFrom_stop (by decide) (by decide) (by decide) (fun h => absurd h (by decide)) (by decide)

theorem fetchFrom_colon (s : Lexer) : s.fetchFrom ':' (' ' :: rest) = s.fetchValue := by
  simp [fetchFrom, isDocumentMark, gapNext, isGap, isSpace]

/-- The tokens in front of the value of an entry; the first entry begins the mapping. -/
def keyTokens (inside : Bool) (key : List Char) (m : Mark) : List Token :=
  (if inside then [] else [⟨.blockMappingStart, m, m⟩]) ++
    [⟨.key, m, m⟩, ⟨.scalar (String.ofList key) .plain, m, m.advance key⟩,
      ⟨.value, m.advance key, (m.advance key).next ':'⟩]

/-- Behind a word of up to 1024 characters a `:` makes it a key. -/
theorem comes_colon (hkey : ∀ c ∈ key, isKeyChar c = true) (hshort : key.length ≤ 1024)
    (hm : m.column = 0) :
    Comes run 1 (atColon inside key rest m g) []
      { atTop true ⟨' ' :: rest, (m.advance key).next ':'⟩ false g with
        waiting := keyTokens inside key m } := by
  have hfresh : (atColon inside key rest m g).isStale ⟨inside, g, m⟩ = false := by
    rw [isStale_atColon hkey]
    simpa using hshort
  have hkeys : (atColon inside key rest m g).refreshKeys = .ok (atColon inside key rest m g) :=
    refreshKeys_of_fresh rfl rfl hfresh
  have hskip : (atColon inside key rest m g).skipGap = atColon inside key rest m g := by
    simp only [skipGap, atColon, atTop, inFlow, mark, List.isEmpty_nil, Bool.not_true]
    rw [gapFrom_colon]
  refine comes_await rfl hkeys (by simp [oldestMayBeKey, atColon, atTop]) ?_
  rw [fetch_of_skipGap (by rw [hskip, hkeys])
    (by cases inside <;> simp [atColon, atTop, column])]
  show fetchFrom _ ':' _ = _
  have hwidth : ':'.utf8Size = 1 := by decide
  rw [fetchFrom_colon]
  cases inside <;>
    simp [fetchValue, atColon, atTop, insertBefore, openBlock, inFlow, take, emit, keyTokens, hm,
      mark, Mark.next, hwidth]

/-- Without a possible key in front of it a `:` is misplaced. -/
theorem fetch_colon_of_noKey (m : Mark) (g : Nat) :
    (atTop false ⟨':' :: ' ' :: rest, m⟩ false g).fetch = .error .misplacedIndicator := by
  have hkeys : (atTop false ⟨':' :: ' ' :: rest, m⟩ false g).skipGap.refreshKeys =
      .ok (atTop false ⟨':' :: ' ' :: rest, m⟩ false g) := by
    simp only [skipGap, atTop, inFlow, mark, List.isEmpty_nil, Bool.not_true]
    rw [gapFrom_colon, refreshKeys_of_none rfl rfl]
  rw [fetch_of_skipGap hkeys (by simp [atTop, column])]
  exact fetchFrom_colon _

/-- A quoted text behind a `:` is fetched as it was written. -/
theorem fetch_quoted (hvalue : ∀ c ∈ value, isBreak c = false) (hrest : rest.head? ≠ some '\'')
    (m : Mark) :
    ∃ start stop, (atTop true ⟨' ' :: '\'' :: (doubled value ++ '\'' :: rest), m⟩ false g).fetch =
      .ok { atTop true ⟨rest, stop⟩ false g with
        waiting := [⟨.scalar (String.ofList value) .singleQuoted, start, stop⟩] } := by
  generalize htail : doubled value ++ '\'' :: rest = tail
  have hstop : gapFrom false false false ('\'' :: tail) (m.next ' ') =
      (false, ⟨'\'' :: tail, m.next ' '⟩) :=
    gapFrom_stop (by decide) (by decide) (by decide) (fun h => absurd h (by decide)) (by decide)
  have hgap : gapFrom false false false (' ' :: '\'' :: tail) m =
      (false, ⟨'\'' :: tail, m.next ' '⟩) := by
    rw [gapFrom_cons (by decide), if_neg (by decide), if_pos (by simp), hstop]
  have hkeys : (atTop true ⟨' ' :: '\'' :: tail, m⟩ false g).skipGap.refreshKeys =
      .ok (atTop true ⟨'\'' :: tail, m.next ' '⟩ false g) := by
    simp only [skipGap, atTop, inFlow, mark, List.isEmpty_nil, Bool.not_true]
    rw [hgap, refreshKeys_of_none rfl rfl]
  obtain ⟨stop, hread⟩ := singleQuotedFrom_doubled (m := (m.next ' ').next '\'') (d := {}) hvalue
    (Nat.succ_pos _) rfl hrest
  rw [htail] at hread
  refine ⟨m.next ' ', stop, ?_⟩
  rw [fetch_of_skipGap hkeys (by simp [atTop, column])]
  show fetchFrom _ '\'' _ = _
  have hquoted : fetchFrom (atTop true ⟨'\'' :: tail, m.next ' '⟩ false g) '\'' tail =
      fetchQuoted (atTop true ⟨'\'' :: tail, m.next ' '⟩ false g) true := by
    simp [fetchFrom, isDocumentMark]
  rw [hquoted]
  simp [fetchQuoted, noteKey, atTop, Cursor.skip, hread, Lexer.read, emit, mark, bind, Except.bind,
    pure, Except.pure, Draft.join, Draft.filling]

/-- At the end of the text the mapping ends, if there is one. -/
theorem fetch_end (inside : Bool) (cursor : Cursor) (g : Nat)
    (hgap : gapFrom false ka false cursor.rest cursor.mark = (true, ⟨[], m⟩)) :
    ∃ m', (atTop inside cursor ka g).fetch =
      .ok { cursor := ⟨[], m'⟩, keyAllowed := false, given := g, ended := true,
            waiting := (if inside then [⟨.blockEnd, m', m'⟩] else []) ++
              [⟨.streamEnd, m', m'⟩] } := by
  have hkeys : (atTop inside cursor ka g).skipGap.refreshKeys =
      .ok (atTop inside ⟨[], m⟩ true g) := by
    simp only [skipGap, atTop, inFlow, mark, List.isEmpty_nil, Bool.not_true]
    rw [hgap, refreshKeys_of_none rfl rfl]
  refine ⟨if m.column = 0 then m else { m with line := m.line + 1, column := 0 }, ?_⟩
  rw [fetch_of_skipGap hkeys (by cases inside <;> simp [atTop, column])]
  cases inside <;>
    simp [fetchEnd, atTop, closeBlocks, closeBlocksFrom, inFlow, dropKey, emit, mark, bind,
      Except.bind, pure, Except.pure]

/-! ## Lines one by one -/

/-- At the beginning of a line, but for the gap in front of it: in front of a block mapping in
column 0, or inside it. -/
inductive AtLine (inside : Bool) (rest : List Char) : Lexer → Prop where
  | behindGap {cursor : Cursor} {keyAllowed : Bool} {m : Mark} (given : Nat) (hm : m.column = 0)
      (hgap : gapFrom false keyAllowed false cursor.rest cursor.mark =
        gapFrom false true false rest m) :
      AtLine inside rest (atTop inside cursor keyAllowed given)

namespace AtLine

variable {s : Lexer}

/-- The beginning of a document. -/
theorem start (text : List Char) : AtLine false text { cursor := ⟨text, {}⟩ } :=
  @behindGap false text ⟨text, {}⟩ true {} 0 rfl rfl

/-- An empty line is passed. -/
theorem blank (h : AtLine inside ('\n' :: rest) s) : AtLine inside rest s := by
  obtain ⟨g, -, hgap⟩ := h
  have hfeed : isBreak '\n' = true := by decide
  obtain ⟨m', hm, hbreak⟩ := gapFrom_break hfeed true false _
  exact .behindGap g hm (hgap.trans hbreak)

/-- A comment is passed. -/
theorem comment (hcomment : ∀ c ∈ cs, isBreak c = false)
    (h : AtLine inside ('#' :: (cs ++ '\n' :: rest)) s) : AtLine inside rest s := by
  obtain @⟨_, _, m, g, -, hgap⟩ := h
  obtain ⟨m', hm, hpassed⟩ := gapFrom_comment hcomment true (m.next '#')
  have hsign : gapFrom false true false ('#' :: (cs ++ '\n' :: rest)) m =
      gapFrom false true true (cs ++ '\n' :: rest) (m.next '#') := by
    rw [gapFrom_cons (by decide), if_neg (by decide), if_neg (by simp [byteOrderMark]),
      if_pos (by decide)]
  exact .behindGap g hm (hgap.trans (hsign.trans hpassed))

/-- The first entry begins the mapping. -/
def opening (inside : Bool) : List TokenKind := if inside then [] else [.blockMappingStart]

/-- An entry with a key that is found gives its tokens in a few steps. -/
theorem entry {e : Entry} (hshort : e.IsShort) (h : AtLine inside (e.text ++ '\n' :: rest) s) :
    ∃ n tokens t, n ≤ 8 ∧ Comes run n s tokens t ∧
      tokens.map (·.kind) = opening inside ++ e.kinds ∧ AtLine true rest t := by
  rw [Entry.text_append] at h
  obtain @⟨_, _, m, g, hm, hgap⟩ := h
  have hvalue : ∀ c ∈ e.value.toList, isBreak c = false := fun c hc =>
    not_break_of_isInline (e.value_inline c hc)
  have hend : ('\n' :: rest).head? ≠ some '\'' := by simp
  obtain ⟨start, stop, hquoted⟩ :=
    fetch_quoted (g := g + (keyTokens inside e.key.toList m).length) hvalue hend
      ((m.advance e.key.toList).next ':')
  have hword : Comes run 1 (atTop inside _ _ g) [] (atColon inside e.key.toList _ m g) :=
    comes_fetch rfl rfl (fetch_key e.key_word e.key_toList_ne hm hgap)
  have hgiven := (hword.trans (comes_colon e.key_word hshort hm)).trans (comes_give rfl rfl rfl)
  have hboth := (hgiven.trans (comes_fetch rfl rfl hquoted)).trans (comes_give rfl rfl rfl)
  have hfeed : isBreak '\n' = true := by decide
  obtain ⟨m', hm', hbreak⟩ := gapFrom_break hfeed false false stop
  refine ⟨_, _, _, ?_, hboth, ?_, .behindGap _ hm' hbreak⟩
  · cases inside <;> simp [keyTokens]
  · cases inside <;> simp [keyTokens, opening, Entry.kinds]

/-- At the end of the text the last tokens are given out. -/
theorem ends (h : AtLine inside [] s) :
    ∃ n tokens, n ≤ 4 ∧ Ends run n s tokens none ∧
      tokens.map (·.kind) = (if inside then [.blockEnd] else []) ++ [.streamEnd] := by
  obtain @⟨_, _, m, g, -, hgap⟩ := h
  obtain ⟨m', hfetch⟩ := fetch_end inside _ g hgap
  have hgiven := (comes_fetch rfl rfl hfetch).trans (comes_give rfl rfl rfl)
  refine ⟨_, _, ?_, hgiven.ends (ends_of_ended rfl rfl), ?_⟩
  · cases inside <;> simp
  · cases inside <;> simp

/-- A word of more than 1024 characters is no key: the text has a flaw at the `:` behind it. -/
theorem longKey {e : Entry} (hlong : ¬ e.IsShort) (h : AtLine inside (e.text ++ rest) s) :
    ∃ n tokens flaw, n ≤ 3 ∧ Ends run n s tokens (some flaw) ∧
      tokens.map (·.kind) = if inside then [] else [.scalar e.key .plain] := by
  rw [Entry.text_append] at h
  generalize '\'' :: (doubled e.value.toList ++ '\'' :: rest) = more at h
  obtain @⟨_, _, m, g, hm, hgap⟩ := h
  have hword : Comes run 1 (atTop inside _ _ g) [] (atColon inside e.key.toList _ m g) :=
    comes_fetch rfl rfl (fetch_key e.key_word e.key_toList_ne hm hgap)
  have hstale : (atColon inside e.key.toList more m g).isStale ⟨inside, g, m⟩ = true := by
    rw [isStale_atColon e.key_word]
    simpa [Entry.IsShort] using hlong
  have hkeys := refreshKeys_of_stale rfl rfl hstale
  cases inside with
  | true => exact ⟨_, [], _, by decide, hword.ends (ends_of_refreshKeys rfl hkeys), rfl⟩
  | false =>
    -- in front of a mapping the word may be something else, but then the `:` is misplaced
    have hgiven := hword.trans (comes_giveOne rfl hkeys rfl)
    refine ⟨_, _, _, by decide, hgiven.ends (ends_of_fetch rfl rfl (fetch_colon_of_noKey _ _)), ?_⟩
    simp

/-- Lines with keys that are found give the tokens of their entries; the first entry begins the
mapping. -/
theorem lines {ls : List Line} (hshort : ∀ e ∈ entries ls, e.IsShort)
    (h : AtLine inside (document ls ++ rest) s) :
    ∃ n tokens t, n ≤ 8 * (document ls).length ∧ Comes run n s tokens t ∧
      tokens.map (·.kind) =
        (if entries ls = [] then [] else opening inside) ++ (entries ls).flatMap Entry.kinds ∧
      AtLine (inside || !(entries ls).isEmpty) rest t := by
  induction ls generalizing inside s with
  | nil =>
    refine ⟨0, [], s, by simp, .refl s, by simp [entries], ?_⟩
    simpa [entries, document] using h
  | cons l ls ih =>
    rw [document_cons, List.append_assoc, List.cons_append] at h
    have hlonger : (document ls).length ≤ (document (l :: ls)).length := by
      simp only [document_cons, List.length_append, List.length_cons]
      omega
    cases l with
    | blank =>
      obtain ⟨n, tokens, t, hn, hcomes, hkinds, hline⟩ := ih hshort h.blank
      exact ⟨n, tokens, t, by omega, hcomes, hkinds, hline⟩
    | comment text inline =>
      have hbehind := h.comment fun c hc => not_break_of_isInline (inline c hc)
      obtain ⟨n, tokens, t, hn, hcomes, hkinds, hline⟩ := ih hshort hbehind
      exact ⟨n, tokens, t, by omega, hcomes, hkinds, hline⟩
    | entry e =>
      have hentries : entries (.entry e :: ls) = e :: entries ls := rfl
      rw [hentries, List.forall_mem_cons] at hshort
      obtain ⟨n, tokens, t, hn, hcomes, hkinds, hline⟩ := h.entry hshort.1
      obtain ⟨k, more, u, hk, hcomes', hkinds', hline'⟩ := ih hshort.2 hline
      refine ⟨k + n, tokens ++ more, u, ?_, hcomes.trans hcomes', ?_, ?_⟩
      · simp only [document_cons, List.length_append, List.length_cons]
        omega
      · rw [hentries, List.map_append, hkinds, hkinds']
        simp [opening]
      · simpa [hentries] using hline'

end AtLine

end Lexer

end Fleet.Yaml

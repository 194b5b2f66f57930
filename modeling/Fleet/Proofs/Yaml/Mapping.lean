import Fleet.Proofs.Yaml.Entry
import Fleet.Yaml.Document

namespace Fleet.Yaml

/-! # Documents of one mapping

A document of lines `key: 'value'`, with empty lines and comments anywhere between them, is read as
the mapping of these keys to these values, in this order (`ofText_document`).  With a key that is
too long to be found it has a flaw (`flaw_document_of_long`).
-/

variable {ls : List Line} {es : List Entry} {e : Entry} {broken : Flaw}

/-! ## What may stand in a document -/

theorem isInline_of_isKeyChar {c : Char} (h : isKeyChar c = true) : isInline c = true := by
  have hallowed : isAllowed c = true := by
    have hcode := toNat_of_isKeyChar h
    simp only [isAllowed, Bool.or_eq_true, Bool.and_eq_true, decide_eq_true_eq, beq_iff_eq]
    omega
  rw [isInline, hallowed, (not_gap_of_isKeyChar h).2]
  rfl

theorem mem_of_mem_doubled {c : Char} {cs : List Char} (h : c ∈ doubled cs) : c ∈ cs := by
  induction cs with
  | nil => exact h
  | cons x cs ih =>
    by_cases hquote : x = '\''
    · subst hquote
      rw [doubled, List.mem_cons, List.mem_cons] at h
      obtain rfl | rfl | h := h
      · exact List.mem_cons_self
      · exact List.mem_cons_self
      · exact List.mem_cons_of_mem _ (ih h)
    · rw [doubled_cons hquote, List.mem_cons] at h
      obtain rfl | h := h
      · exact List.mem_cons_self
      · exact List.mem_cons_of_mem _ (ih h)

theorem isInline_of_mem_text {l : Line} {c : Char} (h : c ∈ l.text) : isInline c = true := by
  cases l with
  | blank => cases h
  | comment text inline =>
    obtain rfl | h := List.mem_cons.1 h
    · decide
    · exact inline c h
  | entry e =>
    simp only [Line.text, Entry.text, List.mem_append, List.mem_cons, List.not_mem_nil,
      or_false] at h
    obtain h | rfl | rfl | rfl | h | rfl := h
    · exact isInline_of_isKeyChar (e.key_word c h)
    · decide
    · decide
    · decide
    · exact e.value_inline c (mem_of_mem_doubled h)
    · decide

theorem all_isAllowed_document (ls : List Line) : (document ls).all isAllowed = true := by
  rw [List.all_eq_true]
  intro c hc
  obtain ⟨l, -, hc⟩ := List.mem_flatMap.1 hc
  obtain hc | rfl : c ∈ l.text ∨ c = '\n' := by simpa using hc
  · exact (Bool.and_eq_true_iff.1 (isInline_of_mem_text hc)).1
  · decide

/-! ## Tokens -/

namespace Lexer

/-- The kinds of the tokens of the whole document. -/
theorem tokens_document (hshort : ∀ e ∈ entries ls, e.IsShort) (hsome : entries ls ≠ []) :
    ∃ out, tokens (document ls) = (out, none) ∧
      out.map (·.kind) =
        .blockMappingStart :: ((entries ls).flatMap Entry.kinds ++ [.blockEnd, .streamEnd]) := by
  have hstart := AtLine.start (document ls ++ [])
  obtain ⟨n, front, t, hn, hcomes, hfront, hline⟩ := AtLine.lines hshort hstart
  obtain ⟨k, back, hk, hends, hback⟩ := hline.ends
  refine ⟨front ++ back, ?_, ?_⟩
  · rw [tokens, if_pos (all_isAllowed_document ls)]
    have hall := hcomes.ends hends
    rw [List.append_nil] at hall
    exact hall.run_eq (by omega)
  · rw [List.map_append, hfront, hback]
    simp [hsome, AtLine.opening]

/-- With a key that is too long the tokens end behind the entries in front of it, or behind the key
itself if it is the first. -/
theorem tokens_document_of_long {front : List Line} (back : List Line)
    (hshort : ∀ e ∈ entries front, e.IsShort) (hlong : ¬ e.IsShort) :
    ∃ out flaw, tokens (document (front ++ .entry e :: back)) = (out, some flaw) ∧
      (out.map (·.kind) = [.scalar e.key .plain] ∨
        out.map (·.kind) = .blockMappingStart :: (entries front).flatMap Entry.kinds) := by
  have hstart := AtLine.start (document front ++ (e.text ++ '\n' :: document back))
  obtain ⟨n, out, t, hn, hcomes, hout, hline⟩ := AtLine.lines hshort hstart
  obtain ⟨k, last, flaw, hk, hends, hlast⟩ := hline.longKey hlong
  have htext : document (front ++ .entry e :: back) =
      document front ++ (e.text ++ '\n' :: document back) := by
    rw [document_append, document_cons]
    rfl
  refine ⟨out ++ last, flaw, ?_, ?_⟩
  · rw [tokens, if_pos (all_isAllowed_document _), htext]
    exact (hcomes.ends hends).run_eq (by simp only [List.length_append]; omega)
  · rw [List.map_append, hout, hlast]
    by_cases hnone : entries front = []
    · simp [hnone]
    · simp [hnone, AtLine.opening]

end Lexer

/-! ## Events -/

/-- What an entry says. -/
def Entry.events (e : Entry) : List Event :=
  [.scalar none none e.key .plain, .scalar none none e.value .singleQuoted]

namespace Reading

variable {tokens rest : List Token} {kind : TokenKind} {kinds : List TokenKind}

/-- The first of some tokens, by its kind. -/
theorem tokens_eq_cons (h : tokens.map (·.kind) = kind :: kinds) :
    ∃ start stop rest, tokens = ⟨kind, start, stop⟩ :: rest ∧ rest.map (·.kind) = kinds := by
  obtain ⟨⟨_, start, stop⟩, rest, rfl, rfl, hrest⟩ := List.map_eq_cons_iff.1 h
  exact ⟨start, stop, rest, rfl, hrest⟩

/-- Inside the one mapping of a document, where a key may come next.  In front of the first key the
token that began the mapping is still there. -/
def inMapping (opening : Option Token) (tokens : List Token) (broken : Flaw) : Reading :=
  inDocument (.blockKey opening.isSome) (opening.toList ++ tokens) broken

theorem inMapping_state (opening : Option Token) (tokens : List Token) (broken : Flaw) :
    (inMapping opening tokens broken).state ≠ .finished := by
  simp [inMapping, inDocument]

/-- An entry in two steps. -/
theorem comes_entry (opening : Option Token) (h : tokens.map (·.kind) = e.kinds)
    (rest : List Token) (broken : Flaw) :
    ∃ out, Comes run 2 (inMapping opening (tokens ++ rest) broken) out
        (inMapping none rest broken) ∧
      out.map (·.event) = e.events := by
  obtain ⟨key, key', behindKey, rfl, hkey⟩ := tokens_eq_cons h
  obtain ⟨word, word', behindWord, rfl, hword⟩ := tokens_eq_cons hkey
  obtain ⟨value, value', behindValue, rfl, hvalue⟩ := tokens_eq_cons hword
  obtain ⟨text, text', last, rfl, hlast⟩ := tokens_eq_cons hvalue
  obtain rfl := List.map_eq_nil_iff.1 hlast
  generalize hbehind : Token.mk .value value value' ::
    ⟨.scalar e.value .singleQuoted, text, text'⟩ :: rest = behind
  have hfirst : Comes run 1
      (inMapping opening (⟨.key, key, key'⟩ :: ⟨.scalar e.key .plain, word, word'⟩ :: behind)
        broken)
      [⟨.scalar none none e.key .plain, word⟩] (inDocument .blockValue behind broken) := by
    refine comes_event (inMapping_state _ _ _) ?_
    cases opening <;> rfl
  have hsecond : Comes run 1 (inDocument .blockValue behind broken)
      [⟨.scalar none none e.value .singleQuoted, text⟩] (inMapping none rest broken) :=
    comes_event (by simp [inDocument]) (hbehind ▸ rfl)
  have hboth := hfirst.trans hsecond
  rw [← hbehind] at hboth
  exact ⟨_, hboth, rfl⟩

theorem comes_entries (opening : Option Token)
    (h : tokens.map (·.kind) = es.flatMap Entry.kinds) (rest : List Token) (broken : Flaw) :
    ∃ out opening', Comes run (2 * es.length) (inMapping opening (tokens ++ rest) broken) out
        (inMapping opening' rest broken) ∧
      out.map (·.event) = es.flatMap Entry.events := by
  induction es generalizing tokens opening with
  | nil =>
    obtain rfl := List.map_eq_nil_iff.1 h
    exact ⟨[], opening, .refl _, rfl⟩
  | cons e es ih =>
    obtain ⟨first, more, rfl, hfirst, hmore⟩ := List.map_eq_append_iff.1 h
    obtain ⟨out, hcomes, hout⟩ := comes_entry opening hfirst (more ++ rest) broken
    obtain ⟨out', opening', hcomes', hout'⟩ := ih none hmore
    refine ⟨out ++ out', opening', ?_, by simp [hout, hout']⟩
    rw [List.append_assoc]
    exact hcomes.trans hcomes'

/-- The beginning of the mapping is an event of its own. -/
theorem comes_opening (start stop : Mark) (tokens : List Token) (broken : Flaw) :
    Comes run 2 { tokens := ⟨.blockMappingStart, start, stop⟩ :: tokens, broken }
      [⟨.mappingStart none none, start⟩]
      (inMapping (some ⟨.blockMappingStart, start, stop⟩) tokens broken) := by
  let all := Token.mk .blockMappingStart start stop :: tokens
  have hdocument : Comes run 1 { tokens := all, broken } [] (inDocument .blockNode all broken) :=
    comes_on (by simp) rfl
  have hopening : Comes run 1 (inDocument .blockNode all broken) [⟨.mappingStart none none, start⟩]
      (inMapping (some ⟨.blockMappingStart, start, stop⟩) tokens broken) :=
    comes_event (by simp [inDocument]) rfl
  exact hdocument.trans hopening

/-- The end of the mapping is the end of the document. -/
theorem ends_mapping (opening : Option Token)
    (h : tokens.map (·.kind) = [.blockEnd, .streamEnd]) (broken : Flaw) :
    ∃ mark, Ends run 3 (inMapping opening tokens broken) [⟨.mappingEnd, mark⟩] none := by
  obtain ⟨mark, stop, behindMapping, rfl, hmapping⟩ := tokens_eq_cons h
  have hclosing : Comes run 1 (inMapping opening (⟨.blockEnd, mark, stop⟩ :: behindMapping) broken)
      [⟨.mappingEnd, mark⟩] (behindNode behindMapping broken) := by
    refine comes_event (inMapping_state _ _ _) ?_
    cases opening <;> rfl
  have hend : Comes run 1 (behindNode behindMapping broken) []
      { behindNode behindMapping broken with state := .finished } := by
    obtain ⟨_, _, last, rfl, -⟩ := tokens_eq_cons hmapping
    exact comes_on (by simp [behindNode]) rfl
  exact ⟨mark, (hclosing.trans hend).ends (ends_of_finished rfl)⟩

/-- A mapping that breaks off has a flaw. -/
theorem ends_inMapping_nil (opening : Option Token) (broken : Flaw) :
    Ends run 1 (inMapping opening [] broken) [] (some broken) := by
  refine ends_of_step (inMapping_state _ _ _) ?_
  cases opening <;> rfl

/-- So has a document that breaks off behind its only scalar. -/
theorem ends_scalar {text : String} {style : Style} (h : tokens.map (·.kind) = [.scalar text style])
    (broken : Flaw) :
    ∃ mark, Ends run 3 { tokens, broken } [⟨.scalar none none text style, mark⟩]
      (some .furtherDocument) := by
  obtain ⟨mark, stop, last, rfl, hlast⟩ := tokens_eq_cons h
  obtain rfl := List.map_eq_nil_iff.1 hlast
  exact ⟨mark, (comes_scalar text style mark stop [] broken).ends
    (ends_of_step (by simp [behindNode]) rfl)⟩

end Reading

theorem length_flatMap_kinds (es : List Entry) :
    (es.flatMap Entry.kinds).length = 4 * es.length := by
  induction es with
  | nil => rfl
  | cons e es ih =>
    rw [List.flatMap_cons, List.length_append, ih, List.length_cons]
    simp only [Entry.kinds, List.length_cons, List.length_nil]
    omega

/-- The events of a document with keys that are found. -/
theorem events_document (hshort : ∀ e ∈ entries ls, e.IsShort) (hsome : entries ls ≠ []) :
    ∃ out, events (document ls) = (out, none) ∧
      out.map (·.event) =
        .mappingStart none none :: ((entries ls).flatMap Entry.events ++ [.mappingEnd]) := by
  obtain ⟨tokens, htokens, hkinds⟩ := Lexer.tokens_document hshort hsome
  obtain ⟨start, stop, tokens, rfl, hrest⟩ := Reading.tokens_eq_cons hkinds
  obtain ⟨middle, last, rfl, hmiddle, hlast⟩ := List.map_eq_append_iff.1 hrest
  have hopening := Reading.comes_opening start stop (middle ++ last) .unexpectedToken
  obtain ⟨out, opening, hcomes, hout⟩ := Reading.comes_entries _ hmiddle last .unexpectedToken
  obtain ⟨mark, hends⟩ := Reading.ends_mapping opening hlast .unexpectedToken
  have hlength : middle.length = 4 * (entries ls).length := by
    rw [← length_flatMap_kinds, ← hmiddle, List.length_map]
  refine ⟨⟨.mappingStart none none, start⟩ :: (out ++ [⟨.mappingEnd, mark⟩]), ?_, by simp [hout]⟩
  rw [events, htokens]
  exact (hopening.ends (hcomes.ends hends)).run_eq
    (by simp only [List.length_cons, List.length_append]; omega)

/-- The first key that is too long. -/
theorem exists_first_long (hlong : ∃ e ∈ entries ls, ¬ e.IsShort) :
    ∃ front e back, ls = front ++ .entry e :: back ∧ (∀ e ∈ entries front, e.IsShort) ∧
      ¬ e.IsShort := by
  obtain ⟨e, he, hlong⟩ := hlong
  induction ls with
  | nil => cases he
  | cons l ls ih =>
    cases l with
    | blank =>
      obtain ⟨front, e', back, rfl, hshort, hlong'⟩ := ih he
      exact ⟨.blank :: front, e', back, rfl, hshort, hlong'⟩
    | comment text inline =>
      obtain ⟨front, e', back, rfl, hshort, hlong'⟩ := ih he
      exact ⟨.comment text inline :: front, e', back, rfl, hshort, hlong'⟩
    | entry first =>
      by_cases hfirst : first.IsShort
      · have htail : e ∈ entries ls := (List.mem_cons.1 he).resolve_left fun heq =>
          hlong (heq ▸ hfirst)
        obtain ⟨front, e', back, rfl, hshort, hlong'⟩ := ih htail
        exact ⟨.entry first :: front, e', back, rfl, List.forall_mem_cons.2 ⟨hfirst, hshort⟩,
          hlong'⟩
      · exact ⟨[], first, ls, rfl, by simp [entries], hfirst⟩

/-- With a key that is too long a document has a flaw. -/
theorem events_document_of_long (hlong : ∃ e ∈ entries ls, ¬ e.IsShort) :
    ∃ out flaw, events (document ls) = (out, some flaw) := by
  obtain ⟨front, e, back, rfl, hshort, hlong⟩ := exists_first_long hlong
  obtain ⟨tokens, flaw, htokens, hkinds | hkinds⟩ :=
    Lexer.tokens_document_of_long back hshort hlong
  · obtain ⟨mark, hends⟩ := Reading.ends_scalar hkinds flaw
    refine ⟨[⟨.scalar none none e.key .plain, mark⟩], .furtherDocument, ?_⟩
    rw [events, htokens]
    exact hends.run_eq (by omega)
  · obtain ⟨start, stop, tokens, rfl, hrest⟩ := Reading.tokens_eq_cons hkinds
    have hopening := Reading.comes_opening start stop tokens flaw
    obtain ⟨out, opening, hcomes, -⟩ := Reading.comes_entries _ hrest [] flaw
    rw [List.append_nil] at hcomes
    have hlength : tokens.length = 4 * (entries front).length := by
      rw [← length_flatMap_kinds, ← hrest, List.length_map]
    refine ⟨⟨.mappingStart none none, start⟩ :: (out ++ []), flaw, ?_⟩
    rw [events, htokens]
    exact (hopening.ends (hcomes.ends (Reading.ends_inMapping_nil opening flaw))).run_eq
      (by simp only [List.length_cons]; omega)

/-! ## Items -/

/-- The items of an entry. -/
def Entry.items (e : Entry) : List Item :=
  [.scalar none e.key .plain, .scalar none e.value .singleQuoted]

/-- The item of an event that has no anchor. -/
def Event.bare? : Event → Option Item
  | .scalar none tag text style => some (.scalar tag text style)
  | .sequenceStart none _ => some .sequence
  | .mappingStart none _ => some .mapping
  | .sequenceEnd | .mappingEnd => some .stop
  | _ => none

namespace Document

/-- An event without an anchor changes nothing for those behind it. -/
theorem ofEvents_cons {event : Event} {item : Item} (h : event.bare? = some item)
    (flaw : Option Flaw) (anchors : Anchors) (mark : Mark) (rest : List Located) :
    ofEvents flaw anchors (⟨event, mark⟩ :: rest) =
      (ofEvents flaw anchors rest).cons ⟨item, mark⟩ none := by
  cases event with
  | «alias» name => cases h
  | scalar anchor tag text style => cases anchor <;> cases h; rfl
  | sequenceStart anchor tag => cases anchor <;> cases h; rfl
  | mappingStart anchor tag => cases anchor <;> cases h; rfl
  | sequenceEnd => cases h; rfl
  | mappingEnd => cases h; rfl

/-- Without anchors and aliases a document has its events as items. -/
theorem ofEvents_of_bare {events : List Located} {items : List Item} {anchors : Anchors}
    {flaw : Option Flaw} (h : events.map (·.event.bare?) = items.map some) :
    ∃ placed, ofEvents flaw anchors events = { items := placed, flaw } ∧
      placed.map (·.item) = items := by
  induction events generalizing items with
  | nil =>
    obtain rfl := List.map_eq_nil_iff.1 h.symm
    exact ⟨[], rfl, rfl⟩
  | cons located events ih =>
    obtain ⟨item, items, rfl, hitem, hitems⟩ := List.map_eq_cons_iff.1 h.symm
    obtain ⟨placed, hrest, hplaced⟩ := ih hitems.symm
    refine ⟨⟨item, located.mark⟩ :: placed, ?_, by rw [List.map_cons, hplaced]⟩
    rw [ofEvents_cons hitem.symm, hrest]
    rfl

/-- A flaw of the text is never lost. -/
theorem flaw_ofEvents (flaw : Flaw) (anchors : Anchors) (events : List Located) :
    (ofEvents (some flaw) anchors events).flaw ≠ none := by
  induction events generalizing anchors with
  | nil => simp [ofEvents]
  | cons located events ih =>
    obtain ⟨event, mark⟩ := located
    cases event with
    | «alias» name =>
      rw [ofEvents]
      split
      · exact ih anchors
      · simp
    | scalar anchor tag text style => cases anchor <;> exact ih _
    | sequenceStart anchor tag => cases anchor <;> exact ih _
    | mappingStart anchor tag => cases anchor <;> exact ih _
    | sequenceEnd => exact ih anchors
    | mappingEnd => exact ih anchors

/-- A document with keys that are found is the mapping of its entries, in their order. -/
theorem ofText_document (hshort : ∀ e ∈ entries ls, e.IsShort) (hsome : entries ls ≠ []) :
    ∃ placed, ofText (document ls) = { items := placed } ∧
      placed.map (·.item) = .mapping :: ((entries ls).flatMap Entry.items ++ [.stop]) := by
  obtain ⟨out, hevents, hout⟩ := events_document hshort hsome
  rw [ofText, hevents]
  refine ofEvents_of_bare ?_
  rw [show (fun located : Located => located.event.bare?) = Event.bare? ∘ Located.event from rfl,
    ← List.map_map, hout]
  simp [Entry.events, Entry.items, Event.bare?, List.map_flatMap]

theorem flaw_document_of_long (hlong : ∃ e ∈ entries ls, ¬ e.IsShort) :
    (ofText (document ls)).flaw ≠ none := by
  obtain ⟨out, flaw, hevents⟩ := events_document_of_long hlong
  rw [ofText, hevents]
  exact flaw_ofEvents flaw [] out

end Document

end Fleet.Yaml

import Fleet.Proofs.Settings.Shortcut
import Mathlib.Data.List.Nodup

namespace Fleet.Settings

/-! # Settings that are given one a line

A settings file of lines `key: 'value'`, with empty lines and comments anywhere between them, gives
each of its keys the text behind it.  If the keys name settings and none occurs twice, the file says
the defaults with these settings in their place (`overriding`), whatever the order of its lines; any
other such file is at fault (`parse_document`).

The entries are read one by one: `readFields_of_known` and `readFields_of_fault` are by induction on
them, with the settings that were given before.
-/

open Yaml (Document Item Line Mark Placed document entries)

variable {ls : List Line} {es : List Yaml.Entry} {e : Yaml.Entry} {d : Document} {start : Mark}
  {cut : Yaml.Flaw} {given : Given} {field : Field}

/-! ## Names -/

theorem Field.ofName?_eq_some_iff {name : String} :
    ofName? name = some field ↔ field.name = name := by
  constructor
  · intro h
    simpa using List.find?_some h
  · rintro rfl
    exact ofName?_name field

theorem Field.name_injective {f g : Field} (h : f.name = g.name) : f = g := by
  have hname := ofName?_eq_some_iff.2 h
  rw [ofName?_name] at hname
  exact (Option.some.inj hname).symm

/-- The key names a setting. -/
def IsKnown (e : Yaml.Entry) : Prop := ∃ field : Field, field.name = e.key

/-- A key that names a setting is short. -/
theorem IsKnown.isShort (h : IsKnown e) : e.IsShort := by
  obtain ⟨field, hname⟩ := h
  rw [Yaml.Entry.IsShort, ← hname]
  cases field <;> decide

/-! ## The settings that are given -/

/-- The defaults, with those settings in their place for which there is a text. -/
def overriding (text : Field → Option String) : Settings where
  reposFile := ((text .reposFile).map Path.mk).getD ({} : Settings).reposFile
  descriptionFile := ((text .descriptionFile).map Path.mk).getD ({} : Settings).descriptionFile
  workDir := ((text .workDir).map Path.mk).getD ({} : Settings).workDir
  resultsDir := (text .resultsDir).map Path.mk
  latestResults := ((text .latestResults).map Path.mk).getD ({} : Settings).latestResults
  cloneHost := (text .cloneHost).getD ({} : Settings).cloneHost

/-- The text that the first entry with the name of a setting gives it. -/
def textIn (es : List Yaml.Entry) (field : Field) : Option String :=
  (es.find? fun e => e.key == field.name).map (·.value)

theorem give_overriding (text : Field → Option String) (field : Field) (value : String) :
    (overriding text).give field (some value) =
      overriding fun f => if f = field then some value else text f := by
  cases field <;> simp [give, overriding]

/-- What some entries give, latest first. -/
def givenBy (es : List Yaml.Entry) : Given :=
  es.filterMap fun e => (Field.ofName? e.key).map (·, some e.value)

theorem ofGiven_givenBy (es : List Yaml.Entry) : ofGiven (givenBy es) = overriding (textIn es) := by
  induction es with
  | nil => rfl
  | cons e es ih =>
    cases hname : Field.ofName? e.key with
    | none =>
      have hsame : textIn (e :: es) = textIn es := by
        funext f
        have hf : e.key ≠ f.name := by
          intro he
          rw [he, Field.ofName?_name] at hname
          cases hname
        simp [textIn, hf]
      rw [hsame, ← ih]
      simp [givenBy, hname]
    | some field =>
      have hfirst : textIn (e :: es) =
          fun f => if f = field then some e.value else textIn es f := by
        funext f
        have hiff : e.key = f.name ↔ f = field := by
          rw [← Field.ofName?_eq_some_iff.1 hname]
          exact ⟨fun h => (Field.name_injective h).symm, fun h => h ▸ rfl⟩
        by_cases hf : f = field
        · simp [textIn, hiff.2 hf, hf]
        · simp [textIn, mt hiff.1 hf, hf]
      rw [hfirst, ← give_overriding, ← ih]
      simp [givenBy, hname, ofGiven]

theorem textIn_eq_some_iff (hnodup : (es.map (·.key)).Nodup) {value : String} :
    textIn es field = some value ↔ ∃ e ∈ es, e.key = field.name ∧ e.value = value := by
  rw [textIn, Option.map_eq_some_iff]
  constructor
  · rintro ⟨e, hfind, hvalue⟩
    exact ⟨e, List.mem_of_find?_eq_some hfind, by simpa using List.find?_some hfind, hvalue⟩
  · rintro ⟨e, he, hkey, hvalue⟩
    refine ⟨e, ?_, hvalue⟩
    cases hfind : es.find? fun e => e.key == field.name with
    | none => exact absurd hkey (by simpa using List.find?_eq_none.1 hfind e he)
    | some e' =>
      have hkey' : e'.key = field.name := by simpa using List.find?_some hfind
      have hsame := List.inj_on_of_nodup_map hnodup (List.mem_of_find?_eq_some hfind) he
        (hkey'.trans hkey.symm)
      rw [hsame]

theorem textIn_of_perm {es' : List Yaml.Entry} (h : es.Perm es') (hnodup : (es.map (·.key)).Nodup) :
    textIn es = textIn es' := by
  funext field
  refine Option.ext fun value => ?_
  rw [textIn_eq_some_iff hnodup, textIn_eq_some_iff ((h.map _).nodup_iff.1 hnodup)]
  simp only [h.mem_iff]

/-! ## Reading entries -/

section

variable {placed : List Placed} {rest : List Item}

/-- A key that names a setting that was not given before is read with the text behind it. -/
theorem readFields_entry (hplaced : placed.map (·.item) = e.items ++ rest)
    (hname : field.name = e.key) (hnew : given.lookup field = none) :
    ∃ more, readFields d start cut given placed =
        readFields d start cut ((field, some e.value) :: given) more ∧
      more.map (·.item) = rest := by
  obtain ⟨⟨_, mark⟩, tail, rfl, rfl, htail⟩ := List.map_eq_cons_iff.1 hplaced
  obtain ⟨⟨_, mark'⟩, more, rfl, rfl, hmore⟩ := List.map_eq_cons_iff.1 htail
  have hkey : readKey d ⟨.scalar none e.key .plain, mark⟩ = .ok (field, e.key) := by
    simp [readKey, Document.resolve, ← hname, Field.ofName?_name]
  have hvalue : readValue d start field e.key ⟨.scalar none e.value .singleQuoted, mark'⟩ =
      .ok (some e.value) := by
    simp [readValue, Document.resolve, Field.value, Except.mapError]
  refine ⟨more, ?_, hmore⟩
  conv_lhs => rw [readFields.eq_2 _ _ _ _ _ _ (by simp)]
  simp [hkey, hvalue, hnew, bind, Except.bind]

/-- A key that names no setting, or one that was given before, is at fault. -/
theorem readFields_fault (hplaced : placed.map (·.item) = e.items ++ rest)
    (hfault : ∀ field : Field, field.name = e.key → given.lookup field ≠ none) :
    ∃ error, readFields d start cut given placed = .error error := by
  obtain ⟨⟨_, mark⟩, tail, rfl, rfl, htail⟩ := List.map_eq_cons_iff.1 hplaced
  rw [readFields.eq_2 _ _ _ _ _ _ (by simp)]
  cases hname : Field.ofName? e.key with
  | none =>
    have hkey : readKey d ⟨.scalar none e.key .plain, mark⟩ =
        .error (.content (.unknownField e.key) none mark) := by
      simp [readKey, Document.resolve, hname]
    rw [hkey]
    exact ⟨_, rfl⟩
  | some field =>
    have hkey : readKey d ⟨.scalar none e.key .plain, mark⟩ = .ok (field, e.key) := by
      simp [readKey, Document.resolve, hname]
    have hbefore := hfault field (Field.ofName?_eq_some_iff.1 hname)
    rw [hkey]
    exact ⟨_, if_pos (Option.isSome_iff_ne_none.2 hbefore)⟩

/-- Keys that name different settings, none of them given before, are all read. -/
theorem readFields_of_known (hplaced : placed.map (·.item) = es.flatMap Yaml.Entry.items ++ [.stop])
    (hknown : ∀ e ∈ es, IsKnown e) (hnodup : (es.map (·.key)).Nodup)
    (hnew : ∀ e ∈ es, ∀ field : Field, field.name = e.key → given.lookup field = none) :
    readFields d start cut given placed = .ok (givenBy es.reverse ++ given) := by
  induction es generalizing given placed with
  | nil =>
    obtain ⟨⟨_, mark⟩, tail, rfl, rfl, -⟩ := List.map_eq_cons_iff.1 hplaced
    rfl
  | cons e es ih =>
    rw [List.forall_mem_cons] at hknown hnew
    rw [List.map_cons, List.nodup_cons] at hnodup
    rw [List.flatMap_cons, List.append_assoc] at hplaced
    obtain ⟨field, hname⟩ := hknown.1
    obtain ⟨more, hread, hmore⟩ := readFields_entry hplaced hname (hnew.1 field hname)
    rw [hread, ih hmore hknown.2 hnodup.2]
    · simp [givenBy, ← hname, Field.ofName?_name]
    · intro e' he' f hf
      have hother : f ≠ field := by
        rintro rfl
        exact hnodup.1 (List.mem_map.2 ⟨e', he', hf.symm.trans hname⟩)
      rw [List.lookup_cons, beq_false_of_ne hother]
      exact hnew.2 e' he' f hf

/-- A key that names no setting, one that occurs twice, and one whose setting was given before are
at fault wherever they stand. -/
theorem readFields_of_fault {more : List Item}
    (hplaced : placed.map (·.item) = es.flatMap Yaml.Entry.items ++ more)
    (hfault : (∃ e ∈ es, ¬ IsKnown e) ∨ ¬ (es.map (·.key)).Nodup ∨
      ∃ e ∈ es, ∃ field : Field, field.name = e.key ∧ given.lookup field ≠ none) :
    ∃ error, readFields d start cut given placed = .error error := by
  induction es generalizing given placed with
  | nil => simp at hfault
  | cons e es ih =>
    rw [List.flatMap_cons, List.append_assoc] at hplaced
    by_cases hread : ∃ field : Field, field.name = e.key ∧ given.lookup field = none
    · obtain ⟨field, hname, hnew⟩ := hread
      obtain ⟨tail, hread, htail⟩ := readFields_entry hplaced hname hnew
      rw [hread]
      refine ih htail ?_
      -- the fault is behind this entry, or it is this key a second time
      obtain ⟨e', he', hunknown⟩ | htwice | ⟨e', he', f, hf, hgiven⟩ := hfault
      · obtain rfl | he' := List.mem_cons.1 he'
        · exact absurd ⟨field, hname⟩ hunknown
        · exact .inl ⟨e', he', hunknown⟩
      · by_cases hagain : e.key ∈ es.map (·.key)
        · obtain ⟨e', he', hkey⟩ := List.mem_map.1 hagain
          exact .inr (.inr ⟨e', he', field, hname.trans hkey.symm, by simp⟩)
        · refine .inr (.inl fun hnodup => htwice ?_)
          exact List.nodup_cons.2 ⟨hagain, hnodup⟩
      · obtain rfl | he' := List.mem_cons.1 he'
        · obtain rfl := Field.name_injective (hf.trans hname.symm)
          exact absurd hnew hgiven
        · refine .inr (.inr ⟨e', he', f, hf, ?_⟩)
          rw [List.lookup_cons]
          split
          · simp
          · exact hgiven
    · exact readFields_fault hplaced fun f hf hnone => hread ⟨f, hf, hnone⟩

end

/-! ## The shortcut -/

theorem not_isBlank_of_isKeyChar {c : Char} (h : Yaml.isKeyChar c = true) :
    Text.isBlank c = false := by
  have hcode := Yaml.toNat_of_isKeyChar h
  refine Bool.eq_false_iff.2 fun hblank => ?_
  simp only [Text.isBlank, Bool.or_eq_true, Bool.and_eq_true, decide_eq_true_eq, beq_iff_eq]
    at hblank
  omega

/-- Only an entry says anything. -/
theorem isIdleLine_text (l : Line) : isIdleLine l.text = l.entry?.isNone := by
  cases l with
  | blank => rfl
  | comment text inline => exact isIdleLine_cons (by decide) text.toList
  | entry e =>
    obtain ⟨c, cs, hkey⟩ := List.exists_cons_of_ne_nil e.key_toList_ne
    have hc : Yaml.isKeyChar c = true := e.key_word c (by simp [hkey])
    have hsign : c ≠ '#' := Yaml.ne_of_isKeyChar hc (by decide)
    have htext : (Line.entry e).text = c :: (cs ++ ':' :: ' ' :: '\'' ::
        (Yaml.doubled e.value.toList ++ ['\''])) := by
      rw [Line.text, Yaml.Entry.text, hkey, List.cons_append]
    rw [htext, isIdleLine_cons (not_isBlank_of_isKeyChar hc), beq_false_of_ne hsign]
    rfl

/-- The lines of a document are the lines that it was written as. -/
theorem lines_document (ls : List Line) : Text.lines (document ls) = ls.map Line.text := by
  induction ls with
  | nil => rfl
  | cons l ls ih =>
    have hfeed : '\n' ∉ l.text := fun h => absurd (Yaml.isInline_of_mem_text h) (by decide)
    have hkept : Text.dropReturn l.text = l.text := by
      rcases Text.dropReturn_eq_or l.text with hkept | hdropped
      · exact hkept
      · have hreturn : '\r' ∈ l.text := hdropped ▸ List.mem_append_right _ List.mem_cons_self
        exact absurd (Yaml.isInline_of_mem_text hreturn) (by decide)
    rw [Yaml.document_cons, Text.lines_append_cons, Text.splitOn_of_notMem hfeed, ih, List.map_cons,
      List.map_nil, hkept]
    rfl

/-- The shortcut is taken for the documents without entries. -/
theorem all_isIdleLine_document (ls : List Line) :
    (Text.lines (document ls)).all isIdleLine = (entries ls).isEmpty := by
  rw [lines_document, List.all_map, Bool.eq_iff_iff, List.all_eq_true, List.isEmpty_iff, entries,
    List.filterMap_eq_nil_iff]
  simp [isIdleLine_text]

/-! ## Whole documents -/

theorem parse_document_of_nil (h : entries ls = []) :
    parse (String.ofList (document ls)) = .ok {} := by
  rw [parse, String.toList_ofList, all_isIdleLine_document, h]
  rfl

theorem parse_document_of_known (hknown : ∀ e ∈ entries ls, IsKnown e)
    (hnodup : ((entries ls).map (·.key)).Nodup) :
    parse (String.ofList (document ls)) = .ok (overriding (textIn (entries ls))) := by
  by_cases hnone : entries ls = []
  · rw [parse_document_of_nil hnone, hnone]
    rfl
  · obtain ⟨placed, hplaced, hitems⟩ :=
      Document.ofText_document (fun e he => (hknown e he).isShort) hnone
    obtain ⟨first, rest, rfl, hfirst, hrest⟩ := List.map_eq_cons_iff.1 hitems
    have hread : readFields { items := first :: rest } first.mark .unexpectedToken [] rest =
        .ok (givenBy (entries ls).reverse ++ []) :=
      readFields_of_known hrest hknown hnodup (by simp)
    have hshortcut : (entries ls).isEmpty = false := by simpa using hnone
    have hperm : (entries ls).reverse.Perm (entries ls) := List.reverse_perm _
    rw [parse, String.toList_ofList, all_isIdleLine_document, hshortcut, hplaced]
    simp only [readDocument, hfirst, Option.getD_none, hread, List.append_nil]
    rw [textIn_of_perm hperm.symm hnodup, ← ofGiven_givenBy]
    rfl

theorem parse_document_of_fault
    (hfault : (∃ e ∈ entries ls, ¬ IsKnown e) ∨ ¬ ((entries ls).map (·.key)).Nodup) :
    ∃ error, parse (String.ofList (document ls)) = .error error := by
  have hsome : entries ls ≠ [] := by
    intro hnone
    simp [hnone] at hfault
  suffices hread : ∃ error, readDocument (Document.ofText (document ls)) = .error error by
    obtain ⟨error, hread⟩ := hread
    have hshortcut : (entries ls).isEmpty = false := by simpa using hsome
    rw [parse, String.toList_ofList, all_isIdleLine_document, hshortcut, hread]
    exact ⟨error, rfl⟩
  by_cases hlong : ∃ e ∈ entries ls, ¬ e.IsShort
  · exact readDocument_of_flaw (Document.flaw_document_of_long hlong)
  · have hshort : ∀ e ∈ entries ls, e.IsShort := fun e he =>
      Decidable.not_not.1 fun h => hlong ⟨e, he, h⟩
    obtain ⟨placed, hplaced, hitems⟩ := Document.ofText_document hshort hsome
    obtain ⟨first, rest, rfl, hfirst, hrest⟩ := List.map_eq_cons_iff.1 hitems
    obtain ⟨error, hread⟩ : ∃ error,
        readFields { items := first :: rest } first.mark .unexpectedToken [] rest = .error error :=
      readFields_of_fault hrest (hfault.imp_right .inl)
    rw [hplaced]
    simp only [readDocument, hfirst, Option.getD_none, hread]
    exact ⟨error, rfl⟩

/-- If the keys of a document are different settings, the document says the defaults with these
settings in their place, in whatever order and between whatever comments they stand.  If a key is no
setting or stands there twice, the document is at fault. -/
theorem parse_document (ls : List Line) :
    ((∀ e ∈ entries ls, IsKnown e) → ((entries ls).map (·.key)).Nodup →
      parse (String.ofList (document ls)) = .ok (overriding (textIn (entries ls))) ∧
        ∀ ls', (entries ls').Perm (entries ls) →
          parse (String.ofList (document ls')) = parse (String.ofList (document ls))) ∧
      ((∃ e ∈ entries ls, ¬ IsKnown e) ∨ ¬ ((entries ls).map (·.key)).Nodup →
        ∃ error, parse (String.ofList (document ls)) = .error error) := by
  refine ⟨fun hknown hnodup => ?_, parse_document_of_fault⟩
  have hread := parse_document_of_known hknown hnodup
  refine ⟨hread, fun ls' hperm => ?_⟩
  have hknown' : ∀ e ∈ entries ls', IsKnown e := fun e he => hknown e (hperm.mem_iff.1 he)
  have hnodup' : ((entries ls').map (·.key)).Nodup := (hperm.map _).nodup_iff.2 hnodup
  rw [hread, parse_document_of_known hknown' hnodup', textIn_of_perm hperm hnodup']

/-- Two settings between a comment and an empty line, one with a quote and a `#` in its text, and
one with no text at all; with one of them a second time the document is at fault. -/
theorem parse_document_sample :
    let workDir : Yaml.Entry := ⟨"work_dir", "it's #1", by decide,
      List.all_eq_true.1 (by decide), List.all_eq_true.1 (by decide)⟩
    let resultsDir : Yaml.Entry := ⟨"results_dir", "", by decide,
      List.all_eq_true.1 (by decide), List.all_eq_true.1 (by decide)⟩
    let ls := [Line.comment " campaign" (List.all_eq_true.1 (by decide)), .entry workDir, .blank,
      .entry resultsDir]
    document ls = "# campaign\nwork_dir: 'it''s #1'\n\nresults_dir: ''\n".toList ∧
      parse (String.ofList (document ls)) =
        .ok { workDir := ⟨"it's #1"⟩, resultsDir := some ⟨""⟩ } ∧
      ∃ error, parse (String.ofList (document (.entry workDir :: ls))) = .error error := by
  intro workDir resultsDir ls
  have hknown : ∀ e ∈ entries ls, IsKnown e := by
    intro e he
    obtain rfl | rfl : e = workDir ∨ e = resultsDir := by
      simpa [entries, ls, Line.entry?, eq_comm] using he
    · exact ⟨.workDir, rfl⟩
    · exact ⟨.resultsDir, rfl⟩
  refine ⟨by decide +kernel, ?_, ?_⟩
  · rw [((parse_document ls).1 hknown (by decide +kernel)).1]
    rfl
  · exact (parse_document (.entry workDir :: ls)).2 (.inr (by decide +kernel))

end Fleet.Settings

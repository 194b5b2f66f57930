import Fleet.Proofs.Text.Lines
import Fleet.Text.ShellWord

namespace Fleet.Text

/-! # Command lines read back

A shell reads a line word by word.  Blanks and ends of lines stand between words; what is between
single quotes is taken as it stands, and so is the character behind a backslash; pieces with nothing
between them are one word.  `shellWords` reads a text by these rules.

A command line as it is shown is read as the command and its arguments (`shellWords_formatCommand`),
so no two commands are shown as the same text (`formatCommand_faithful`).
-/

/-- How the next character of a line is taken. -/
inductive WordMode where
  /-- outside of quotes -/
  | bare
  /-- between single quotes -/
  | quoted
  /-- behind a backslash -/
  | escaped
  deriving DecidableEq, Repr

/-- A reader of words.  The lists hold what was read last first. -/
structure WordReader where
  /-- the words that are complete -/
  words : List (List Char) := []
  /-- the word that has begun, if one has -/
  word : Option (List Char) := none
  mode : WordMode := .bare
  deriving DecidableEq, Repr

namespace WordReader

/-- Stands between words. -/
def isSeparator (c : Char) : Bool := c == ' ' || c == '\t' || c == '\n'

/-- Begins a word, unless one has begun, and goes on in a mode. -/
def enter (r : WordReader) (mode : WordMode) : WordReader :=
  { r with word := some (r.word.getD []), mode }

/-- Takes a character into the word. -/
def push (r : WordReader) (c : Char) : WordReader := { r with word := some (c :: r.word.getD []) }

/-- Completes the word, if one has begun. -/
def close (r : WordReader) : WordReader :=
  match r.word with
  | some word => { r with words := word.reverse :: r.words, word := none }
  | none => r

/-- Takes the next character. -/
def next (r : WordReader) (c : Char) : WordReader :=
  match r.mode with
  | .bare =>
    if isSeparator c then r.close
    else if c == '\'' then r.enter .quoted
    else if c == '\\' then r.enter .escaped
    else r.push c
  | .quoted => if c == '\'' then { r with mode := .bare } else r.push c
  | .escaped => { r.push c with mode := .bare }

/-- The words, once the text is over; there are none if a quote is open or a backslash is last. -/
def finish (r : WordReader) : Option (List (List Char)) :=
  if r.mode = .bare then some r.close.words.reverse else none

end WordReader

/-- The words of a line. -/
def shellWords (line : List Char) : Option (List (List Char)) :=
  (line.foldl WordReader.next {}).finish

namespace WordReader

variable {words : List (List Char)} {word : Option (List Char)} {c : Char}

/-- Nothing special is left outside of quotes. -/
theorem next_bare (h : isShellSpecial c = false) :
    next ⟨words, word, .bare⟩ c = ⟨words, some (c :: word.getD []), .bare⟩ := by
  have hne : ∀ d, isShellSpecial d = true → (c == d) = false := fun d hd =>
    beq_false_of_ne fun he => by simp [he, hd] at h
  simp [next, isSeparator, hne ' ', hne '\t', hne '\n', hne '\'', hne '\\', isShellSpecial, push]

/-- A word without a special character is read as it stands. -/
theorem foldl_bare {cs : List Char} (h : ∀ c ∈ cs, isShellSpecial c = false) (w : List Char) :
    cs.foldl next ⟨words, some w, .bare⟩ = ⟨words, some (cs.reverse ++ w), .bare⟩ := by
  induction cs generalizing w with
  | nil => rfl
  | cons c cs ih =>
    rw [List.forall_mem_cons] at h
    rw [List.foldl_cons, next_bare h.1, ih h.2]
    simp

/-- Between quotes a word is read up to the quote that closes it: a quote of its own is written as
the end of one quotation, an escaped quote and the beginning of the next. -/
theorem foldl_quotedBody (cs w : List Char) :
    (quotedBody cs ++ ['\'']).foldl next ⟨words, some w, .quoted⟩ =
      ⟨words, some (cs.reverse ++ w), .bare⟩ := by
  induction cs generalizing w with
  | nil => rfl
  | cons c cs ih =>
    by_cases hc : c = '\''
    · subst hc
      have hreopened : ['\'', '\\', '\'', '\''].foldl next ⟨words, some w, .quoted⟩ =
          ⟨words, some ('\'' :: w), .quoted⟩ := rfl
      rw [quotedBody, show '\'' :: '\\' :: '\'' :: '\'' :: quotedBody cs =
        ['\'', '\\', '\'', '\''] ++ quotedBody cs from rfl, List.append_assoc, List.foldl_append,
        hreopened, ih]
      simp
    · have hpushed : next ⟨words, some w, .quoted⟩ c = ⟨words, some (c :: w), .quoted⟩ := by
        simp [next, hc, push]
      rw [quotedBody.eq_3 c cs hc, List.cons_append, List.foldl_cons, hpushed, ih]
      simp

/-- A word that stands as `quoteWord` writes it is read as this word. -/
theorem foldl_quoteWord (cs : List Char) :
    (quoteWord cs).foldl next ⟨words, none, .bare⟩ = ⟨words, some cs.reverse, .bare⟩ := by
  unfold quoteWord
  split
  · next hempty =>
    rw [List.isEmpty_iff.1 hempty]
    rfl
  · split
    · have hopen : next ⟨words, none, .bare⟩ '\'' = ⟨words, some [], .quoted⟩ := rfl
      rw [List.foldl_cons, hopen, foldl_quotedBody, List.append_nil]
    · next hnil hplain =>
      have hplain : ∀ c ∈ cs, isShellSpecial c = false := by simpa using hplain
      cases cs with
      | nil => exact absurd rfl hnil
      | cons c cs =>
        rw [List.forall_mem_cons] at hplain
        rw [List.foldl_cons, next_bare hplain.1, foldl_bare hplain.2]
        simp

/-- Words with a space between two are read one after the other. -/
theorem foldl_joinWith (first : List Char) (rest : List (List Char)) :
    ((joinWith ' ' ((first :: rest).map quoteWord)).foldl next ⟨words, none, .bare⟩).finish =
      some (words.reverse ++ first :: rest) := by
  induction rest generalizing first words with
  | nil =>
    rw [List.map_singleton, joinWith, foldl_quoteWord]
    simp [finish, close]
  | cons second rest ih =>
    have hspace : next ⟨words, some first.reverse, .bare⟩ ' ' = ⟨first :: words, none, .bare⟩ := by
      simp [next, isSeparator, close]
    have hjoin : joinWith ' ' ((first :: second :: rest).map quoteWord) =
        quoteWord first ++ ' ' :: joinWith ' ' ((second :: rest).map quoteWord) := rfl
    rw [hjoin, List.foldl_append, foldl_quoteWord, List.foldl_cons, hspace, ih]
    simp

end WordReader

/-- A command line as it is shown is read as the command and its arguments. -/
theorem shellWords_formatCommand (command : String) (args : List String) :
    shellWords (formatCommand command args).toList =
      some ((command :: args).map String.toList) := by
  have htext : (formatCommand command args).toList =
      joinWith ' ' (((command :: args).map String.toList).map quoteWord) := by
    rw [formatCommand, toList_intercalate ' ' rfl]
    simp only [List.map_map, Function.comp_def, String.toList_ofList]
  rw [htext, shellWords, List.map_cons, WordReader.foldl_joinWith]
  rfl

/-- A command line as it is shown is read as the command and its arguments, and no other command is
shown as this text. -/
theorem formatCommand_faithful (command : String) (args : List String) :
    shellWords (formatCommand command args).toList =
        some ((command :: args).map String.toList) ∧
      ∀ command' args', formatCommand command args = formatCommand command' args' ↔
        command = command' ∧ args = args' := by
  refine ⟨shellWords_formatCommand command args, fun command' args' => ⟨fun h => ?_, ?_⟩⟩
  · have hread := shellWords_formatCommand command args
    rw [h, shellWords_formatCommand, Option.some_inj,
      List.map_inj_right fun _ _ => String.toList_inj.1, List.cons.injEq] at hread
    exact ⟨hread.1.symm, hread.2.symm⟩
  · rintro ⟨rfl, rfl⟩
    rfl

/-- Quotes that touch, a word with nothing in it, and a word of two lines. -/
example : shellWords "'it'\\''s' '' 'a\n\\b' c".toList =
    some ["it's".toList, [], "a\n\\b".toList, ['c']] := by decide +kernel

end Fleet.Text

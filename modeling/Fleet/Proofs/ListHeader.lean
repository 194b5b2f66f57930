import Fleet.Proofs.NewResultSet
import Fleet.Text.ShellWord
import Mathlib.Data.Prod.Basic

namespace Fleet

/-! # The header of a list

The list of a new result set begins with a comment that ends with the command, as it is written for
a shell.  A command may have several lines, and only the first of them stands behind a `#`: so the
new list is read as empty exactly if none of the others has to be a repository
(`load_created_eq_nil_iff`).
-/

namespace Text

theorem notMem_quotedBody {c : Char} (hquote : c ≠ '\'') (hback : c ≠ '\\') {word : List Char}
    (h : c ∉ word) : c ∉ quotedBody word := by
  induction word with
  | nil => exact h
  | cons d word ih =>
    simp only [List.mem_cons, not_or] at h
    by_cases hd : d = '\''
    · subst hd
      simp [quotedBody, hquote, hback, ih h.2]
    · simp [quotedBody, h.1, ih h.2]

/-- Quoting brings no line feed into a word. -/
theorem notMem_quoteWord {word : List Char} (h : '\n' ∉ word) : '\n' ∉ quoteWord word := by
  unfold quoteWord
  split
  · decide
  · split
    · simp [notMem_quotedBody (by decide) (by decide) h]
    · exact h

/-- A command whose words have one line each is written in one line. -/
theorem notMem_formatCommand {command : String} {args : List String}
    (h : ∀ word ∈ command :: args, '\n' ∉ word.toList) :
    '\n' ∉ (formatCommand command args).toList := by
  have hwords : ∀ words : List String, (∀ word ∈ words, '\n' ∉ word.toList) →
      '\n' ∉ (" ".intercalate words).toList := by
    intro words
    induction words with
    | nil => simp
    | cons word words ih =>
      intro h
      rw [List.forall_mem_cons] at h
      cases words with
      | nil => simpa using h.1
      | cons next words =>
        rw [String.intercalate_cons_cons, String.toList_append, String.toList_append]
        simp only [List.mem_append, not_or]
        exact ⟨⟨h.1, by decide⟩, ih h.2⟩
  refine hwords _ fun quoted hquoted => ?_
  obtain ⟨word, hword, rfl⟩ := List.mem_map.1 hquoted
  rw [String.toList_ofList]
  exact notMem_quoteWord (h word hword)

end Text

namespace ResultSet

/-- The lines of a text behind the first list no repository. -/
def LaterLinesListNothing (text : String) : Prop :=
  ∀ line ∈ (Text.splitOn '\n' text.toList).tail, RepositoryList.isEntry (Text.trim line) = false

instance (text : String) : Decidable (LaterLinesListNothing text) :=
  inferInstanceAs (Decidable (∀ line ∈ _, _))

theorem laterLinesListNothing_of_notMem {text : String} (h : '\n' ∉ text.toList) :
    LaterLinesListNothing text := by
  rw [LaterLinesListNothing, Text.splitOn_of_notMem h]
  simp

/-- The lines of a header are two comments, and whatever the command has behind its first line. -/
theorem lines_header (b : Bucket) (command : String) :
    ∃ first second, Text.lines (header b command).toList =
      (('#' :: first) :: ('#' :: second) :: (Text.splitOn '\n' command.toList).tail).map
        Text.dropReturn := by
  have hopen : "# This file contains the list of repositories that ".toList =
      '#' :: " This file contains the list of repositories that ".toList := by decide +kernel
  have hclose : " by fleetrun foreach\n# for the command: ".toList =
      " by fleetrun foreach".toList ++ '\n' :: '#' :: " for the command: ".toList := by
    decide +kernel
  obtain ⟨word, hword, htext⟩ : ∃ word : String, '\n' ∉ word.toList ∧ header b command =
      "# This file contains the list of repositories that " ++ word ++
        " by fleetrun foreach\n# for the command: " ++ command ++ "\n" := by
    cases b
    · exact ⟨"were successfully processed", by decide +kernel, by unfold header; rfl⟩
    · exact ⟨"failed to be processed", by decide +kernel, by unfold header; rfl⟩
  -- one line, the beginning of another, and then the command as it is
  generalize hfirst : " This file contains the list of repositories that ".toList ++
    (word.toList ++ " by fleetrun foreach".toList) = first
  have hone : '\n' ∉ '#' :: first := by
    rw [← hfirst]
    simp only [List.mem_cons, List.mem_append, not_or]
    exact ⟨by decide, by decide +kernel, hword, by decide +kernel⟩
  have hall : (header b command).toList =
      ('#' :: first ++ '\n' :: ('#' :: " for the command: ".toList ++ command.toList)) ++
        '\n' :: [] := by
    rw [htext, ← hfirst]
    simp only [String.toList_append, hopen, hclose]
    simp only [List.cons_append, List.append_assoc]
    rfl
  have hsecond : '\n' ∉ '#' :: " for the command: ".toList := by decide +kernel
  rw [hall, Text.lines_append_cons, Text.splitOn_append_cons, Text.splitOn_of_notMem hone,
    Text.splitOn_append_of_notMem hsecond]
  cases hpieces : Text.splitOn '\n' command.toList with
  | nil => exact absurd hpieces (Text.splitOn_ne_nil _ _)
  | cons piece pieces =>
    refine ⟨first, " for the command: ".toList ++ piece, ?_⟩
    simp only [List.modifyHead_cons, List.cons_append, List.tail_cons]
    exact List.append_nil _

/-- A header is read as an empty list exactly if the later lines of the command list nothing. -/
theorem parse_header_eq_nil_iff (b : Bucket) (command : String) :
    RepositoryList.parse (header b command) = .ok [] ↔ LaterLinesListNothing command := by
  obtain ⟨first, second, hlines⟩ := lines_header b command
  rw [RepositoryList.parse_eq_nil_iff, hlines, List.forall_mem_map]
  simp [Text.trim_dropReturn, RepositoryList.isEntry_comment, LaterLinesListNothing]

/-- The lists of a new result set are read as empty exactly if the command, as it is written in
them, has no line behind its first that has to be a repository. -/
theorem load_created_eq_nil_iff {here : Surroundings} {parent : Path} {campaign command : String}
    {args : List String} {fs fs' : FileSystem} {s : ResultSet}
    (h : create here parent campaign (Text.formatCommand command args) fs = (fs', .ok s)) :
    (RepositoryList.load fs' (s.listPath .succeeded) = .ok [] ∧
      RepositoryList.load fs' (s.listPath .failed) = .ok []) ↔
      LaterLinesListNothing (Text.formatCommand command args) := by
  obtain ⟨hplaced, hholds⟩ := create_ok h
  have hlist : ∀ b, RepositoryList.load fs' (s.bucketList b) = .ok [] ↔
      LaterLinesListNothing (Text.formatCommand command args) := fun b =>
    (hholds.load_bucketList hplaced).trans (parse_header_eq_nil_iff b _)
  exact (and_congr (hlist .successful) (hlist .failed)).trans and_self_iff

/-- A command with an argument of two lines: the second is read as an entry of both lists. -/
theorem load_created_of_twoLines :
    ∃ fs s, create ⟨1, ⟨"/tmp"⟩, [⟨"abc", by decide⟩]⟩ ⟨"results"⟩ "campaign"
        (Text.formatCommand "true" ["x\ny"]) {} = (fs, .ok s) ∧
      ¬ (RepositoryList.load fs (s.listPath .succeeded) = .ok [] ∧
        RepositoryList.load fs (s.listPath .failed) = .ok []) := by
  have hcreate : (create ⟨1, ⟨"/tmp"⟩, [⟨"abc", by decide⟩]⟩ ⟨"results"⟩ "campaign"
      (Text.formatCommand "true" ["x\ny"]) {}).2 =
        .ok ⟨⟨"/results/fleetrun-foreach-campaign-abc"⟩⟩ := by decide +kernel
  have hcreate := Prod.snd_eq_iff.1 hcreate
  refine ⟨_, _, hcreate, fun hlists => ?_⟩
  have hnothing := (load_created_eq_nil_iff hcreate).1 hlists
  exact absurd hnothing (by decide +kernel)

end ResultSet

end Fleet

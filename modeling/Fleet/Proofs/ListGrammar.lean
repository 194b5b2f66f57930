import Fleet.Proofs.RepositoryList
import Mathlib.Data.List.Nodup
import Mathlib.Data.Option.Basic

namespace Fleet

/-! # The grammar of repository lists

What a list says depends on nothing but its entries: the trimmed lines that are not blank and are no
comments (`RepositoryList.entries`).  A list is read exactly if every entry is written in two or
three segments (`Repository.IsWritten`), and then it lists the distinct entries in the order in
which they come first; else it is refused at the first line whose entry is not
(`RepositoryList.parse_follows_grammar`).

So a list that has been read is read again from its repositories alone, one a line
(`RepositoryList.parse_render`).
-/

namespace Repository

variable {entry : List Char} {r : Repository}

/-- Two or three segments between slashes, none of them empty, `.` or `..`. -/
def IsWritten (entry : List Char) : Prop :=
  ((Text.splitOn '/' entry).length = 2 ∨ (Text.splitOn '/' entry).length = 3) ∧
    ∀ s ∈ Text.splitOn '/' entry, s ≠ [] ∧ s ≠ ['.'] ∧ s ≠ ['.', '.']

instance : Decidable (IsWritten entry) :=
  inferInstanceAs (Decidable ((_ = 2 ∨ _ = 3) ∧ ∀ s ∈ _, _ ∧ _ ∧ _))

/-- What is written in this form is read, and nothing else is. -/
theorem isWritten_iff : IsWritten entry ↔ ∃ r, parse? entry = some r := by
  simp only [parse?, ofSegments?_eq_some_iff, isForbidden_eq_false]
  constructor
  · rintro ⟨hlength, hallowed⟩
    rcases hlength with hlength | hlength
    · obtain ⟨org, name, hs⟩ := List.length_eq_two.1 hlength
      exact ⟨⟨none, String.ofList org, String.ofList name⟩, by simp [hs, segments], hallowed⟩
    · obtain ⟨host, org, name, hs⟩ := List.length_eq_three.1 hlength
      exact ⟨⟨some (String.ofList host), String.ofList org, String.ofList name⟩,
        by simp [hs, segments], hallowed⟩
  · rintro ⟨r, hs, hallowed⟩
    refine ⟨?_, hallowed⟩
    rw [hs]
    cases hhost : r.host <;> simp [segments, hhost]

/-- The segments that a repository is read from are its own. -/
theorem splitOn_of_parse? (h : parse? entry = some r) : Text.splitOn '/' entry = r.segments :=
  (ofSegments?_eq_some_iff.1 h).1

end Repository

namespace RepositoryList

open Repository (IsWritten isWritten_iff parse?)

variable {text : String} {repos seen : List Repository} {ls : List (List Char)} {n : Nat}

/-- The entries on some lines. -/
def entriesOf (ls : List (List Char)) : List (List Char) := (ls.map Text.trim).filter isEntry

/-- The entries of a list. -/
def entries (text : String) : List (List Char) := entriesOf (Text.lines text.toList)

theorem entriesOf_append (ls more : List (List Char)) :
    entriesOf (ls ++ more) = entriesOf ls ++ entriesOf more := by
  simp [entriesOf]

theorem entriesOf_cons (line : List Char) (ls : List (List Char)) :
    entriesOf (line :: ls) =
      if isEntry (Text.trim line) then Text.trim line :: entriesOf ls else entriesOf ls := by
  simp [entriesOf, List.filter_cons]

/-! ## What is listed -/

/-- If every entry is written as a repository, those that were not seen before are listed, in the
order in which they come first. -/
theorem collect_of_written (seen : List Repository)
    (hseen : ∀ r ∈ seen, parse? r.fullName.toList = some r)
    (h : ∀ e ∈ entriesOf ls, IsWritten e) (n : Nat) :
    ∃ repos, collect seen (ls.zipIdx n) = .ok repos ∧
      repos.map (·.fullName.toList) =
        ((entriesOf ls).removeAll (seen.map (·.fullName.toList))).eraseDups := by
  induction ls generalizing seen n with
  | nil => exact ⟨[], rfl, by simp [entriesOf, List.removeAll]⟩
  | cons line rest ih =>
    rw [entriesOf_cons] at h ⊢
    rw [List.zipIdx_cons, collect]
    split
    · next hentry =>
      rw [if_pos hentry, List.forall_mem_cons] at h
      obtain ⟨repo, hread⟩ := isWritten_iff.1 h.1
      have hname := Repository.fullName_of_parse? hread
      simp only [hread]
      by_cases hmem : repo ∈ seen
      · obtain ⟨repos, hrest, hnames⟩ := ih seen hseen h.2 (n + 1)
        have hold : Text.trim line ∈ seen.map (·.fullName.toList) :=
          hname ▸ List.mem_map_of_mem hmem
        refine ⟨repos, by simpa [hmem] using hrest, ?_⟩
        rw [hnames, List.cons_removeAll, if_neg (by simpa using hold)]
      · obtain ⟨repos, hrest, hnames⟩ :=
          ih (repo :: seen) (List.forall_mem_cons.2 ⟨hname ▸ hread, hseen⟩) h.2 (n + 1)
        -- another repository that was seen is written in another way
        have hnew : Text.trim line ∉ seen.map (·.fullName.toList) := by
          intro hold
          obtain ⟨r, hr, hrname⟩ := List.mem_map.1 hold
          have hsame := (hseen r hr).symm.trans ((congrArg parse? hrname).trans hread)
          exact hmem (Option.some.inj hsame ▸ hr)
        refine ⟨repo :: repos, by simp [hmem, hrest, bind, Except.bind, pure, Except.pure], ?_⟩
        rw [List.map_cons, hnames, List.map_cons, hname, List.cons_removeAll,
          if_pos (by simpa using hnew), List.eraseDups_cons, List.removeAll_cons]
        simp only [List.removeAll, List.filter_filter, Bool.and_comm]
    · next hentry =>
      rw [if_neg hentry] at h
      exact ih seen hseen h (n + 1)

/-- A list is read if every entry is written as a repository: there is one for each distinct entry,
in the order in which they come first. -/
theorem parse_of_written (h : ∀ e ∈ entries text, IsWritten e) :
    ∃ repos, parse text = .ok repos ∧
      repos.map (·.fullName.toList) = (entries text).eraseDups := by
  obtain ⟨repos, hparse, hnames⟩ := collect_of_written [] (by simp) h 1
  exact ⟨repos, hparse, by simpa [entries] using hnames⟩

/-! ## What is refused -/

/-- The first line with an entry that is not written as a repository, with its number. -/
def IsFirstBad (ls : List (List Char)) (bad : BadLine) : Prop :=
  ∃ before line after, ls = before ++ line :: after ∧
    bad = ⟨before.length + 1, String.ofList line⟩ ∧
    (∀ e ∈ entriesOf before, IsWritten e) ∧
    isEntry (Text.trim line) = true ∧ ¬ IsWritten (Text.trim line)

/-- Every entry is written as a repository, or there is a first line where it is not. -/
theorem written_or_firstBad (ls : List (List Char)) :
    (∀ e ∈ entriesOf ls, IsWritten e) ∨ ∃ bad, IsFirstBad ls bad := by
  induction ls with
  | nil => exact .inl (by simp [entriesOf])
  | cons line rest ih =>
    by_cases hbad : isEntry (Text.trim line) = true ∧ ¬ IsWritten (Text.trim line)
    · exact .inr ⟨_, [], line, rest, rfl, rfl, by simp [entriesOf], hbad⟩
    · -- the line is no obstacle, neither to what is read nor to what is refused behind it
      have hline : ∀ ls, (∀ e ∈ entriesOf ls, IsWritten e) →
          ∀ e ∈ entriesOf (line :: ls), IsWritten e := by
        intro ls hls e he
        rw [entriesOf_cons] at he
        split at he
        · next hentry =>
          rcases List.mem_cons.1 he with rfl | he
          · exact not_not.1 fun hnot => hbad ⟨hentry, hnot⟩
          · exact hls e he
        · exact hls e he
      rcases ih with hall | ⟨bad, before, bline, after, rfl, -, hbefore, hbline⟩
      · exact .inl (hline rest hall)
      · exact .inr ⟨_, line :: before, bline, after, rfl, rfl, hline before hbefore, hbline⟩

/-- A list is refused at its first bad line. -/
theorem parse_of_firstBad {bad : BadLine} (h : IsFirstBad (Text.lines text.toList) bad) :
    parse text = .error bad := by
  obtain ⟨before, line, after, hls, rfl, hbefore, hentry, hnot⟩ := h
  obtain ⟨repos, hread, -⟩ := collect_of_written [] (by simp) hbefore 1
  have hnone : parse? (Text.trim line) = none :=
    Option.eq_none_iff_forall_ne_some.2 fun r hr => hnot (isWritten_iff.2 ⟨r, hr⟩)
  rw [parse, hls, List.zipIdx_append, collect_append, hread]
  simp [collect, hentry, hnone, Except.map, Nat.add_comm]

theorem parse_eq_error_iff {bad : BadLine} :
    parse text = .error bad ↔ IsFirstBad (Text.lines text.toList) bad := by
  refine ⟨fun h => ?_, parse_of_firstBad⟩
  rcases written_or_firstBad (Text.lines text.toList) with hall | ⟨bad', hbad'⟩
  · obtain ⟨repos, hparse, -⟩ := parse_of_written hall
    rw [hparse] at h
    cases h
  · have := (parse_of_firstBad hbad').symm.trans h
    rwa [Except.error.inj this] at hbad'

/-- A list is refused exactly at the first line whose entry is not written in two or three segments
that may be, with the number of the line and the line as it stands.

Or else it lists one repository for each distinct entry, in the order in which they come first.
Each is written as its entry is, which is its host if there is one, its organisation and its name
between slashes; and there is a host exactly if there are three segments. -/
theorem parse_follows_grammar (text : String) :
    (∀ bad, parse text = .error bad ↔ IsFirstBad (Text.lines text.toList) bad) ∧
      ((∃ bad, IsFirstBad (Text.lines text.toList) bad) ∨
        ∃ repos, parse text = .ok repos ∧
          repos.map (·.fullName.toList) = (entries text).eraseDups ∧
          ∀ r ∈ repos, r.fullName = "/".intercalate (r.host.toList ++ [r.org, r.name]) ∧
            Text.splitOn '/' r.fullName.toList = r.segments ∧
            (r.host.isSome ↔ (Text.splitOn '/' r.fullName.toList).length = 3)) := by
  refine ⟨fun bad => parse_eq_error_iff, ?_⟩
  rcases written_or_firstBad (Text.lines text.toList) with hall | hbad
  · obtain ⟨repos, hparse, hnames⟩ := parse_of_written hall
    refine .inr ⟨repos, hparse, hnames, fun r hr => ?_⟩
    have hsegments := Repository.splitOn_of_parse? (isEntry_of_parse hparse r hr).parses
    refine ⟨r.fullName_eq_intercalate, hsegments, ?_⟩
    rw [hsegments]
    cases hhost : r.host <;> simp [Repository.segments, hhost]
  · exact .inl hbad

/-- The line that is refused is told as it stands, and those in front of it count whether or not
they have an entry. -/
theorem parse_follows_grammar_sample :
    parse "org/a\n # org\n\n\torg/./c \r\nh/org/d" = .error ⟨4, "\torg/./c "⟩ := by
  refine ((parse_follows_grammar _).1 _).2
    ⟨["org/a".toList, " # org".toList, []], "\torg/./c ".toList, ["h/org/d".toList], ?_⟩
  decide +kernel

/-! ## Reading again what was written -/

/-- How the lines of a text end makes no difference to its entries. -/
theorem entriesOf_linesOfPieces (pieces : List (List Char)) :
    entriesOf (Text.linesOfPieces pieces) = entriesOf pieces := by
  induction pieces with
  | nil => rfl
  | cons piece rest ih =>
    cases rest with
    | nil =>
      rw [Text.linesOfPieces]
      split
      · next hempty =>
        rw [List.isEmpty_iff.1 hempty]
        rfl
      · rfl
    | cons next rest =>
      rw [Text.linesOfPieces, entriesOf_cons, Text.trim_dropReturn, ih, ← entriesOf_cons]
      simp

theorem entries_eq (text : String) : entries text = entriesOf (Text.splitOn '\n' text.toList) :=
  entriesOf_linesOfPieces _

/-- A line feed at the end adds no entry. -/
theorem entries_append_newline (text : String) : entries (text ++ "\n") = entries text := by
  rw [entries_eq, entries_eq, String.toList_append, show "\n".toList = ['\n'] from rfl,
    Text.splitOn_append_cons, entriesOf_append]
  exact List.append_nil _

/-- The entries of a list that was made of repositories are these. -/
theorem entries_render (h : ∀ r ∈ repos, r.IsEntry) :
    entries (render repos) = repos.map (·.fullName.toList) := by
  rw [entries_eq, render, Text.toList_intercalate '\n' rfl, List.map_map]
  cases repos with
  | nil => rfl
  | cons r rest =>
    rw [Text.splitOn_joinWith (by simp)]
    · -- each stands trimmed on its line, and is no comment
      rw [entriesOf, List.map_map, List.filter_eq_self.2]
      · exact List.map_congr_left fun q hq => (h q hq).trimmed
      · intro e he
        obtain ⟨q, hq, rfl⟩ := List.mem_map.1 he
        simpa [(h q hq).trimmed] using (h q hq).entry
    · intro piece hpiece
      obtain ⟨q, hq, rfl⟩ := List.mem_map.1 hpiece
      exact (h q hq).oneLine

theorem eraseDups_of_nodup {α : Type} [BEq α] [LawfulBEq α] {l : List α} (h : l.Nodup) :
    l.eraseDups = l := by
  induction l with
  | nil => rfl
  | cons a rest ih =>
    rw [List.nodup_cons] at h
    rw [List.eraseDups_cons, List.filter_eq_self.2, ih h.2]
    intro b hb
    have hne : b ≠ a := fun he => h.1 (he ▸ hb)
    simpa using hne

/-- A list is known by its entries, if they are those of different repositories. -/
theorem parse_of_entries (h : ∀ r ∈ repos, r.IsEntry) (hnodup : repos.Nodup)
    (hentries : entries text = repos.map (·.fullName.toList)) : parse text = .ok repos := by
  have hback : ∀ {rs : List Repository}, (∀ r ∈ rs, r.IsEntry) →
      (rs.map (·.fullName.toList)).map parse? = rs.map some := by
    intro rs hrs
    rw [List.map_map]
    exact List.map_congr_left fun r hr => (hrs r hr).parses
  have hwritten : ∀ e ∈ entries text, IsWritten e := by
    intro e he
    obtain ⟨r, hr, rfl⟩ := List.mem_map.1 (hentries ▸ he)
    exact isWritten_iff.2 ⟨r, (h r hr).parses⟩
  have hdistinct : (repos.map (·.fullName.toList)).Nodup := by
    refine List.Nodup.of_map parse? ?_
    rw [hback h]
    exact hnodup.map (Option.some_injective _)
  obtain ⟨repos', hparse, hnames⟩ := parse_of_written hwritten
  rw [hentries, eraseDups_of_nodup hdistinct] at hnames
  have hsome : repos'.map some = repos.map some := by
    rw [← hback (isEntry_of_parse hparse), hnames, hback h]
  rw [hparse, List.map_injective_iff.2 (Option.some_injective _) hsome]

/-- A list that has been read is read again from its repositories, one a line, whether or not the
last line has ended. -/
theorem parse_render (h : parse text = .ok repos) :
    parse (render repos) = .ok repos ∧ parse (render repos ++ "\n") = .ok repos := by
  have hentries := entries_render (isEntry_of_parse h)
  have hnodup := nodup_of_parse h
  exact ⟨parse_of_entries (isEntry_of_parse h) hnodup hentries,
    parse_of_entries (isEntry_of_parse h) hnodup ((entries_append_newline _).trans hentries)⟩

/-- A list with blanks of all kinds around its entries, with comments and duplicates, and with a
carriage return inside a name. -/
theorem parse_render_sample :
    let text := "# all\r\n\n \u2003org/a\t\r\norg/b\rc\nhost/org/a\u00a0\norg/a\r"
    let repos : List Repository :=
      [⟨none, "org", "a"⟩, ⟨none, "org", "b\rc"⟩, ⟨some "host", "org", "a"⟩]
    parse text = .ok repos ∧ parse (render repos) = .ok repos ∧
      parse (render repos ++ "\n") = .ok repos := by
  intro text repos
  have hparse : parse text = .ok repos := by decide +kernel
  exact ⟨hparse, parse_render hparse⟩

end RepositoryList

end Fleet

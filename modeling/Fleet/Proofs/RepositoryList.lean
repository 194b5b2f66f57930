import Fleet.Campaign
import Fleet.Proofs.Files.Growth
import Fleet.Proofs.Files.Names

namespace Fleet

/-! # Lists of repositories that grow

A list can be read piece by piece (`collect_append`): what the first piece lists is not listed again
by the second.  So a repository that is written on a line of its own at the end of a list is read
after all that were there before (`parse_append_entry`).

A list whose last line has ended can be followed by another one.  Of the second the repositories
that the first has as well are left out (`collect_of_subset`), and its lines are counted from the
end of the first (`Text.length_lines`): so each of the two can be read on its own
(`parse_append_piecewise`).
-/

/-- A text that ends with its line has a line for every line feed. -/
theorem Text.length_lines {cs : List Char} (h : EndsLine cs) :
    (lines cs).length = cs.count '\n' := by
  rcases h with rfl | ⟨front, rfl⟩
  · rfl
  · have hpieces := lines_append_cons front []
    have hnone : lines [] = [] := rfl
    rw [hpieces, hnone, List.append_nil, List.length_map, length_splitOn, List.count_append]
    simp

namespace Repository

/-- A repository that is read back from the line it is written on. -/
structure IsEntry (repo : Repository) : Prop where
  parses : parse? repo.fullName.toList = some repo
  trimmed : Text.trim repo.fullName.toList = repo.fullName.toList
  entry : RepositoryList.isEntry repo.fullName.toList = true
  oneLine : '\n' ∉ repo.fullName.toList

/-- The segments of a repository as it is written. -/
def segments (r : Repository) : List (List Char) :=
  (r.host.toList ++ [r.org, r.name]).map String.toList

theorem fullName_eq_intercalate (r : Repository) :
    r.fullName = "/".intercalate (r.host.toList ++ [r.org, r.name]) := by
  cases hhost : r.host <;> simp [fullName, hhost, String.intercalate_cons_cons, String.append_assoc]

theorem isForbidden_eq_false {segment : List Char} :
    isForbidden segment = false ↔ segment ≠ [] ∧ segment ≠ ['.'] ∧ segment ≠ ['.', '.'] := by
  simp [isForbidden, and_assoc]

/-- A repository is made of its own segments, if each of them may be. -/
theorem ofSegments?_eq_some_iff {parts : List (List Char)} {repo : Repository} :
    ofSegments? parts = some repo ↔
      parts = repo.segments ∧ ∀ s ∈ parts, isForbidden s = false := by
  unfold ofSegments?
  split
  · next hany =>
    simp only [List.any_eq_true] at hany
    obtain ⟨s, hs, hforbidden⟩ := hany
    simp only [reduceCtorEq, false_iff, not_and]
    exact fun _ hall => by simp [hall s hs] at hforbidden
  · next hany =>
    have hall : ∀ s ∈ parts, isForbidden s = false := by simpa using hany
    rw [and_iff_left hall]
    obtain ⟨host, org, name⟩ := repo
    split
    · cases host <;> simp [segments, ← String.toList_inj]
    · cases host <;> simp [segments, ← String.toList_inj]
    · next htwo hthree =>
      cases host <;> simp_all [segments]

/-- A repository is written as it was read. -/
theorem fullName_of_parse? {entry : List Char} {repo : Repository}
    (h : parse? entry = some repo) : repo.fullName.toList = entry := by
  rw [fullName_eq_intercalate, Text.toList_intercalate '/' rfl, ← segments,
    ← (ofSegments?_eq_some_iff.1 h).1, Text.joinWith_splitOn]

theorem isSegment_of_parse? {entry : List Char} {repo : Repository} {name : String}
    (h : parse? entry = some repo) (hname : name.toList ∈ Text.splitOn '/' entry) :
    FileSystem.IsSegment name ∧ name ≠ "." ∧ name ≠ ".." := by
  have hallowed := (ofSegments?_eq_some_iff.1 h).2 _ hname
  refine ⟨⟨?_, Text.notMem_of_mem_splitOn _ _ _ hname⟩, ?_, ?_⟩ <;>
  · rintro rfl
    simp [isForbidden] at hallowed

/-- The organisation and the name of a repository can stand in a path. -/
theorem org_isSegment_of_parse? {entry : List Char} {repo : Repository}
    (h : parse? entry = some repo) :
    FileSystem.IsSegment repo.org ∧ repo.org ≠ "." ∧ repo.org ≠ ".." :=
  isSegment_of_parse? h ((ofSegments?_eq_some_iff.1 h).1 ▸ by simp [segments])

theorem name_isSegment_of_parse? {entry : List Char} {repo : Repository}
    (h : parse? entry = some repo) :
    FileSystem.IsSegment repo.name ∧ repo.name ≠ "." ∧ repo.name ≠ ".." :=
  isSegment_of_parse? h ((ofSegments?_eq_some_iff.1 h).1 ▸ by simp [segments])

theorem IsEntry.org_isSegment {repo : Repository} (h : repo.IsEntry) :
    FileSystem.IsSegment repo.org ∧ repo.org ≠ "." ∧ repo.org ≠ ".." :=
  org_isSegment_of_parse? h.parses

theorem IsEntry.name_isSegment {repo : Repository} (h : repo.IsEntry) :
    FileSystem.IsSegment repo.name ∧ repo.name ≠ "." ∧ repo.name ≠ ".." :=
  name_isSegment_of_parse? h.parses

/-- Repositories that can stand on a line are the same if they are written alike. -/
theorem IsEntry.eq_of_fullName {r r' : Repository} (h : r.IsEntry) (h' : r'.IsEntry)
    (hname : r.fullName = r'.fullName) : r = r' := by
  have hparse := h'.parses
  rw [← hname, h.parses] at hparse
  exact Option.some.inj hparse

end Repository

namespace RepositoryList

/-- The same bad line, `k` lines further down. -/
def BadLine.later (k : Nat) (bad : BadLine) : BadLine := ⟨bad.number + k, bad.line⟩

/-- Reading two pieces of a list one after the other. -/
theorem collect_append (seen : List Repository) (xs ys : List (List Char × Nat)) :
    collect seen (xs ++ ys) =
      match collect seen xs with
      | .error bad => .error bad
      | .ok repos => (collect (repos.reverse ++ seen) ys).map (repos ++ ·) := by
  induction xs generalizing seen with
  | nil =>
    simp only [List.nil_append, collect, List.reverse_nil]
    cases collect seen ys <;> rfl
  | cons x xs ih =>
    obtain ⟨line, number⟩ := x
    simp only [List.cons_append, collect]
    split
    · split
      · rfl
      · next repo _ =>
        split
        · exact ih seen
        · rw [ih (repo :: seen)]
          cases collect (repo :: seen) xs with
          | error bad => rfl
          | ok repos =>
            simp only [bind, Except.bind, pure, Except.pure, List.reverse_cons, List.append_assoc,
              List.singleton_append]
            cases collect (repos.reverse ++ repo :: seen) ys <;> rfl
    · exact ih seen

/-- Where a list begins makes a difference only to the number of a bad line. -/
theorem collect_zipIdx_add (seen : List Repository) (lines : List (List Char)) (n k : Nat) :
    collect seen (lines.zipIdx (n + k)) =
      (collect seen (lines.zipIdx n)).mapError (BadLine.later k) := by
  induction lines generalizing seen n with
  | nil => rfl
  | cons line lines ih =>
    simp only [List.zipIdx_cons, collect]
    rw [Nat.add_right_comm]
    split
    · split
      · rfl
      · split
        · exact ih seen (n + 1)
        · rw [ih _ (n + 1)]
          cases collect _ (lines.zipIdx (n + 1)) <;> rfl
    · exact ih seen (n + 1)

/-- A list is read as its first piece and then its second, if the first ends with its line. -/
theorem parse_append {a : String} (ha : Text.EndsLine a.toList) (b : String) :
    parse (a ++ b) =
      match parse a with
      | .error bad => .error bad
      | .ok repos =>
        (collect repos.reverse
          ((Text.lines b.toList).zipIdx (1 + (Text.lines a.toList).length))).map (repos ++ ·) := by
  rw [parse, String.toList_append, Text.lines_append ha, List.zipIdx_append, collect_append]
  simp [parse]

/-! ## What is read -/

/-- Every repository that is read stands on a line, is not one of those that were seen before, and
is listed once. -/
theorem collect_ok {seen : List Repository} {ls : List (List Char × Nat)}
    {repos : List Repository} (h : collect seen ls = .ok repos) :
    repos.Nodup ∧ ∀ repo ∈ repos, repo ∉ seen ∧
      ∃ l ∈ ls, isEntry (Text.trim l.1) = true ∧ Repository.parse? (Text.trim l.1) = some repo := by
  induction ls generalizing seen repos with
  | nil => cases h; simp
  | cons l ls ih =>
    obtain ⟨line, number⟩ := l
    have hlater : ∀ {seen repos}, collect seen ls = .ok repos → ∀ repo ∈ repos, repo ∉ seen ∧
        ∃ l ∈ (line, number) :: ls, isEntry (Text.trim l.1) = true ∧
          Repository.parse? (Text.trim l.1) = some repo := by
      intro seen repos h repo hrepo
      obtain ⟨hseen, l, hl, hread⟩ := (ih h).2 repo hrepo
      exact ⟨hseen, l, List.mem_cons_of_mem _ hl, hread⟩
    simp only [collect] at h
    split at h
    · next hentry =>
      split at h
      · cases h
      · next first hfirst =>
        split at h
        · exact ⟨(ih h).1, hlater h⟩
        · next hnew =>
          -- the first repository is one of those that the later lines have seen
          obtain ⟨rest, hrest, h⟩ := bind_eq_ok.1 h
          cases h
          have hnew : first ∉ seen := by simpa using hnew
          have hafter := hlater hrest
          constructor
          · refine List.nodup_cons.2 ⟨fun hmem => ?_, (ih hrest).1⟩
            exact (hafter first hmem).1 (by simp)
          · intro repo hrepo
            rcases List.mem_cons.1 hrepo with rfl | hrepo
            · exact ⟨hnew, (line, number), by simp, hentry, hfirst⟩
            · obtain ⟨hseen, hread⟩ := hafter repo hrepo
              exact ⟨fun hmem => hseen (by simp [hmem]), hread⟩
    · exact ⟨(ih h).1, hlater h⟩

/-- Nothing is listed exactly if every line is blank or a comment. -/
theorem collect_eq_nil_iff {ls : List (List Char × Nat)} :
    collect [] ls = .ok [] ↔ ∀ l ∈ ls, isEntry (Text.trim l.1) = false := by
  induction ls with
  | nil => simp [collect]
  | cons l ls ih =>
    obtain ⟨line, number⟩ := l
    rw [List.forall_mem_cons, ← ih]
    cases hentry : isEntry (Text.trim line) with
    | false => simp [collect, hentry]
    | true =>
      -- the first entry is bad or is listed
      cases hfirst : Repository.parse? (Text.trim line) with
      | none => simp [collect, hentry, hfirst]
      | some first =>
        cases hrest : collect [first] ls <;>
          simp [collect, hentry, hfirst, hrest, bind, Except.bind, pure, Except.pure]

theorem parse_eq_nil_iff {text : String} :
    parse text = .ok [] ↔ ∀ line ∈ Text.lines text.toList, isEntry (Text.trim line) = false := by
  have hlines := List.zipIdx_map_fst 1 (Text.lines text.toList)
  rw [parse, collect_eq_nil_iff, ← hlines, List.forall_mem_map, hlines]

theorem isEntry_comment (cs : List Char) : isEntry (Text.trim ('#' :: cs)) = false := by
  have hblank : Text.isBlank '#' = false := by decide
  rw [Text.trim, Text.trimStart, List.dropWhile_cons_of_neg (by simp [hblank]),
    Text.trimEnd_cons hblank]
  rfl

/-- A list names no repository twice. -/
theorem nodup_of_parse {text : String} {repos : List Repository} (h : parse text = .ok repos) :
    repos.Nodup :=
  (collect_ok h).1

/-- Every repository of a list could stand there on a line of its own. -/
theorem isEntry_of_parse {text : String} {repos : List Repository} (h : parse text = .ok repos) :
    ∀ repo ∈ repos, repo.IsEntry := by
  intro repo hrepo
  obtain ⟨-, l, hl, hentry, hread⟩ := (collect_ok h).2 repo hrepo
  have hline : l.1 ∈ Text.lines text.toList := List.fst_mem_of_mem_zipIdx hl
  have hname := Repository.fullName_of_parse? hread
  refine ⟨hname ▸ hread, ?_, hname ▸ hentry, ?_⟩
  · rw [hname, Text.trim_trim]
  · rw [hname]
    exact fun hmem => Text.notMem_of_mem_lines hline (Text.mem_of_mem_trim hmem)

theorem parse_of_load {fs : FileSystem} {p : Path} {repos : List Repository}
    (h : load fs p = .ok repos) : ∃ text, parse text = .ok repos := by
  obtain ⟨text, -, h⟩ := bind_eq_ok.1 h
  split at h
  · next hparse => exact ⟨text, hparse.trans (by rw [Except.ok.inj h])⟩
  · cases h

/-- A repository on a line of its own at the end of a list is read after all others. -/
theorem parse_append_entry {text : String} {repos : List Repository} {repo : Repository}
    (h : parse text = .ok repos) (hend : Text.EndsLine text.toList) (hentry : repo.IsEntry)
    (hnew : repo ∉ repos) : parse (text ++ (repo.fullName ++ "\n")) = .ok (repos ++ [repo]) := by
  have hlines : Text.lines (repo.fullName ++ "\n").toList =
      [Text.dropReturn repo.fullName.toList] := by
    have := Text.lines_append_cons repo.fullName.toList []
    rw [Text.splitOn_of_notMem hentry.oneLine] at this
    rw [String.toList_append]
    exact this
  rw [parse_append hend, h, hlines]
  have htrim : Text.trim (Text.dropReturn repo.fullName.toList) = repo.fullName.toList := by
    rw [Text.trim_dropReturn, hentry.trimmed]
  simp [collect, htrim, hentry.entry, hentry.parses, hnew, bind, Except.bind, pure, Except.pure,
    Except.map]

theorem endsLine_append_entry (text : String) (repo : Repository) :
    Text.EndsLine (text ++ (repo.fullName ++ "\n")).toList :=
  .inr ⟨text.toList ++ repo.fullName.toList, by simp⟩

/-! ## Two lists, one behind the other -/

variable {seen more : List Repository} {a : String}

/-- If more repositories were seen before, these are left out and all others are listed as they
were. -/
theorem collect_of_subset (h : ∀ r ∈ seen, r ∈ more) (ls : List (List Char × Nat)) :
    collect more ls = (collect seen ls).map (·.filter (· ∉ more)) := by
  induction ls generalizing seen more with
  | nil => rfl
  | cons l ls ih =>
    obtain ⟨line, number⟩ := l
    simp only [collect]
    split
    · split
      · rfl
      next repo _ =>
      by_cases hold : repo ∈ seen
      · have hmore : repo ∈ more := h repo hold
        simp only [List.contains_iff_mem.2 hold, List.contains_iff_mem.2 hmore, if_true]
        exact ih h
      by_cases hmore : repo ∈ more
      · -- the repository is listed only where it was not seen, and then left out
        have hsubset : ∀ r ∈ repo :: seen, r ∈ more := List.forall_mem_cons.2 ⟨hmore, h⟩
        rw [ih hsubset]
        cases collect (repo :: seen) ls <;>
          simp [hold, hmore, bind, Except.bind, pure, Except.pure, Except.map]
      · have hsubset : ∀ r ∈ repo :: seen, r ∈ repo :: more :=
          List.forall_mem_cons.2 ⟨by simp, fun r hr => List.mem_cons_of_mem _ (h r hr)⟩
        rw [ih hsubset]
        cases hrest : collect (repo :: seen) ls with
        | error bad => simp [hold, hmore, bind, Except.bind, Except.map]
        | ok repos =>
          -- behind it, it is not listed again
          have hnew : repos.filter (· ∉ repo :: more) = repos.filter (· ∉ more) := by
            refine List.filter_congr fun r hr => ?_
            have hne : r ≠ repo := fun he => ((collect_ok hrest).2 r hr).1 (by simp [he])
            simp [hne]
          simpa [hold, hmore, bind, Except.bind, pure, Except.pure, Except.map] using hnew
    · exact ih h

/-- Two lists one behind the other, of which the first ends with its line: what is wrong with the
first is wrong with both, what is wrong with the second is so as many lines further down as the
first has, and if nothing is wrong, the repositories of the first come first and then those of the
second that the first does not name. -/
theorem parse_append_piecewise (ha : Text.EndsLine a.toList) (b : String) :
    parse (a ++ b) =
      match parse a, parse b with
      | .error bad, _ => .error bad
      | .ok _, .error bad => .error ⟨bad.number + a.toList.count '\n', bad.line⟩
      | .ok repos, .ok later =>
        .ok (repos ++ later.filter fun r => r.fullName ∉ repos.map Repository.fullName) := by
  rw [parse_append ha]
  cases hfirst : parse a with
  | error bad => rfl
  | ok repos =>
    simp only
    have hnone : ∀ r ∈ ([] : List Repository), r ∈ repos.reverse := by simp
    rw [collect_of_subset hnone, collect_zipIdx_add, Text.length_lines ha, ← parse]
    cases hsecond : parse b with
    | error bad => rfl
    | ok later =>
      have hsame : later.filter (· ∉ repos.reverse) =
          later.filter fun r => r.fullName ∉ repos.map Repository.fullName := by
        refine List.filter_congr fun r hr => ?_
        have hnames : r.fullName ∈ repos.map Repository.fullName ↔ r ∈ repos := by
          rw [List.mem_map]
          refine ⟨fun ⟨q, hq, hname⟩ => ?_, fun hr => ⟨r, hr, rfl⟩⟩
          exact (isEntry_of_parse hfirst q hq).eq_of_fullName (isEntry_of_parse hsecond r hr) hname
            ▸ hq
        simp [hnames]
      simp only [Except.mapError, Except.map, hsame]

/-- A list that ends with a comment, one behind it that names a repository of the first again, and
one behind it with a bad line. -/
theorem parse_append_piecewise_sample :
    let a := "org/a\n\n# more\r\n"
    Text.EndsLine a.toList ∧
      parse (a ++ "host/org/a\n org/a\norg/b") =
        .ok [⟨none, "org", "a"⟩, ⟨some "host", "org", "a"⟩, ⟨none, "org", "b"⟩] ∧
      parse (a ++ "org/b\norg/.. \n") = .error ⟨5, "org/.. "⟩ := by
  intro a
  have ha : Text.EndsLine a.toList := .inr ⟨"org/a\n\n# more\r".toList, by decide +kernel⟩
  refine ⟨ha, ?_, ?_⟩
  · rw [parse_append_piecewise ha]
    decide +kernel
  · rw [parse_append_piecewise ha]
    decide +kernel

end RepositoryList

/-- The repositories of a campaign are those of its list. -/
theorem Campaign.load_ok {fs : FileSystem} {list description : Path} {campaign : Campaign}
    (h : Campaign.load fs list description = .ok campaign) :
    RepositoryList.load fs list = .ok campaign.repos := by
  obtain ⟨repos, hrepos, h⟩ := bind_eq_ok.1 h
  obtain ⟨text, -, h⟩ := bind_eq_ok.1 h
  rw [← Except.ok.inj h]
  exact hrepos

end Fleet

import Fleet.Proofs.Files.Names

namespace Fleet

/-! # Beside a path

Looking into a path passes over what leads nowhere, the walk along it does not, so the two see the
same names but for every `.` (`steps`).  If the last of them is a name, another name can be put in
its place: the new path has the same names in front of it (`withFileName_spec`), those of the parent
(`parent?_spec`).
-/

namespace Path

open FileSystem (IsSegment names steps startsAtRoot)

/-- The names among some segments. -/
def innerNames (body : List (List Char)) : List String :=
  (body.filter fun segment => !segment.isEmpty).map String.ofList

@[simp] theorem innerNames_append (a b : List (List Char)) :
    innerNames (a ++ b) = innerNames a ++ innerNames b := by
  simp [innerNames]

theorem names_text (p : Path) : names p.text = innerNames p.segments := rfl

/-- A segment that leads nowhere has no name but `.`. -/
theorem steps_innerNames_idle {segment : List Char} (h : isIdle segment = true) :
    steps (innerNames [segment]) = [] := by
  rcases (by simpa [isIdle] using h : segment = [] ∨ segment = ['.']) with rfl | rfl
  · rfl
  · decide

/-! ## The beginning of a path -/

theorem segments_root {p : Path} : startsAtRoot p.text = true ↔
    ∃ second rest, p.segments = [] :: second :: rest := by
  rw [startsAtRoot, segments]
  cases hcs : p.text.toList with
  | nil => simp
  | cons c cs =>
    have hne := Text.splitOn_ne_nil '/' cs
    cases hpieces : Text.splitOn '/' cs with
    | nil => exact absurd hpieces hne
    | cons piece pieces => by_cases hc : c = '/' <;> simp [hpieces, Text.cutBefore, hc]

/-- The beginning of a path says where it starts, and the segments after it have its names. -/
theorem leadAndBody_spec (p : Path) :
    (startsAtRoot p.text = true ↔ p.leadAndBody.1 = .root) ∧
      (names p.text = innerNames p.leadAndBody.2 ∨
        names p.text = "." :: innerNames p.leadAndBody.2) ∧
      p.leadAndBody.2 <:+ p.segments ∧
      (p.leadAndBody.1 = .plain → ∀ next rest, p.leadAndBody.2 ≠ [] :: next :: rest) := by
  rw [segments_root, names_text, leadAndBody]
  generalize p.segments = segments
  split
  · next second rest => exact ⟨by simp, .inl rfl, ⟨[[]], rfl⟩, by simp⟩
  · next rest => exact ⟨by simp, .inr rfl, ⟨[['.']], rfl⟩, by simp⟩
  · next hroot _ => exact ⟨by simpa using hroot, .inl rfl, List.suffix_rfl, fun _ => hroot⟩

/-! ## The end of a path -/

theorem dropIdleEnd_append_idle (body : List (List Char)) {segment : List Char}
    (h : isIdle segment = true) : dropIdleEnd (body ++ [segment]) = dropIdleEnd body := by
  simp [dropIdleEnd, h]

theorem dropIdleEnd_append_of_not (body : List (List Char)) {segment : List Char}
    (h : isIdle segment = false) : dropIdleEnd (body ++ [segment]) = body ++ [segment] := by
  simp [dropIdleEnd, h]

theorem dropIdleEnd_isPrefix (body : List (List Char)) : dropIdleEnd body <+: body :=
  body.rdropWhile_prefix _

theorem mem_of_getLast?_dropIdleEnd {body : List (List Char)} {segment : List Char}
    (h : (dropIdleEnd body).getLast? = some segment) : segment ∈ body ∧ isIdle segment = false := by
  induction body using List.reverseRecOn with
  | nil => simp [dropIdleEnd] at h
  | append_singleton body last ih =>
    cases hidle : isIdle last with
    | true =>
      rw [dropIdleEnd_append_idle body hidle] at h
      exact (ih h).imp_left (List.mem_append_left _)
    | false =>
      rw [dropIdleEnd_append_of_not body hidle, List.getLast?_concat] at h
      obtain rfl := Option.some.inj h
      exact ⟨by simp, hidle⟩

/-- What is idle at the end has no name but `.`. -/
theorem steps_dropIdleEnd (body : List (List Char)) :
    steps (innerNames (dropIdleEnd body)) = steps (innerNames body) := by
  induction body using List.reverseRecOn with
  | nil => rfl
  | append_singleton body segment ih =>
    cases h : isIdle segment with
    | true =>
      rw [dropIdleEnd_append_idle body h, ih, innerNames_append, FileSystem.steps_append,
        steps_innerNames_idle h, List.append_nil]
    | false => rw [dropIdleEnd_append_of_not body h]

/-- If the last name is not `.`, it is that of the last segment that is not idle. -/
theorem dropIdleEnd_of_names {body : List (List Char)} {ns : List String} {x : String}
    (h : innerNames body = ns ++ [x]) (hx : x ≠ ".") :
    ∃ front, dropIdleEnd body = front ++ [x.toList] ∧ innerNames front = ns := by
  induction body using List.reverseRecOn with
  | nil => simp [innerNames] at h
  | append_singleton body segment ih =>
    rw [innerNames_append] at h
    cases hidle : isIdle segment with
    | true =>
      rw [dropIdleEnd_append_idle body hidle]
      -- an idle segment has no name, or its name is `.` and not the last
      rcases (by simpa [isIdle] using hidle : segment = [] ∨ segment = ['.']) with rfl | rfl
      · exact ih (by simpa [innerNames] using h)
      · exact absurd (List.append_inj_right' h rfl) (by simpa [innerNames] using Ne.symm hx)
    | false =>
      rw [dropIdleEnd_append_of_not body hidle]
      have hne : innerNames [segment] = [String.ofList segment] := by
        have : segment ≠ [] := by
          rintro rfl
          simp [isIdle] at hidle
        simp [innerNames, this]
      rw [hne] at h
      obtain ⟨hns, hlast⟩ := List.append_inj' h rfl
      obtain rfl : String.ofList segment = x := by simpa using hlast
      exact ⟨body, by simp, hns⟩

/-! ## The path in front of the last name -/

theorem names_joinWith {body : List (List Char)} (h : ∀ segment ∈ body, '/' ∉ segment) :
    names (String.ofList (Text.joinWith '/' body)) = innerNames body := by
  rw [FileSystem.names_ofList]
  by_cases hbody : body = []
  · subst hbody
    rfl
  · rw [Text.splitOn_joinWith hbody h, innerNames]

/-- A path that is put together has the names of its segments, perhaps behind a `.`. -/
theorem names_assemble (lead : Lead) {body : List (List Char)}
    (h : ∀ segment ∈ body, '/' ∉ segment) :
    names (assemble lead body).text = innerNames body ∨
      names (assemble lead body).text = "." :: innerNames body := by
  have hnames := names_joinWith h
  cases lead with
  | root =>
    have hroot := FileSystem.names_ofList_append_slash [] (Text.joinWith '/' body)
    rw [hnames] at hroot
    exact .inl hroot
  | here =>
    by_cases hbody : body = []
    · subst hbody
      exact .inr rfl
    · have htext : (assemble .here body).text =
          String.ofList (['.'] ++ '/' :: Text.joinWith '/' body) := by simp [assemble, hbody]
      rw [htext, FileSystem.names_ofList_append_slash, hnames]
      exact .inr rfl
  | plain => exact .inl hnames

/-- A path that is put together has the names of its segments, and starts where it says. -/
theorem assemble_spec (lead : Lead) {body : List (List Char)} (h : ∀ segment ∈ body, '/' ∉ segment)
    (hplain : lead = .plain → ∀ next rest, body ≠ [] :: next :: rest) :
    steps (names (assemble lead body).text) = steps (innerNames body) ∧
      (startsAtRoot (assemble lead body).text = true ↔ lead = .root) := by
  constructor
  · rcases names_assemble lead h with hnames | hnames <;> simp [hnames]
  cases lead with
  | root => simp [assemble, startsAtRoot]
  | here =>
    by_cases hbody : body = []
    · subst hbody
      decide
    · simp [assemble, hbody, startsAtRoot]
  | plain =>
    have htext : (assemble .plain body).text = String.ofList (Text.joinWith '/' body) := rfl
    rw [htext, startsAtRoot, String.toList_ofList]
    cases body with
    | nil => simp [Text.joinWith]
    | cons segment body =>
      have hslash : segment.head? ≠ some '/' := fun he => h segment (by simp) (List.mem_of_head? he)
      cases body with
      | nil => simpa [Text.joinWith] using hslash
      | cons next rest =>
        cases segment with
        | nil => exact absurd rfl (hplain rfl next rest)
        | cons c cs => simpa [Text.joinWith] using hslash

/-- The path ends with a name that is not `.`, or it has no step at all. -/
def EndsWell (p : Path) : Prop :=
  steps (names p.text) = [] ∨ ∃ ns x, names p.text = ns ++ [x] ∧ x ≠ "."

/-- The parent of a path that ends with a name has the names in front of it but for every `.`,
starts where the path starts, and ends well. -/
theorem parent?_spec {p : Path} {ns : List String} {x : String} (h : names p.text = ns ++ [x])
    (hhere : x ≠ ".") :
    (dropIdleEnd p.leadAndBody.2).getLast? = some x.toList ∧
      ∃ q, p.parent? = some q ∧ steps (names q.text) = steps ns ∧
        startsAtRoot q.text = startsAtRoot p.text ∧ q.EndsWell := by
  obtain ⟨hroot, hbegin, hsuffix, hplain⟩ := leadAndBody_spec p
  -- the body ends with the name, so what is in front of it is the body of the parent
  obtain ⟨ns', hbody, hns⟩ :
      ∃ ns', innerNames p.leadAndBody.2 = ns' ++ [x] ∧ steps ns' = steps ns := by
    rcases hbegin with hbegin | hbegin
    · exact ⟨ns, hbegin.symm.trans h, rfl⟩
    · rw [h] at hbegin
      cases ns with
      | nil => exact absurd (List.cons.inj hbegin).1 hhere
      | cons m ns =>
        obtain ⟨rfl, hrest⟩ := List.cons.inj hbegin
        exact ⟨ns, hrest.symm, (FileSystem.steps_here ns).symm⟩
  obtain ⟨front, hend, hfront⟩ := dropIdleEnd_of_names hbody hhere
  refine ⟨by simp [hend], assemble p.leadAndBody.1 (dropIdleEnd front), by simp [parent?, hend], ?_⟩
  have hkept : dropIdleEnd front <+: p.leadAndBody.2 := by
    have hall := dropIdleEnd_isPrefix p.leadAndBody.2
    rw [hend] at hall
    exact (dropIdleEnd_isPrefix front).trans ((List.prefix_append _ _).trans hall)
  have hslash : ∀ segment ∈ dropIdleEnd front, '/' ∉ segment := fun segment hmem =>
    Text.notMem_of_mem_splitOn _ _ _ (hsuffix.subset (hkept.subset hmem))
  obtain ⟨hnames, hstart⟩ := assemble_spec p.leadAndBody.1 hslash fun hl next rest he => by
    obtain ⟨more, hmore⟩ := hkept
    rw [he] at hmore
    exact hplain hl next (rest ++ more) hmore.symm
  refine ⟨by rw [hnames, steps_dropIdleEnd, hfront, hns], ?_, ?_⟩
  · rw [Bool.eq_iff_iff, hstart, hroot]
  · cases hlast : (dropIdleEnd front).getLast? with
    | none =>
      rw [List.getLast?_eq_none_iff] at hlast
      exact .inl (by rw [hnames, hlast]; rfl)
    | some segment =>
      obtain ⟨-, hidle⟩ := mem_of_getLast?_dropIdleEnd hlast
      obtain ⟨before, hbefore⟩ := List.getLast?_eq_some_iff.1 hlast
      have hidle : segment ≠ [] ∧ segment ≠ ['.'] := by simpa [isIdle] using hidle
      have hinner : innerNames (dropIdleEnd front) =
          innerNames before ++ [String.ofList segment] := by
        rw [hbefore, innerNames_append]
        simp [innerNames, hidle.1]
      have hne : String.ofList segment ≠ "." := fun he =>
        hidle.2 (by simpa using congrArg String.toList he)
      rcases names_assemble p.leadAndBody.1 hslash with hall | hall
      · exact .inr ⟨_, _, hall.trans hinner, hne⟩
      · exact .inr ⟨"." :: innerNames before, _, by rw [hall, hinner, List.cons_append], hne⟩

/-- A path is put together again from its beginning and the segments after it. -/
theorem assemble_leadAndBody (p : Path) : assemble p.leadAndBody.1 p.leadAndBody.2 = p := by
  have hjoin := Text.joinWith_splitOn '/' p.text.toList
  have htext : ∀ cs, cs = p.text.toList → Path.mk (String.ofList cs) = p := by
    rintro _ rfl
    rw [String.ofList_toList]
  rw [leadAndBody]
  change Text.joinWith '/' p.segments = _ at hjoin
  split
  · next second rest hs =>
    rw [hs] at hjoin
    exact htext _ (by simpa [Text.joinWith] using hjoin)
  · next rest hs =>
    rw [hs] at hjoin
    cases rest <;> exact htext _ (by simpa [Text.joinWith] using hjoin)
  · exact htext _ hjoin

/-- With fewer segments it is put together to the beginning of the path. -/
theorem assemble_isPrefix (lead : Lead) {front body : List (List Char)} (h : front <+: body) :
    (assemble lead front).text.toList <+: (assemble lead body).text.toList := by
  obtain ⟨more, rfl⟩ := h
  have hjoin := Text.joinWith_isPrefix '/' front more
  cases lead with
  | root => simpa [assemble] using hjoin
  | here =>
    cases front with
    | nil => cases more <;> simp [assemble]
    | cons segment front => simpa [assemble] using hjoin
  | plain => simpa [assemble] using hjoin

/-- A path begins with its parent. -/
theorem parent?_isPrefix {p q : Path} (h : p.parent? = some q) :
    q.text.toList <+: p.text.toList := by
  simp only [parent?] at h
  split at h
  · split at h
    · obtain rfl := Option.some.inj h
      exact List.nil_prefix
    · cases h
  · next last front hend =>
    obtain rfl := Option.some.inj h
    have hfront : front.reverse <+: dropIdleEnd p.leadAndBody.2 :=
      ⟨[last], by rw [← List.reverse_cons, ← hend, List.reverse_reverse]⟩
    have := assemble_isPrefix p.leadAndBody.1
      ((dropIdleEnd_isPrefix _).trans (hfront.trans (dropIdleEnd_isPrefix _)))
    rwa [assemble_leadAndBody] at this

/-! ## Another name in the place of the last -/

/-- If a path ends with a name, the path with another name in its place has the same names in front
of it, starts where the path starts and has no slash at its end. -/
theorem withFileName_spec {p : Path} {ns : List String} {x name : String}
    (h : names p.text = ns ++ [x]) (hhere : x ≠ ".") (hup : x ≠ "..") (hname : IsSegment name) :
    p.fileName? = some x ∧
      ∃ ms, names (p.withFileName name).text = ms ++ [name] ∧ steps ms = steps ns ∧
        startsAtRoot (p.withFileName name).text = startsAtRoot p.text ∧
        FileSystem.endsInSlash (p.withFileName name).text = false := by
  obtain ⟨hlast, parent, hparent, hsteps, hstart, -⟩ := parent?_spec h hhere
  have hfile : p.fileName? = some x := by
    have hne : (x.toList == ['.', '.']) = false := by
      simpa using fun he => hup (String.toList_inj.1 (he.trans rfl))
    simp [fileName?, hlast, hne]
  have hpath : p.withFileName name = parent / name := by simp [withFileName, hfile, hparent]
  refine ⟨hfile, names parent.text, ?_, hsteps, ?_, ?_⟩
  · rw [hpath, hname.names_join]
  · rw [hpath, FileSystem.startsAtRoot_join hname.head_ne, hstart]
  · rw [hpath, hname.endsInSlash_join]

/-- A path of nothing but `.` and `..` has no file name. -/
theorem fileName?_of_dots {p : Path} (h : ∀ m ∈ names p.text, m = "." ∨ m = "..") :
    p.fileName? = none := by
  obtain ⟨-, hbegin, -, -⟩ := leadAndBody_spec p
  have hbody : ∀ m ∈ innerNames p.leadAndBody.2, m = "." ∨ m = ".." := by
    rcases hbegin with hbegin | hbegin
    · rwa [← hbegin]
    · intro m hm
      exact h m (by simp [hbegin, hm])
  unfold fileName?
  split
  · rfl
  · next segment hlast =>
    -- a segment that is not idle has a name, which is not `.`
    obtain ⟨hmem, hidle⟩ := mem_of_getLast?_dropIdleEnd hlast
    have hidle : segment ≠ [] ∧ segment ≠ ['.'] := by simpa [isIdle] using hidle
    have hname : String.ofList segment ∈ innerNames p.leadAndBody.2 :=
      List.mem_map.2 ⟨segment, List.mem_filter.2 ⟨hmem, by simpa using hidle.1⟩, rfl⟩
    have hup : segment = ['.', '.'] := by
      rcases hbody _ hname with he | he
      · exact absurd (by simpa using congrArg String.toList he) hidle.2
      · simpa using congrArg String.toList he
    simp [hup]

end Path

end Fleet

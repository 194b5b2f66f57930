import Fleet.Proofs.Files.Parents
import Fleet.Proofs.Files.Parts

namespace Fleet.FileSystem

/-! # When directories can be made

Below a directory that a path leads to, directories can be made along names if nothing but
directories is in the way (`IsClear`).  Those that are missing are made one behind the other,
beginning with the first, so each of them is made in one that is there.  Main statements:
`LeadsTo.makeDirectories_ok`, and `LeadsTo.makeDirectories_of_file` for a file that is in the way.
-/

variable {fs fs' made : FileSystem} {p q : Path} {x : String} {base : Location} {ns : List String}

/-- Names along which directories can be made: each of them is there or can be. -/
structure IsClear (fs : FileSystem) (base : Location) (ns : List String) : Prop where
  names : ∀ m ∈ ns, IsName m
  free : ∀ ks, ks <+: ns →
    fs.root.kind? (base ++ ks) = none ∨ fs.root.kind? (base ++ ks) = some .directory

theorem IsClear.front (h : IsClear fs base (ns ++ [x])) : IsClear fs base ns :=
  ⟨fun m hm => h.names m (by simp [hm]),
    fun ks hks => h.free ks (hks.trans (List.prefix_append _ _))⟩

theorem IsClear.adds (h : IsClear fs base ns) (hadds : AddsDirectories fs fs') :
    IsClear fs' base ns := by
  refine ⟨h.names, fun ks hks => ?_⟩
  rcases hadds.items (base ++ ks) with hsame | ⟨-, hdir⟩
  · simpa [Entries.kind?, hsame] using h.free ks hks
  · exact .inr (Entries.kind?_eq_directory.2 hdir)

/-! ## Where a path with names behind it leads -/

/-- It leads down along the names, if there is a directory at their end. -/
theorem LeadsTo.under (h : LeadsTo fs p base) (hns : ∀ m ∈ ns, IsProper m ∧ IsName m)
    (hdir : fs.root.item? (base ++ ns) = some .directory) :
    LeadsTo fs (under p ns) (base ++ ns) := by
  induction ns using List.reverseRecOn with
  | nil => simpa using h
  | append_singleton ns x ih =>
    obtain ⟨hproper, hname⟩ := hns x (by simp)
    rw [← List.append_assoc] at hdir ⊢
    have hfront := ih (fun m hm => hns m (by simp [hm])) (item?_directory_above hdir)
    rw [under_concat]
    exact hfront.below hproper hname hdir

theorem IsUnder.leadsTo_end (h : IsUnder q p ns) (hp : LeadsTo fs p base)
    (hclear : IsClear fs base ns) (hdir : fs.root.item? (base ++ ns) = some .directory) :
    LeadsTo fs q (base ++ ns) := by
  obtain ⟨hnames, hstart⟩ := under_names (p := p) h.proper
  refine (hp.under (fun m hm => ⟨h.proper m hm, hclear.names m hm⟩) hdir).of_steps ?_
    (hstart.trans h.sameStart.symm)
  rw [hnames, steps_append, steps_of_isProper h.proper, h.sameSteps]

/-- It leads nowhere else, if there are no links. -/
theorem IsUnder.leadsTo_of_isDirectory (h : IsUnder q p ns) (hp : LeadsTo fs p base)
    (hlinks : NoLinksIn fs base) (hdir : fs.isDirectory q = true) : LeadsTo fs q (base ++ ns) := by
  obtain ⟨r, hr, hkind⟩ := isDirectory_iff.1 hdir
  have hlead := LeadsTo.of_directory hr hkind
  obtain ⟨hnames, hstart⟩ := under_names (p := p) h.proper
  have hsteps : steps (names q.text) = steps (names (FileSystem.under p ns).text) := by
    rw [hnames, steps_append, steps_of_isProper h.proper, h.sameSteps]
  have hunder := hlead.of_steps hsteps (h.sameStart.trans hstart.symm)
  rwa [hp.eq_of_under hlinks h.proper hunder] at hlead

/-- It is followed from the directory along the names, whatever comes of it. -/
theorem IsUnder.route_eq (h : IsUnder q p (ns ++ [x])) (hp : LeadsTo fs p base)
    (hq : refused? q = none) : ∃ k, ∀ followLast, fs.route followLast q =
      walk fs.root followLast k base (ns ++ [x]) (endsInSlash q.text) := by
  obtain ⟨front, hnames, hfront⟩ := h.last
  obtain ⟨d, k, hd, hwalk⟩ := (hp.walk "a" isName_a).walk_onward rfl (by decide) (by decide)
  obtain rfl : base = d := by simpa using hd
  refine ⟨k, fun followLast => ?_⟩
  have hstart : (if startsAtRoot q.text then [] else fs.cwd) = fs.start p := by
    rw [start, h.sameStart]
  have hns : steps ns = ns := steps_of_isProper fun m hm => h.proper m (by simp [hm])
  have hsteps : steps front = steps (names p.text ++ ns) := by rw [hfront, steps_append, hns]
  simp only [route, hq]
  rw [hstart, hnames, walk_congr_steps hsteps, List.append_assoc]
  exact hwalk fs.root (fun _ _ _ hk => hk) _ _ followLast _ rfl (by simp)

theorem IsUnder.ne_empty (h : IsUnder q p ns) (hns : ns ≠ []) : q.text ≠ "" := by
  intro hq
  have hsteps := h.sameSteps
  rw [hq] at hsteps
  exact hns (List.append_eq_nil_iff.1 hsteps.symm).2

/-! ## One directory -/

/-- In a directory that is there, the next one is made, unless it is there. -/
theorem IsUnder.made_or_there (h : IsUnder q p (ns ++ [x])) (hp : LeadsTo fs p base)
    (hclear : IsClear fs base (ns ++ [x])) (hq : refused? q = none)
    (hdir : fs.root.item? (base ++ ns) = some .directory) :
    (∃ made, fs.makeDirectory q = .ok made) ∨ fs.isDirectory q = true := by
  rcases hclear.free _ List.prefix_rfl with hnone | hthere
  · left
    obtain ⟨k, hroute⟩ := h.route_eq hp hq
    have hwalk : fs.route false q = .ok ⟨.named (base ++ ns) x, endsInSlash q.text⟩ := by
      rw [hroute, walk_through (fun m hm => hclear.names m (by simp [hm]))
        (Entries.kind?_eq_directory.2 hdir) (by simp)]
      exact ((Walk.last_iff (hclear.names x (by simp))).2 rfl).walk_eq
    have hfree : fs.root.get? (base ++ (ns ++ [x])) = none := by
      rw [Entries.get?_eq_none]
      simpa [Entries.kind?] using hnone
    refine ⟨fs.place (base ++ (ns ++ [x])) (.directory []), ?_⟩
    simp [makeDirectory, hwalk, hfree, addNew, hasDirectory_iff.2 hdir, bind, Except.bind]
  · right
    exact (h.leadsTo_end hp hclear (Entries.kind?_eq_directory.1 hthere)).isDirectory hq

/-- A directory cannot be made before the one in front of it. -/
theorem IsUnder.makeDirectory_of_missing (h : IsUnder q p (ns ++ [x])) (hp : LeadsTo fs p base)
    (hclear : IsClear fs base (ns ++ [x])) (hq : refused? q = none)
    (hmissing : fs.root.item? (base ++ ns) ≠ some .directory) :
    fs.makeDirectory q = .error .noEntry := by
  obtain ⟨k, hroute⟩ := h.route_eq hp hq
  have hwalk : fs.route false q = .error .noEntry := by
    rw [hroute]
    exact walk_missing hclear.front.names (Entries.kind?_eq_directory.2 hp.directory)
      hclear.front.free fun hdir => hmissing (Entries.kind?_eq_directory.1 hdir)
  simp [makeDirectory, hwalk, bind, Except.bind]

/-! ## With the parents -/

/-- What is there, or can be made at once, is fine with its parents as well. -/
theorem makeMissing_of_made_or_there
    (h : (∃ made, fs.makeDirectory p = .ok made) ∨ fs.isDirectory p = true) (above : List Path) :
    (fs.makeMissing (p :: above)).2 = .ok () := by
  rcases h with ⟨made, hmade⟩ | hdir
  · rw [makeMissing]
    split
    · rfl
    · rw [hmade]
  · rw [makeMissing_of_isDirectory hdir]

/-- A directory can be made once its parents have been. -/
theorem makeMissing_of_parents {above : List Path} (hfirst : fs.makeDirectory p = .error .noEntry)
    (hparents : fs.makeMissing above = (made, .ok ()))
    (h : (∃ done, made.makeDirectory p = .ok done) ∨ made.isDirectory p = true) :
    (fs.makeMissing (p :: above)).2 = .ok () := by
  rw [makeMissing]
  split
  · rfl
  simp only [hfirst, if_true, hparents]
  rcases h with ⟨done, hdone⟩ | hdir
  · rw [hdone]
  · rw [makeDirectory_of_isDirectory hdir]
    simp [hdir]

theorem LeadsTo.makeMissing_ok (h : LeadsTo fs p base) (hlinks : NoLinksIn fs base) {n : Nat}
    (hq : IsUnder q p ns) (hn : ns.length ≤ n) (hclear : IsClear fs base ns)
    (haccepted : q.text ≠ "" → refused? q = none) :
    (fs.makeMissing (q.ancestorsUpTo n)).2 = .ok () := by
  -- induction on how far up parents are made, which is as far as there are names
  induction n generalizing q ns with
  | zero =>
    obtain rfl := List.length_eq_zero_iff.1 (Nat.le_zero.1 hn)
    rw [Path.ancestorsUpTo]
    by_cases hne : q.text = ""
    · simp [makeMissing, hne]
    · exact makeMissing_of_made_or_there (.inr ((hq.leadsTo h).isDirectory (haccepted hne))) _
  | succ n ih =>
    rw [Path.ancestorsUpTo]
    by_cases hne : q.text = ""
    · simp [makeMissing, hne]
    have hrefused := haccepted hne
    rcases List.eq_nil_or_concat ns with rfl | ⟨ms, x, rfl⟩
    · exact makeMissing_of_made_or_there (.inr ((hq.leadsTo h).isDirectory hrefused)) _
    rw [List.concat_eq_append] at *
    by_cases hdir : fs.root.item? (base ++ ms) = some .directory
    · exact makeMissing_of_made_or_there (hq.made_or_there h hclear hrefused hdir) _
    -- the directory in front of the last name comes first
    obtain ⟨parent, hparent, hup⟩ := hq.parent
    simp only [hparent]
    have hok := ih hup (by simpa using hn) hclear.front
      fun hpne => not_refused_of_prefix (Path.parent?_isPrefix hparent) hpne hrefused
    rcases hmade : fs.makeMissing (parent.ancestorsUpTo n) with ⟨made, result⟩
    obtain rfl : result = .ok () := by simpa [hmade] using hok
    refine makeMissing_of_parents (hq.makeDirectory_of_missing h hclear hrefused hdir) hmade ?_
    have hadds := makeMissing_eq_adds hmade
    have hlead := h.within hadds.extends.within
    refine hq.made_or_there hlead (hclear.adds hadds) hrefused ?_
    have hpne : parent.text ≠ "" := hup.ne_empty fun hms => hdir (by simpa [hms] using h.directory)
    have hthere : made.isDirectory parent = true := by
      obtain ⟨above, habove⟩ := ancestorsUpTo_eq_cons n parent
      exact isDirectory_of_makeMissing hpne (habove ▸ hmade)
    exact (hup.leadsTo_of_isDirectory hlead (hlinks.of_links hadds.links) hthere).directory

theorem length_le_under (hns : ∀ m ∈ ns, IsProper m) : ns.length ≤ (under p ns).text.length := by
  induction ns using List.reverseRecOn with
  | nil => simp
  | append_singleton ns x ih =>
    have hfront := ih fun m hm => hns m (by simp [hm])
    have hx := (hns x (by simp)).segment
    rw [under_concat, List.length_append]
    exact Nat.le_trans (Nat.succ_le_succ hfront) hx.length_lt_join

/-- Below a directory, another one is made with its parents, if nothing is in the way. -/
theorem LeadsTo.makeDirectories_ok (h : LeadsTo fs p base) (hlinks : NoLinksIn fs base)
    (hns : ∀ m ∈ ns, IsProper m) (hend : (FileSystem.under p ns).EndsWell)
    (hclear : IsClear fs base ns) (haccepted : refused? (FileSystem.under p ns) = none) :
    (fs.makeDirectories (FileSystem.under p ns)).2 = .ok () :=
  h.makeMissing_ok hlinks (isUnder_under hns hend) (length_le_under hns) hclear fun _ => haccepted

/-- Where a file is in the way, no directory is made. -/
theorem LeadsTo.makeDirectories_of_file {ms rest : List String} {m : String}
    (h : LeadsTo fs p base) (hns : ∀ y ∈ ms ++ m :: rest, IsProper y ∧ IsName y) (hne : rest ≠ [])
    (hend : (FileSystem.under p (ms ++ m :: rest)).EndsWell)
    (hdir : fs.root.item? (base ++ ms) = some .directory)
    (hfile : fs.root.kind? (base ++ ms ++ [m]) = some .file)
    (haccepted : refused? (FileSystem.under p (ms ++ m :: rest)) = none) :
    fs.makeDirectories (FileSystem.under p (ms ++ m :: rest)) = (fs, .error .notDirectory) := by
  have hq := isUnder_under (fun y hy => (hns y hy).1) hend
  generalize FileSystem.under p (ms ++ m :: rest) = q at hq haccepted
  obtain ⟨front, x, rfl⟩ : ∃ front x, rest = front ++ [x] :=
    ⟨_, _, (List.dropLast_concat_getLast hne).symm⟩
  have hlast : ms ++ m :: (front ++ [x]) = (ms ++ m :: front) ++ [x] := by simp
  obtain ⟨k, hroute⟩ := (hlast ▸ hq).route_eq h haccepted
  have hwalk : ∀ followLast, fs.route followLast q = .error .notDirectory := by
    intro followLast
    rw [hroute, ← hlast]
    exact walk_file (fun y hy => (hns y (by simp [hy])).2) (Entries.kind?_eq_directory.2 hdir)
      (hns m (by simp)).2 hfile hne
  have hnot : fs.isDirectory q = false := by
    simp [FileSystem.isDirectory, status, hwalk, bind, Except.bind]
  have hmade : fs.makeDirectory q = .error .notDirectory := by
    simp [makeDirectory, hwalk, bind, Except.bind]
  obtain ⟨above, habove⟩ := ancestors_eq_cons q
  have hqne : q.text ≠ "" := hq.ne_empty (by simp)
  have hnoEntry : ¬ IoError.notDirectory = .noEntry := by decide
  rw [FileSystem.makeDirectories, habove, makeMissing, hmade]
  simp [hqne, hnot, hnoEntry]

end Fleet.FileSystem

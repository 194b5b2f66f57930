import Fleet.Proofs.Files.Directories

namespace Fleet.FileSystem

/-! # Which directories are made

Making a directory with its parents ends well exactly if the directory is there afterwards
(`isDirectory_makeDirectories_iff`).  Whatever is new, also when it stops on the way, is one of the
directories that were to be made (`reaches_of_makeMissing`); and if a path leads to a directory
already, then below it, by the names that are to be made there (`LeadsTo.makeDirectories_under`).
-/

variable {fs fs' made : FileSystem} {p q : Path} {name : String} {loc base l : Location}

/-! ## The directory above -/

/-- A walk that goes on behind its last name but one comes past the directory above: there is one,
unless the walk only went up from where it started. -/
theorem Walk.above {root : Entries} {n : Nat} {names₀ ns : List String} {x y : String}
    {slash : Bool} {r : Route} (h : Walk root false n loc names₀ slash r)
    (hnames : names₀ = ns ++ [x, y]) (hhere : x ≠ ".") :
    ∃ d, (∀ z, IsName z → Walk root false n loc (ns ++ [z]) false ⟨.named d z, false⟩) ∧
      (root.kind? loc = some .directory → root.kind? d = some .directory) ∧
      (root.kind? d = some .directory ∨ ∀ m ∈ ns ++ [x], m = "." ∨ m = "..") := by
  induction h generalizing ns with
  | done => simp at hnames
  | here _ ih =>
    cases ns with
    | nil => exact absurd (List.cons.inj hnames).1.symm hhere
    | cons m ns =>
      obtain ⟨rfl, hrest⟩ := List.cons.inj hnames
      obtain ⟨d, hw, hstart, hdir⟩ := ih hrest
      exact ⟨d, fun z hz => .here (hw z hz), hstart, hdir.imp_right fun h => by simpa using h⟩
  | @up n loc rest slash r _ ih =>
    cases ns with
    | nil =>
      obtain ⟨rfl, -⟩ := List.cons.inj hnames
      exact ⟨loc, fun z hz => .stop hz (by simp), id, .inr (by simp)⟩
    | cons m ns =>
      obtain ⟨rfl, hrest⟩ := List.cons.inj hnames
      obtain ⟨d, hw, hstart, hdir⟩ := ih hrest
      refine ⟨d, fun z hz => .up (hw z hz), fun hloc => hstart ?_,
        hdir.imp_right fun h => by simpa using h⟩
      exact Entries.kind?_directory_of_prefix hloc (List.dropLast_prefix _)
  | stop _ _ => simpa using congrArg List.length hnames
  | @enter n loc m rest slash r hname hdir _ _ ih =>
    cases ns with
    | nil =>
      have hloc := Entries.kind?_directory_of_prefix hdir (List.prefix_append _ _)
      exact ⟨loc, fun z hz => .stop hz (by simp), fun _ => hloc, .inl hloc⟩
    | cons m ns =>
      obtain ⟨rfl, hrest⟩ := List.cons.inj hnames
      obtain ⟨d, hw, hstart, -⟩ := ih hrest
      exact ⟨d, fun z hz => .enter hname hdir (by simp) (hw z hz), fun _ => hstart hdir,
        .inl (hstart hdir)⟩
  | @follow n loc m rest slash r target hname hlink htarget _ _ ih =>
    -- a link stands in a directory, and what it says goes on from there or from the root
    have hloc : root.kind? loc = some .directory := Entries.kind?_eq_directory.2
      (Entries.item?_directory_of_below (Entries.kind?_eq_link.1 hlink) (by simp))
    cases ns with
    | nil => exact ⟨loc, fun z hz => .stop hz (by simp), fun _ => hloc, .inl hloc⟩
    | cons m ns =>
      obtain ⟨rfl, hrest⟩ := List.cons.inj hnames
      have hall : names target ++ rest = (names target ++ ns) ++ [x, y] := by
        rw [hrest, List.append_eq, List.append_assoc]
      obtain ⟨d, hw, hstart, -⟩ := ih hall
      have hd : root.kind? d = some .directory := by
        refine hstart ?_
        split
        · rfl
        · exact hloc
      refine ⟨d, fun z hz => .follow hname hlink htarget (.inl (by simp)) ?_, fun _ => hd, .inl hd⟩
      have hslash : (false || ((ns ++ [z]).isEmpty && endsInSlash target)) = false := by simp
      rw [List.append_eq, hslash, ← List.append_assoc]
      exact hw z hz

/-- If a path leads to a directory, so does its parent, unless there is no name in the path. -/
theorem LeadsTo.of_parent {ns : List String} {x : String} (h : LeadsTo fs p loc)
    (hp : names p.text = ns ++ [x]) (hhere : x ≠ ".")
    (hdots : ¬ ∀ m ∈ names p.text, m = "." ∨ m = "..")
    (hsteps : steps (names q.text) = steps ns)
    (hstart : startsAtRoot q.text = startsAtRoot p.text) : ∃ d, LeadsTo fs q d := by
  have hall : names p.text ++ ["a"] = ns ++ [x, "a"] := by simp [hp]
  obtain ⟨d, hw, -, hdir⟩ := (h.walk "a" isName_a).above hall hhere
  rw [hp] at hdots
  exact ⟨d, .of_walk (Entries.kind?_eq_directory.1 (hdir.resolve_right hdots)) hw hsteps hstart⟩

/-- If a path with a name leads to a directory, then the path leads to the one in which the name is
looked up. -/
theorem LeadsTo.of_below (h : LeadsTo fs (p / name) loc) (hname : IsProper name) :
    ∃ base, LeadsTo fs p base ∧
      ((∀ t, fs.root.item? (base ++ [name]) ≠ some (.link t)) → loc = base ++ [name]) := by
  have hstart := startsAtRoot_join (p := p) hname.segment.head_ne
  obtain ⟨r, hw, rfl⟩ := (h.walk "a" isName_a).before rfl (by decide) (by decide) false
  rw [hname.segment.names_join] at hw
  -- something stands under the name, so it stands in a directory
  obtain ⟨d, hd, hkind⟩ := hw.front rfl hname.ne_here hname.ne_up
  obtain ⟨e, he⟩ := Option.ne_none_iff_exists'.1
    (show fs.root.item? (d ++ [name]) ≠ none by
      simpa [Entries.kind?] using hkind (by simp [Entries.kind?, h.directory]))
  obtain ⟨d', hd', -, hother⟩ := hd.sibling rfl hname.ne_here hname.ne_up
  obtain rfl : d = d' := by simpa using hd'
  have hlead : LeadsTo fs p d :=
    .of_walk (item?_directory_above he) (fun y => hother _ y false rfl) rfl hstart.symm
  refine ⟨d, hlead, fun hnot => ?_⟩
  have hsame : Walk fs.root true maxLinks (fs.start (p / name)) (names p.text ++ [name]) false
      ⟨.named d name, false⟩ :=
    hd.within (fun _ _ hk => hk) (by simp) fun _ t ht => hnot t (Entries.kind?_eq_link.1 ht)
  have hr := Except.ok.inj (hw.walk_eq.symm.trans hsame.walk_eq)
  rw [hr]
  rfl

/-! ## What could not be made -/

/-- How it goes wrong: there is no directory, or there is nothing and the parents cannot be made. -/
theorem makeMissing_eq_error {above : List Path} {e : IoError}
    (h : fs.makeMissing (p :: above) = (made, .error e)) :
    p.text ≠ "" ∧ (made.isDirectory p = false ∨
      fs.makeDirectory p = .error .noEntry ∧ fs.makeMissing above = (made, .error e)) := by
  have hof : ∀ {g : FileSystem} {e' : IoError},
      (g, if g.isDirectory p then .ok () else .error e') = (made, Except.error e) →
        made.isDirectory p = false := by
    intro g e' hg
    obtain ⟨rfl, hend⟩ := Prod.mk.inj hg
    split at hend
    · cases hend
    · next hnot => simpa using hnot
  rw [makeMissing] at h
  split at h
  · cases h
  next hne =>
  refine ⟨by simpa using hne, ?_⟩
  split at h
  · cases h
  next e' hp =>
  split at h
  · next he =>
    subst he
    split at h
    · next parents e' habove =>
      obtain ⟨rfl, hend⟩ := Prod.mk.inj h
      exact .inr ⟨hp, by rw [habove, hend]⟩
    · split at h
      · cases h
      · exact .inl (hof h)
  · exact .inl (hof h)

/-- What could not be made is no directory, whichever of its parents were made. -/
theorem not_isDirectory_of_makeMissing {e : IoError} (n : Nat) (hend : p.EndsWell)
    (h : fs.makeMissing (p.ancestorsUpTo n) = (made, .error e)) : made.isDirectory p = false := by
  -- induction on how far up parents are made
  induction n generalizing p with
  | zero =>
    obtain ⟨-, hnot | ⟨-, habove⟩⟩ := makeMissing_eq_error h
    · exact hnot
    · simp [makeMissing] at habove
  | succ n ih =>
    rw [Path.ancestorsUpTo] at h
    obtain ⟨hne, hnot | ⟨hmissing, habove⟩⟩ := makeMissing_eq_error h
    · exact hnot
    have hdots : ¬ ∀ m ∈ names p.text, m = "." ∨ m = ".." := fun hdots =>
      makeDirectory_of_dots hdots hne hmissing
    obtain hend | ⟨ns, x, hp, hhere⟩ := hend
    · exact absurd (fun m hm => .inl (here_of_steps_eq_nil hend m hm)) hdots
    obtain ⟨-, q, hparent, hsteps, hstart, hend'⟩ := Path.parent?_spec hp hhere
    simp only [hparent] at habove
    have hq := ih hend' habove
    -- a directory has a parent that is one
    rw [Bool.eq_false_iff]
    intro hdir
    obtain ⟨r, hr, hkind⟩ := isDirectory_iff.1 hdir
    obtain ⟨d, hlead⟩ := (LeadsTo.of_directory hr hkind).of_parent hp hhere hdots hsteps hstart
    have hqne : q.text ≠ "" := by
      obtain ⟨above, habove'⟩ := ancestorsUpTo_eq_cons n q
      exact (makeMissing_eq_error (habove' ▸ habove)).1
    have hrefused := not_refused_of_prefix (Path.parent?_isPrefix hparent) hqne
      (route_eq_ok_iff.1 hr).1
    rw [hlead.isDirectory hrefused] at hq
    cases hq

/-- A directory can be made with its parents exactly if it is there afterwards. -/
theorem isDirectory_makeDirectories_iff (hend : p.EndsWell) (hne : p.text ≠ "") :
    (fs.makeDirectories p).1.isDirectory p = true ↔ (fs.makeDirectories p).2 = .ok () := by
  rcases hmade : fs.makeDirectories p with ⟨made, e | ⟨⟨⟩⟩⟩
  · simp [not_isDirectory_of_makeMissing _ hend hmade]
  · simp [isDirectory_of_makeDirectories hne hmade]

/-! ## What is new -/

/-- What making a directory with its parents comes to: nothing, the directory alone, what was made
of the parents, or the directory after them. -/
theorem makeMissing_cases (fs : FileSystem) (p : Path) (above : List Path) :
    (fs.makeMissing (p :: above)).1 = fs ∨
      fs.makeDirectory p = .ok (fs.makeMissing (p :: above)).1 ∨
      (fs.makeMissing (p :: above)).1 = (fs.makeMissing above).1 ∨
      (fs.makeMissing above).1.makeDirectory p = .ok (fs.makeMissing (p :: above)).1 := by
  rw [makeMissing]
  split
  · exact .inl rfl
  split
  · next hmade => exact .inr (.inl hmade)
  split
  · split
    · next habove => exact .inr (.inr (.inl (by rw [habove])))
    · next habove =>
      rw [habove]
      split
      · next hdone => exact .inr (.inr (.inr hdone))
      · exact .inr (.inr (.inl rfl))
  · exact .inl rfl

/-- Whatever is new is one of the directories that were to be made. -/
theorem reaches_of_makeMissing (ps : List Path)
    (h : (fs.makeMissing ps).1.root.item? l ≠ fs.root.item? l) :
    ∃ q ∈ ps, Reaches (fs.makeMissing ps).1 q l := by
  induction ps with
  | nil => exact absurd rfl h
  | cons p above ih =>
    rcases makeMissing_cases fs p above with hm | hm | hm | hm
    · rw [hm] at h
      exact absurd rfl h
    · obtain ⟨loc, hreach, -, hitems⟩ := makeDirectory_items hm
      obtain rfl : l = loc := by
        by_contra hne
        exact h ((hitems l).trans (if_neg hne))
      exact ⟨p, by simp, hreach⟩
    · rw [hm] at h ⊢
      obtain ⟨q, hq, hreach⟩ := ih h
      exact ⟨q, by simp [hq], hreach⟩
    · obtain ⟨loc, hreach, -, hitems⟩ := makeDirectory_items hm
      by_cases hl : l = loc
      · exact ⟨p, by simp, hl ▸ hreach⟩
      · have hl := (hitems l).trans (if_neg hl)
        rw [hl] at h
        obtain ⟨q, hq, hreach⟩ := ih h
        have hdir := ((makeMissing_adds above).items l).resolve_left h
        exact ⟨q, by simp [hq],
          hreach.within (makeDirectory_adds hm).extends.within fun t => by simp [hl, hdir.2]⟩

/-- A directory that is new, and that the path or one of its parents leads to. -/
structure IsMadeFor (p : Path) (fs fs' : FileSystem) (l : Location) : Prop where
  free : fs.root.item? l = none
  directory : fs'.root.item? l = some .directory
  reached : ∃ q ∈ p.ancestors, Reaches fs' q l

theorem isMadeFor_of_makeDirectories
    (hl : (fs.makeDirectories p).1.root.item? l ≠ fs.root.item? l) :
    IsMadeFor p fs (fs.makeDirectories p).1 l := by
  obtain ⟨hfree, hdir⟩ := ((makeDirectories_adds fs p).items l).resolve_left hl
  exact ⟨hfree, hdir, reaches_of_makeMissing _ hl⟩

/-- It stays there while other things change. -/
theorem IsMadeFor.within (h : IsMadeFor p fs made l) (hfs : Within made fs')
    (hsame : fs'.root.item? l = made.root.item? l) : IsMadeFor p fs fs' l := by
  have hdir := hsame.trans h.directory
  obtain ⟨q, hq, hreach⟩ := h.reached
  exact ⟨h.free, hdir, q, hq, hreach.within hfs fun t => by simp [hdir]⟩

/-! ## Below a directory -/

/-- There is no link in the directory at a location, however deep. -/
def NoLinksIn (fs : FileSystem) (base : Location) : Prop :=
  ∀ l t, base <+: l → fs.root.item? l ≠ some (.link t)

theorem NoLinksIn.of_links (h : NoLinksIn fs base)
    (hlinks : ∀ l t, fs'.root.item? l = some (.link t) → fs.root.item? l = some (.link t)) :
    NoLinksIn fs' base :=
  fun l t hl ht => h l t hl (hlinks l t ht)

theorem AddsDirectories.links (h : AddsDirectories fs fs') (l : Location) (t : String)
    (ht : fs'.root.item? l = some (.link t)) : fs.root.item? l = some (.link t) :=
  h.item?_of_ne ht (by simp)

/-- The path with names behind it. -/
def under (p : Path) (ns : List String) : Path := ns.foldl (· / ·) p

@[simp] theorem under_nil (p : Path) : under p [] = p := rfl

@[simp] theorem under_concat (p : Path) (ns : List String) (x : String) :
    under p (ns ++ [x]) = under p ns / x := by
  simp [under]

theorem under_names {ns : List String} (hns : ∀ m ∈ ns, IsProper m) :
    names (under p ns).text = names p.text ++ ns ∧
      startsAtRoot (under p ns).text = startsAtRoot p.text := by
  induction ns using List.reverseRecOn with
  | nil => simp
  | append_singleton ns x ih =>
    have hx := hns x (by simp)
    obtain ⟨hnames, hstart⟩ := ih fun m hm => hns m (by simp [hm])
    rw [under_concat, hx.segment.names_join, startsAtRoot_join hx.segment.head_ne, hnames, hstart,
      List.append_assoc]
    exact ⟨rfl, rfl⟩

theorem steps_of_isProper {ns : List String} (hns : ∀ m ∈ ns, IsProper m) : steps ns = ns :=
  List.filter_eq_self.2 fun m hm => by simpa using (hns m hm).ne_here

/-- Where there are no links, names behind a path lead down along them. -/
theorem LeadsTo.eq_of_under (h : LeadsTo fs p base) (hlinks : NoLinksIn fs base)
    {ns : List String} (hns : ∀ m ∈ ns, IsProper m) (hunder : LeadsTo fs (under p ns) loc) :
    loc = base ++ ns := by
  induction ns using List.reverseRecOn generalizing loc with
  | nil => simpa using hunder.unique h
  | append_singleton ns x ih =>
    rw [under_concat] at hunder
    obtain ⟨d, hd, hloc⟩ := hunder.of_below (hns x (by simp))
    obtain rfl := ih (fun m hm => hns m (by simp [hm])) hd
    rw [hloc fun t => hlinks _ t (by simp), List.append_assoc]

/-- What is found under a name behind them stands where the names say. -/
theorem LeadsTo.eq_of_reaches (h : LeadsTo fs p base) (hlinks : NoLinksIn fs base)
    {ns : List String} (hns : ∀ m ∈ ns, IsProper m) (hname : IsProper name)
    (hreach : Reaches fs (under p ns / name) l) (hthere : fs.root.item? l ≠ none) :
    l = base ++ ns ++ [name] := by
  obtain ⟨r, hr, rfl⟩ := hreach
  obtain ⟨d, hunder, -⟩ := LeadsTo.of_route hname hr (by simpa [Entries.kind?] using hthere)
  obtain rfl := h.eq_of_under hlinks hns hunder
  rw [hunder.route_eq_of_noLink hname (fun t => hlinks _ t (by simp)) hr]
  rfl

/-! ### Paths with names behind another -/

/-- The path is another one with names behind it, but for every `.`. -/
structure IsUnder (q p : Path) (ns : List String) : Prop where
  proper : ∀ m ∈ ns, IsProper m
  endsWell : q.EndsWell
  sameSteps : steps (names q.text) = steps (names p.text) ++ ns
  sameStart : startsAtRoot q.text = startsAtRoot p.text

theorem isUnder_under {ns : List String} (hns : ∀ m ∈ ns, IsProper m)
    (hend : (under p ns).EndsWell) : IsUnder (under p ns) p ns := by
  obtain ⟨hnames, hstart⟩ := under_names (p := p) hns
  exact ⟨hns, hend, by rw [hnames, steps_append, steps_of_isProper hns], hstart⟩

section IsUnder

variable {ns : List String} {x : String}

theorem IsUnder.leadsTo (h : IsUnder q p []) (hp : LeadsTo fs p base) : LeadsTo fs q base :=
  hp.of_steps (by simpa using h.sameSteps.symm) h.sameStart.symm

theorem IsUnder.last (h : IsUnder q p (ns ++ [x])) :
    ∃ front, names q.text = front ++ [x] ∧ steps front = steps (names p.text) ++ ns := by
  have hsteps := h.sameSteps
  rcases h.endsWell with hnil | ⟨front, x', hq, hhere⟩
  · simp [hnil] at hsteps
  · rw [hq, steps_append, steps_cons hhere, ← List.append_assoc] at hsteps
    obtain ⟨hfront, hlast⟩ := List.append_inj' hsteps rfl
    obtain rfl : x' = x := by simpa using hlast
    exact ⟨front, hq, hfront⟩

theorem IsUnder.parent (h : IsUnder q p (ns ++ [x])) :
    ∃ above, q.parent? = some above ∧ IsUnder above p ns := by
  obtain ⟨front, hq, hfront⟩ := h.last
  obtain ⟨-, above, habove, hsteps, hstart, hend⟩ :=
    Path.parent?_spec hq (h.proper x (by simp)).ne_here
  exact ⟨above, habove, fun m hm => h.proper m (by simp [hm]), hend, hsteps.trans hfront,
    hstart.trans h.sameStart⟩

/-- The directory of such a path is made where the names say. -/
theorem IsUnder.location_of_makeDirectory (h : IsUnder q p (ns ++ [x])) (hp : LeadsTo fs p base)
    (hlinks : NoLinksIn fs base) (hmade : fs.makeDirectory q = .ok made)
    (hl : made.root.item? l ≠ fs.root.item? l) : l = base ++ (ns ++ [x]) := by
  obtain ⟨dir, m, slash, hr, hdir, hnone, rfl⟩ := makeDirectory_eq_ok hmade
  have hfree : fs.root.item? (dir ++ [m]) ≠ some .directory := by simp [hnone]
  obtain ⟨front, hq, hfront⟩ := h.last
  have hx := h.proper x (by simp)
  have hns : ∀ m ∈ ns, IsProper m := fun m hm => h.proper m (by simp [hm])
  -- the last name is looked up in the directory of those in front of it
  obtain ⟨hnames, hstart⟩ := under_names (p := p) hns
  obtain ⟨rfl, hlead⟩ := LeadsTo.of_last (p := under p ns) hr hdir hq hx.ne_here hx.ne_up
    (by rw [hnames, steps_append, steps_of_isProper hns, hfront]) (hstart.trans h.sameStart.symm)
  obtain rfl := hp.eq_of_under hlinks hns hlead
  rw [item?_place _ rfl hdir hfree] at hl
  by_contra hne
  exact hl (if_neg fun he => hne (by simp [he]))

end IsUnder

/-! ### What is made of them -/

/-- The location is one on the way down along the names. -/
def IsAlong (base : Location) (ns : List String) (l : Location) : Prop :=
  ∃ ks, ks ≠ [] ∧ ks <+: ns ∧ l = base ++ ks

theorem IsAlong.concat {ns : List String} (h : IsAlong base ns l) (x : String) :
    IsAlong base (ns ++ [x]) l := by
  obtain ⟨ks, hne, hks, rfl⟩ := h
  exact ⟨ks, hne, hks.trans (List.prefix_append _ _), rfl⟩

theorem isAlong_end (base : Location) (ns : List String) (x : String) :
    IsAlong base (ns ++ [x]) (base ++ (ns ++ [x])) :=
  ⟨_, by simp, List.prefix_rfl, rfl⟩

/-- Where a path leads to a directory, making it with its parents changes nothing. -/
theorem LeadsTo.makeMissing_eq (h : LeadsTo fs p loc) (above : List Path) :
    (fs.makeMissing (p :: above)).1 = fs := by
  rw [makeMissing]
  split
  · rfl
  next hne =>
  have hne : p.text ≠ "" := by simpa using hne
  obtain ⟨e, he, hnot⟩ : ∃ e, fs.makeDirectory p = .error e ∧ e ≠ .noEntry := by
    cases hp : refused? p with
    | some e =>
      exact ⟨e, by simp [makeDirectory, route, hp, bind, Except.bind],
        fun he => refused?_ne_noEntry hne (he ▸ hp)⟩
    | none => exact ⟨_, makeDirectory_of_isDirectory (h.isDirectory hp), by decide⟩
  simp [he, hnot]

/-- One path of those that are made: what is new is new among its parents, or it is the last of the
names. -/
theorem LeadsTo.makeMissing_under_step (h : LeadsTo fs p base) (hlinks : NoLinksIn fs base)
    {ns : List String} {above : List Path} (hq : IsUnder q p ns)
    (habove : ∀ ms x, ns = ms ++ [x] →
      (fs.makeMissing above).1.root.item? l ≠ fs.root.item? l → IsAlong base ms l)
    (hl : (fs.makeMissing (q :: above)).1.root.item? l ≠ fs.root.item? l) : IsAlong base ns l := by
  rcases List.eq_nil_or_concat ns with rfl | ⟨ms, x, rfl⟩
  · rw [(hq.leadsTo h).makeMissing_eq] at hl
    exact absurd rfl hl
  rw [List.concat_eq_append] at *
  have hadds : AddsDirectories fs (fs.makeMissing above).1 := makeMissing_adds above
  rcases makeMissing_cases fs q above with hm | hm | hm | hm
  · rw [hm] at hl
    exact absurd rfl hl
  · rw [hq.location_of_makeDirectory h hlinks hm hl]
    exact isAlong_end base ms x
  · rw [hm] at hl
    exact (habove ms x rfl hl).concat x
  · by_cases hsame : (fs.makeMissing above).1.root.item? l = fs.root.item? l
    · rw [← hsame] at hl
      rw [hq.location_of_makeDirectory (h.within hadds.extends.within)
        (hlinks.of_links hadds.links) hm hl]
      exact isAlong_end base ms x
    · exact (habove ms x rfl hsame).concat x

theorem LeadsTo.makeMissing_under (h : LeadsTo fs p base) (hlinks : NoLinksIn fs base) (n : Nat)
    {ns : List String} (hq : IsUnder q p ns)
    (hl : (fs.makeMissing (q.ancestorsUpTo n)).1.root.item? l ≠ fs.root.item? l) :
    IsAlong base ns l := by
  -- induction on how far up parents are made
  induction n generalizing q ns with
  | zero => exact h.makeMissing_under_step hlinks hq (fun _ _ _ hnot => absurd rfl hnot) hl
  | succ n ih =>
    refine h.makeMissing_under_step hlinks hq ?_ hl
    rintro ms x rfl habove
    obtain ⟨parent, hparent, hup⟩ := hq.parent
    simp only [hparent] at habove
    exact ih hup habove

/-- Where a path leads to a directory, making one below it with its parents makes only directories
on the way down. -/
theorem LeadsTo.makeDirectories_under (h : LeadsTo fs p base) (hlinks : NoLinksIn fs base)
    {ns : List String} (hns : ∀ m ∈ ns, IsProper m) (hend : (under p ns).EndsWell)
    (hl : (fs.makeDirectories (under p ns)).1.root.item? l ≠ fs.root.item? l) :
    IsAlong base ns l :=
  h.makeMissing_under hlinks _ (isUnder_under hns hend) hl

end Fleet.FileSystem

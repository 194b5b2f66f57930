import Fleet.Proofs.Files.Change
import Fleet.Proofs.Files.Names

namespace Fleet.FileSystem

/-! # The directory in front of a name

`LeadsTo` says that a path leads to a directory, in which whatever name comes next is looked up.

* `LeadsTo.of_route`: a path with a name behind it that leads to something has such a directory;
* `LeadsTo.within`: the directory stays the same while files come;
* `LeadsTo.route_eq`, `LeadsTo.below` and `LeadsTo.there_of_isPresent`: what stands in the directory
  is what the path leads to with a name behind it.
-/

/-- A name that leads down: no `.` and no `..`. -/
structure IsProper (name : String) : Prop where
  segment : IsSegment name
  ne_here : name ≠ "."
  ne_up : name ≠ ".."

/-- Neither the name nor the path with the name behind it is too long, or refused for a letter. -/
structure Admits (p : Path) (name : String) : Prop where
  fits : name.utf8ByteSize ≤ maxName
  not_refused : refused? (p / name) = none

theorem Admits.isName {p : Path} {name : String} (h : Admits p name) (hname : IsProper name) :
    IsName name :=
  ⟨hname.ne_here, hname.ne_up, h.fits⟩

variable {root : Entries} {followLast : Bool} {n : Nat} {loc : Location} {slash : Bool} {r : Route}

/-! ## Walks with one name more, and with another name at the end -/

/-- Whatever a walk goes down with can stand in a directory. -/
theorem Walk.isName_of_mem {ns : List String} (h : Walk root followLast n loc ns slash r)
    {m : String} (hm : m ∈ ns) (hhere : m ≠ ".") (hup : m ≠ "..") : IsName m := by
  induction h with
  | done => cases hm
  | here _ ih => exact ih ((List.mem_cons.1 hm).resolve_left hhere)
  | up _ ih => exact ih ((List.mem_cons.1 hm).resolve_left hup)
  | stop hname _ =>
    rw [List.mem_singleton.1 hm]
    exact hname
  | enter hname _ _ _ ih =>
    rcases List.mem_cons.1 hm with rfl | hm
    · exact hname
    · exact ih hm
  | follow hname _ _ _ _ ih =>
    rcases List.mem_cons.1 hm with rfl | hm
    · exact hname
    · exact ih (List.mem_append_right _ hm)

/-- A walk comes past the directory of its last name, and finds nothing where nothing is there. -/
theorem Walk.front {names₀ ns : List String} {x : String}
    (h : Walk root followLast n loc names₀ slash r) (hnames : names₀ = ns ++ [x]) (hhere : x ≠ ".")
    (hup : x ≠ "..") :
    ∃ d, Walk root false n loc (ns ++ [x]) false ⟨.named d x, false⟩ ∧
      (root.kind? r.spot.location ≠ none → root.kind? (d ++ [x]) ≠ none) := by
  induction h generalizing ns with
  | done => simp at hnames
  | here _ ih =>
    cases ns with
    | nil => exact absurd (List.cons.inj hnames).1.symm hhere
    | cons m ns =>
      obtain ⟨rfl, hrest⟩ := List.cons.inj hnames
      obtain ⟨d, hd, hthere⟩ := ih hrest
      exact ⟨d, .here hd, hthere⟩
  | up _ ih =>
    cases ns with
    | nil => exact absurd (List.cons.inj hnames).1.symm hup
    | cons m ns =>
      obtain ⟨rfl, hrest⟩ := List.cons.inj hnames
      obtain ⟨d, hd, hthere⟩ := ih hrest
      exact ⟨d, .up hd, hthere⟩
  | stop hname _ =>
    cases ns with
    | nil =>
      obtain ⟨rfl, -⟩ := List.cons.inj hnames
      exact ⟨_, .stop hname (by simp), id⟩
    | cons m ns => simp at hnames
  | enter hname hdir hne _ ih =>
    cases ns with
    | nil => exact absurd (List.cons.inj hnames).2 hne
    | cons m ns =>
      obtain ⟨rfl, hrest⟩ := List.cons.inj hnames
      obtain ⟨d, hd, hthere⟩ := ih hrest
      exact ⟨d, .enter hname hdir (by simp) hd, hthere⟩
  | @follow n loc name rest slash r target hname hlink htarget _ _ ih =>
    cases ns with
    | nil =>
      obtain ⟨rfl, -⟩ := List.cons.inj hnames
      exact ⟨_, .stop hname (by simp), fun _ => by simp [hlink]⟩
    | cons m ns =>
      obtain ⟨rfl, hrest⟩ := List.cons.inj hnames
      have hall : names target ++ rest = (names target ++ ns) ++ [x] := by
        rw [hrest, List.append_eq, List.append_assoc]
      obtain ⟨d, hd, hthere⟩ := ih hall
      refine ⟨d, .follow hname hlink htarget (.inl (by simp)) ?_, hthere⟩
      have hne : (ns ++ [x]).isEmpty = false := by simp
      simpa [hne] using hd

/-- A name behind what a walk ended with, if that is a directory. -/
theorem Walk.behind {ns : List String} {y : String}
    (h : Walk root followLast n loc ns slash r)
    (hdir : root.kind? r.spot.location = some .directory) (hy : IsName y) :
    Walk root false n loc (ns ++ [y]) false ⟨.named r.spot.location y, false⟩ := by
  induction h with
  | done => exact .stop hy (by simp)
  | here _ ih => exact .here (ih hdir)
  | up _ ih => exact .up (ih hdir)
  | stop hname _ => exact .enter hname hdir (by simp) (.stop hy (by simp))
  | enter hname hdir' _ _ ih => exact .enter hname hdir' (by simp) (ih hdir)
  | @follow n loc name rest slash r target hname hlink htarget _ _ ih =>
    have hslash : (false || ((rest ++ [y]).isEmpty && endsInSlash target)) = false := by simp
    refine .follow hname hlink htarget (.inl (by simp)) ?_
    rw [List.append_eq, hslash, ← List.append_assoc]
    exact ih hdir

/-- The names in front of the last one lead to the directory in which that is looked up. -/
theorem Walk.before {names₀ ns : List String} {d : Location} {y : String} {slash' : Bool}
    (h : Walk root false n loc names₀ slash ⟨.named d y, slash'⟩) (hnames : names₀ = ns ++ [y])
    (hhere : y ≠ ".") (hup : y ≠ "..") (asked : Bool) :
    ∃ r, Walk root true n loc ns asked r ∧ r.spot.location = d := by
  generalize hr : (⟨.named d y, slash'⟩ : Route) = r at h
  induction h generalizing ns asked with
  | done => simp at hnames
  | here _ ih =>
    cases ns with
    | nil => exact absurd (List.cons.inj hnames).1.symm hhere
    | cons m ns =>
      obtain ⟨rfl, hrest⟩ := List.cons.inj hnames
      obtain ⟨r', hw, hd⟩ := ih hrest asked hr
      exact ⟨r', .here hw, hd⟩
  | up _ ih =>
    cases ns with
    | nil => exact absurd (List.cons.inj hnames).1.symm hup
    | cons m ns =>
      obtain ⟨rfl, hrest⟩ := List.cons.inj hnames
      obtain ⟨r', hw, hd⟩ := ih hrest asked hr
      exact ⟨r', .up hw, hd⟩
  | stop _ _ =>
    cases ns with
    | nil =>
      cases hr
      exact ⟨_, .done, rfl⟩
    | cons m ns => simp at hnames
  | @enter n loc name rest slash r hname hdir hne hrest ih =>
    cases ns with
    | nil => exact absurd (List.cons.inj hnames).2 hne
    | cons m ns =>
      obtain ⟨rfl, rfl⟩ := List.cons.inj hnames
      by_cases hns : ns = []
      · -- the directory that is entered is the one in front of the last name
        subst hns
        subst hr
        obtain ⟨r', hw, hd⟩ := ih rfl asked rfl
        cases hw
        exact ⟨_, .stop hname (by simp [hdir]), hd⟩
      · obtain ⟨r', hw, hd⟩ := ih rfl asked hr
        exact ⟨r', .enter hname hdir hns hw, hd⟩
  | @follow n loc name rest slash r target hname hlink htarget hgo _ ih =>
    cases ns with
    | nil => simp [(List.cons.inj hnames).2] at hgo
    | cons m ns =>
      obtain ⟨rfl, hrest⟩ := List.cons.inj hnames
      have hall : names target ++ rest = (names target ++ ns) ++ [y] := by
        rw [hrest, List.append_eq, List.append_assoc]
      obtain ⟨r', hw, hd⟩ := ih hall (asked || (ns.isEmpty && endsInSlash target)) hr
      exact ⟨r', .follow hname hlink htarget (.inr rfl) hw, hd⟩

/-- A name that is too long is refused in the directory in which another one is looked up. -/
theorem Walk.nameTooLong {names₀ ns : List String} {x y : String}
    (h : Walk root false n loc names₀ slash r) (hnames : names₀ = ns ++ [x]) (hhere : x ≠ ".")
    (hup : x ≠ "..") (hy : y ≠ ".") (hy' : y ≠ "..") (hlong : maxName < y.utf8ByteSize)
    (followLast slash' : Bool) :
    walk root followLast n loc (ns ++ [y]) slash' = .error .nameTooLong := by
  induction h generalizing ns slash' with
  | done => simp at hnames
  | here _ ih =>
    cases ns with
    | nil => exact absurd (List.cons.inj hnames).1.symm hhere
    | cons m ns =>
      obtain ⟨rfl, hrest⟩ := List.cons.inj hnames
      have := ih hrest slash'
      rw [walk_eq_walkNames] at this ⊢
      simpa [walkNames] using this
  | up _ ih =>
    cases ns with
    | nil => exact absurd (List.cons.inj hnames).1.symm hup
    | cons m ns =>
      obtain ⟨rfl, hrest⟩ := List.cons.inj hnames
      have := ih hrest slash'
      rw [walk_eq_walkNames] at this ⊢
      simpa [walkNames] using this
  | stop _ _ =>
    cases ns with
    | nil =>
      rw [walk_eq_walkNames]
      simp [walkNames, hy, hy', hlong]
    | cons m ns => simp at hnames
  | enter hname hdir hne _ ih =>
    cases ns with
    | nil => exact absurd (List.cons.inj hnames).2 hne
    | cons m ns =>
      obtain ⟨rfl, hrest⟩ := List.cons.inj hnames
      have := ih hrest slash'
      rw [walk_eq_walkNames] at this ⊢
      rw [List.cons_append, walkNames_cons root _ _ _ _ _ hname, hdir]
      simpa using this
  | @follow n loc name rest slash r target hname hlink htarget hgo _ ih =>
    cases ns with
    | nil => simp [(List.cons.inj hnames).2] at hgo
    | cons m ns =>
      obtain ⟨rfl, hrest⟩ := List.cons.inj hnames
      have hall : names target ++ rest = (names target ++ ns) ++ [x] := by
        rw [hrest, List.append_eq, List.append_assoc]
      have := ih hall slash'
      have hne : (ns ++ [y]).isEmpty = false := by simp
      rw [walk_eq_walkNames, List.cons_append, walkNames_cons root _ _ _ _ _ hname, hlink]
      simpa [htarget, onward, hne] using this

/-- A walk that ends at something ends there as long as all that it met is there. -/
theorem Walk.stays {root' : Entries} {ns : List String}
    (hle : ∀ l k, root.kind? l = some k → root'.kind? l = some k)
    (h : Walk root followLast n loc ns slash r) (hthere : root.kind? r.spot.location ≠ none) :
    Walk root' followLast n loc ns slash r := by
  induction h with
  | done => exact .done
  | here _ ih => exact .here (ih hthere)
  | up _ ih => exact .up (ih hthere)
  | @stop n loc name _ hname hlast =>
    obtain ⟨k, hk⟩ : ∃ k, root.kind? (loc ++ [name]) = some k := Option.ne_none_iff_exists'.1 hthere
    refine .stop hname fun hf t ht => hlast hf t ?_
    rwa [hk, ← hle _ _ hk]
  | enter hname hdir hne _ ih => exact .enter hname (hle _ _ hdir) hne (ih hthere)
  | follow hname hlink htarget hgo _ ih =>
    exact .follow hname (hle _ _ hlink) htarget hgo (ih hthere)

/-! ## What is present -/

variable {fs fs' : FileSystem} {p : Path} {name : String}

theorem isPresent_iff : fs.isPresent p = true ↔ ∃ entry, fs.status p = .ok entry := by
  rw [isPresent]
  cases fs.status p <;> simp

theorem isPresent_of_isDirectory (h : fs.isDirectory p = true) : fs.isPresent p = true := by
  rw [isDirectory] at h
  rw [isPresent]
  cases hs : fs.status p with
  | ok entry => rfl
  | error e => simp [hs] at h

/-- A path that leads to something leads there as long as nothing is taken away. -/
theorem route_stays (h : Within fs fs') (hr : fs.route followLast p = .ok r)
    (hthere : fs.root.kind? r.spot.location ≠ none) : fs'.route followLast p = .ok r := by
  obtain ⟨hnot, hw⟩ := route_eq_ok_iff.1 hr
  have hstart : fs'.start p = fs.start p := by rw [start, start, h.cwd]
  exact route_eq_ok_iff.2 ⟨hnot, hstart ▸ hw.stays h.kinds hthere⟩

/-- What is present is so as long as nothing is taken away. -/
theorem isPresent_within (h : Within fs fs') (hp : fs.isPresent p = true) :
    fs'.isPresent p = true := by
  obtain ⟨⟨l, node⟩, hs⟩ := isPresent_iff.1 hp
  obtain ⟨r, hr, rfl, hget, hslash⟩ := status_eq_ok_iff.1 hs
  have hkind : fs.root.kind? r.spot.location = some node.entry.kind := by
    rw [Entries.kind?, Entries.item?_of_get? hget, Option.map_some]
  have hr' := route_stays h hr (by simp [hkind])
  -- what is there now is of the same kind, so a slash behind it asks for no more than it did
  obtain ⟨e', he', hsame⟩ := Option.map_eq_some_iff.1 (h.kinds _ _ hkind)
  obtain ⟨node', hget', rfl⟩ := Option.map_eq_some_iff.1 he'
  refine isPresent_iff.2 ⟨_, status_eq_ok_iff.2 ⟨r, hr', rfl, hget', fun hs => ?_⟩⟩
  have hdir := hslash hs
  cases node <;> cases node' <;> simp_all [Node.entry, Node.isDirectory, Entry.kind]

/-! ## Paths that lead to a directory -/

/-- The path leads to the directory at a location, and any name behind it is looked up there. -/
structure LeadsTo (fs : FileSystem) (p : Path) (loc : Location) : Prop where
  directory : fs.root.item? loc = some .directory
  walk : ∀ y, IsName y →
    Walk fs.root false maxLinks (fs.start p) (names p.text ++ [y]) false ⟨.named loc y, false⟩

/-- Some name that can be looked up in a directory. -/
theorem isName_a : IsName "a" := ⟨by decide, by decide, by decide⟩

section LeadsTo

theorem start_join (hname : IsProper name) : fs.start (p / name) = fs.start p := by
  rw [start, start, startsAtRoot_join hname.segment.head_ne]

/-- A path to a directory leads to it. -/
theorem LeadsTo.of_directory (hr : fs.route followLast p = .ok r)
    (hdir : fs.root.kind? r.spot.location = some .directory) : LeadsTo fs p r.spot.location :=
  ⟨Entries.kind?_eq_directory.1 hdir, fun _ hy => (route_eq_ok_iff.1 hr).2.behind hdir hy⟩

/-- A path that leads to a directory ends there, unless it is refused. -/
theorem LeadsTo.route_true (h : LeadsTo fs p loc) (hp : refused? p = none) :
    ∃ r, fs.route true p = .ok r ∧ r.spot.location = loc := by
  obtain ⟨r, hw, hloc⟩ :=
    (h.walk "a" isName_a).before rfl (by decide) (by decide) (endsInSlash p.text)
  exact ⟨r, route_eq_ok_iff.2 ⟨hp, hw⟩, hloc⟩

theorem LeadsTo.isDirectory (h : LeadsTo fs p loc) (hp : refused? p = none) :
    fs.isDirectory p = true := by
  obtain ⟨r, hr, rfl⟩ := h.route_true hp
  exact isDirectory_iff.2 ⟨r, hr, Entries.kind?_eq_directory.2 h.directory⟩

theorem LeadsTo.directory?_eq (h : LeadsTo fs p loc) (hp : refused? p = none) :
    fs.directory? p = some loc := by
  obtain ⟨r, hr, rfl⟩ := h.route_true hp
  exact directory?_eq_some.2 ⟨r, hr, rfl, h.directory⟩

theorem LeadsTo.of_directory? (h : fs.directory? p = some loc) : LeadsTo fs p loc := by
  obtain ⟨r, hr, rfl, hdir⟩ := directory?_eq_some.1 h
  exact .of_directory hr (Entries.kind?_eq_directory.2 hdir)

/-- A path to a directory that is yet to come is not present. -/
theorem LeadsTo.not_isPresent (h : LeadsTo fs' p loc) (hfs : Within fs fs')
    (hfree : fs.root.item? loc = none) : fs.isPresent p = false := by
  rw [Bool.eq_false_iff]
  intro hp
  obtain ⟨⟨l, node⟩, hs⟩ := isPresent_iff.1 hp
  obtain ⟨r, hr, rfl, hget, -⟩ := status_eq_ok_iff.1 hs
  have hitem := Entries.item?_of_get? hget
  obtain ⟨r', hr', rfl⟩ := h.route_true (route_eq_ok_iff.1 hr).1
  obtain rfl := Except.ok.inj
    (hr'.symm.trans (route_stays hfs hr (by simp [Entries.kind?, hitem])))
  cases hfree.symm.trans hitem

theorem LeadsTo.canonical_eq (h : LeadsTo fs p loc) (hp : refused? p = none) :
    fs.canonical p = .ok (pathOf loc) := by
  obtain ⟨r, hr, rfl⟩ := h.route_true hp
  obtain ⟨inside, hget⟩ := Entries.get?_of_item?_directory h.directory
  simp [canonical, status_eq_ok_iff.2 ⟨r, hr, rfl, hget, fun _ => rfl⟩, bind, Except.bind, pure,
    Except.pure]

/-- The path of a directory, made of its names, leads to it. -/
theorem LeadsTo.of_names (hroot : startsAtRoot p.text = true)
    (hnames : ∀ m ∈ names p.text, IsName m)
    (hdir : fs.root.item? (names p.text) = some .directory) : LeadsTo fs p (names p.text) := by
  refine ⟨hdir, fun y hy => ?_⟩
  rw [start, hroot]
  exact (Walk.from_root_iff hnames (Entries.kind?_eq_directory.2 hdir) (by simp)).2
    ((Walk.last_iff hy).2 rfl)

theorem Admits.of_route (hname : IsProper name) (hr : fs.route followLast (p / name) = .ok r) :
    Admits p name := by
  obtain ⟨hp, hw⟩ := route_eq_ok_iff.1 hr
  rw [hname.segment.names_join] at hw
  exact ⟨(hw.isName_of_mem (by simp) hname.ne_here hname.ne_up).fits, hp⟩

/-- A path with the steps of a walk to a directory leads there. -/
theorem LeadsTo.of_walk {q : Path} {ns : List String} (hdir : fs.root.item? loc = some .directory)
    (hw : ∀ y, IsName y →
      Walk fs.root false maxLinks (fs.start q) (ns ++ [y]) false ⟨.named loc y, false⟩)
    (hsteps : steps (names p.text) = steps ns)
    (hstart : startsAtRoot p.text = startsAtRoot q.text) : LeadsTo fs p loc := by
  refine ⟨hdir, fun y hy => ?_⟩
  obtain ⟨d, hd, -, hother⟩ := (hw y hy).sibling rfl hy.ne_here hy.ne_up
  obtain rfl : loc = d := by simpa using hd
  rw [start, hstart]
  exact hother _ y _ hsteps hy

/-- The last name of a path is looked up in the directory that the steps in front of it lead to. -/
theorem LeadsTo.of_last {q : Path} {ns : List String} {dir : Location} {x n : String} {asked : Bool}
    (hr : fs.route false q = .ok ⟨.named dir n, asked⟩)
    (hdir : fs.root.item? dir = some .directory) (hq : names q.text = ns ++ [x]) (hhere : x ≠ ".")
    (hup : x ≠ "..") (hsteps : steps (names p.text) = steps ns)
    (hstart : startsAtRoot p.text = startsAtRoot q.text) : n = x ∧ LeadsTo fs p dir := by
  obtain ⟨-, hw⟩ := route_eq_ok_iff.1 hr
  obtain ⟨d, hd, -, hother⟩ := hw.sibling hq hhere hup
  obtain ⟨rfl, rfl⟩ : dir = d ∧ n = x := by simpa using congrArg Route.spot hd
  exact ⟨rfl, .of_walk hdir (fun y hy => hother ns y false rfl hy) hsteps hstart⟩

/-- A name is looked up in the directory that the path in front of it leads to. -/
theorem LeadsTo.of_named {dir : Location} {n : String} {asked : Bool} (hname : IsProper name)
    (hr : fs.route false (p / name) = .ok ⟨.named dir n, asked⟩)
    (hdir : fs.root.item? dir = some .directory) : LeadsTo fs p dir :=
  (LeadsTo.of_last hr hdir hname.segment.names_join hname.ne_here hname.ne_up rfl
    (startsAtRoot_join hname.segment.head_ne).symm).2

/-- What is found under a name stands in the directory that the path in front of it leads to. -/
theorem LeadsTo.of_route (hname : IsProper name) (hr : fs.route followLast (p / name) = .ok r)
    (hthere : fs.root.kind? r.spot.location ≠ none) :
    ∃ loc, LeadsTo fs p loc ∧ fs.root.kind? (loc ++ [name]) ≠ none ∧ Admits p name := by
  obtain ⟨hp, hw⟩ := route_eq_ok_iff.1 hr
  rw [hname.segment.names_join, start_join hname] at hw
  obtain ⟨d, hd, hkind⟩ := hw.front rfl hname.ne_here hname.ne_up
  obtain ⟨e, he⟩ := Option.ne_none_iff_exists'.1
    (show fs.root.item? (d ++ [name]) ≠ none by simpa [Entries.kind?] using hkind hthere)
  have hroute : fs.route false (p / name) = .ok ⟨.named d name, false⟩ := route_eq_ok_iff.2
    ⟨hp, by rwa [hname.segment.names_join, start_join hname, hname.segment.endsInSlash_join]⟩
  exact ⟨d, .of_named hname hroute (item?_directory_above he), hkind hthere, .of_route hname hr⟩

theorem LeadsTo.route_eq (h : LeadsTo fs p loc) (hname : IsProper name) (hfits : Admits p name) :
    fs.route false (p / name) = .ok ⟨.named loc name, false⟩ := by
  refine route_eq_ok_iff.2 ⟨hfits.not_refused, ?_⟩
  rw [hname.segment.names_join, start_join hname, hname.segment.endsInSlash_join]
  exact h.walk name (hfits.isName hname)

theorem LeadsTo.within (h : LeadsTo fs p loc) (hfs : Within fs fs') : LeadsTo fs' p loc := by
  refine ⟨Entries.kind?_eq_directory.1 (hfs.kinds _ _ (Entries.kind?_eq_directory.2 h.directory)),
    fun y hy => ?_⟩
  rw [start, hfs.cwd]
  exact (h.walk y hy).within hfs.kinds id (by simp)

/-- A directory behind the path is what the path with its name leads to. -/
theorem LeadsTo.below (h : LeadsTo fs p loc) (hname : IsProper name) (hfits : IsName name)
    (hdir : fs.root.item? (loc ++ [name]) = some .directory) :
    LeadsTo fs (p / name) (loc ++ [name]) := by
  refine ⟨hdir, fun y hy => ?_⟩
  rw [hname.segment.names_join, start_join hname]
  exact (h.walk name hfits).behind (Entries.kind?_eq_directory.2 hdir) hy

theorem LeadsTo.route_nameTooLong (h : LeadsTo fs p loc) (hname : IsProper name)
    (hlong : maxName < name.utf8ByteSize) (hp : refused? (p / name) = none) :
    fs.route followLast (p / name) = .error .nameTooLong := by
  have hw := h.walk "a" isName_a
  have hstart : (if startsAtRoot (p / name).text then [] else fs.cwd) = fs.start p :=
    start_join hname
  simp only [route, hp]
  rw [hname.segment.names_join, hstart]
  exact hw.nameTooLong rfl (by decide) (by decide) hname.ne_here hname.ne_up hlong _ _

theorem LeadsTo.unique {loc' : Location} (h : LeadsTo fs p loc) (h' : LeadsTo fs p loc') :
    loc = loc' := by
  have heq := (h.walk "a" isName_a).walk_eq.symm.trans (h'.walk "a" isName_a).walk_eq
  simpa using heq

/-- What is present behind the path stands in the directory that the path leads to. -/
theorem LeadsTo.there_of_isPresent (h : LeadsTo fs p loc) (hname : IsProper name)
    (hp : fs.isPresent (p / name) = true) :
    Admits p name ∧ fs.root.item? (loc ++ [name]) ≠ none := by
  obtain ⟨⟨l, node⟩, hs⟩ := isPresent_iff.1 hp
  obtain ⟨r, hr, rfl, hget, -⟩ := status_eq_ok_iff.1 hs
  obtain ⟨loc', h', hkind, hfits⟩ :=
    LeadsTo.of_route hname hr (by simp [Entries.kind?, Entries.item?_of_get? hget])
  rw [h.unique h']
  exact ⟨hfits, by simpa [Entries.kind?] using hkind⟩

/-- What stands under a name in the directory is found by the path and the name. -/
theorem LeadsTo.linkStatus_of_there (h : LeadsTo fs p loc) (hname : IsProper name)
    (hfits : Admits p name) {e : Entry} (he : fs.root.item? (loc ++ [name]) = some e) :
    ∃ node, fs.linkStatus (p / name) = .ok (loc ++ [name], node) ∧ node.entry = e := by
  obtain ⟨node, hget, hentry⟩ := Option.map_eq_some_iff.1 he
  refine ⟨node, linkStatus_eq_ok_iff.2 ⟨⟨.named loc name, false⟩, ?_, rfl, hget, by simp⟩, hentry⟩
  rw [hname.segment.endsInSlash_join, h.route_eq hname hfits]

/-- If there is no link under the name, the path with the name leads there. -/
theorem LeadsTo.route_eq_of_noLink (h : LeadsTo fs p loc) (hname : IsProper name)
    (hnot : ∀ t, fs.root.item? (loc ++ [name]) ≠ some (.link t))
    (hr : fs.route followLast (p / name) = .ok r) : r = ⟨.named loc name, false⟩ := by
  have hroute := h.route_eq hname (.of_route hname hr)
  cases followLast with
  | false => exact Except.ok.inj (hr.symm.trans hroute)
  | true =>
    exact Except.ok.inj (hr.symm.trans (route_true_of_false hroute fun t hk =>
      hnot t (Entries.kind?_eq_link.1 hk)))

/-- In front of the name of a directory is the path to another; without a link under the name, the
first stands in the second. -/
theorem LeadsTo.of_directory?_join {dir : Location} (hname : IsProper name)
    (h : fs.directory? (p / name) = some dir) :
    ∃ loc, LeadsTo fs p loc ∧ Admits p name ∧
      ((∀ t, fs.root.item? (loc ++ [name]) ≠ some (.link t)) → dir = loc ++ [name]) := by
  obtain ⟨route, hroute, rfl, hitem⟩ := directory?_eq_some.1 h
  have hthere : fs.root.kind? route.spot.location ≠ none := by
    simp [Entries.kind?_eq_directory.2 hitem]
  obtain ⟨loc, hlead, -, hfits⟩ := LeadsTo.of_route hname hroute hthere
  refine ⟨loc, hlead, hfits, fun hnot => ?_⟩
  rw [hlead.route_eq_of_noLink hname hnot hroute, Spot.location]

/-- The link at the path with a name stands where the path leads to. -/
theorem LeadsTo.readLink_eq_ok_iff (h : LeadsTo fs p loc) (hname : IsProper name) {t : String} :
    fs.readLink (p / name) = .ok t ↔
      Admits p name ∧ fs.root.item? (loc ++ [name]) = some (.link t) := by
  rw [FileSystem.readLink_eq_ok_iff]
  constructor
  · rintro ⟨r, hr, -, hitem⟩
    have hfits := Admits.of_route hname hr
    obtain rfl := Except.ok.inj (hr.symm.trans (h.route_eq hname hfits))
    exact ⟨hfits, hitem⟩
  · rintro ⟨hfits, hitem⟩
    exact ⟨_, h.route_eq hname hfits, rfl, hitem⟩

/-- If the path with a name leads to a directory and there is no link under the name, the directory
stands there. -/
theorem LeadsTo.directory_of_isDirectory (h : LeadsTo fs p loc) (hname : IsProper name)
    (hnot : Admits p name → ∀ t, fs.root.item? (loc ++ [name]) ≠ some (.link t))
    (hd : fs.isDirectory (p / name) = true) :
    Admits p name ∧ fs.root.item? (loc ++ [name]) = some .directory ∧
      fs.route true (p / name) = .ok ⟨.named loc name, false⟩ := by
  obtain ⟨r, hr, hkind⟩ := isDirectory_iff.1 hd
  have hfits := Admits.of_route hname hr
  obtain rfl := h.route_eq_of_noLink hname (hnot hfits) hr
  exact ⟨hfits, Entries.kind?_eq_directory.1 hkind, hr⟩

end LeadsTo

end Fleet.FileSystem

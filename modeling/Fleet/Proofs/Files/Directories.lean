import Fleet.Proofs.Files.Beside
import Fleet.Proofs.Files.Front

namespace Fleet

/-! # Making a directory with its parents

* `isDirectory_of_makeDirectories`: what was made is a directory;
* `LeadsTo.makeDirectories`: where the parents are there, nothing changes but its own place;
* `newAt_of_makeDirectories`: where the parent was not there, it is new.
-/

namespace FileSystem

variable {fs fs' made : FileSystem} {p q : Path} {name : String} {loc : Location}

/-! ## One directory -/

/-- Whatever a walk finds, the walk that follows no last link finds something there as well. -/
theorem Walk.unfollowed {root : Entries} {followLast : Bool} {n : Nat} {ns : List String}
    {slash : Bool} {r : Route} (h : Walk root followLast n loc ns slash r)
    (hthere : root.kind? r.spot.location ≠ none) :
    ∃ r', Walk root false n loc ns slash r' ∧
      ((∃ l, r'.spot = .inside l) ∨ root.kind? r'.spot.location ≠ none) := by
  induction h with
  | done => exact ⟨_, .done, .inl ⟨_, rfl⟩⟩
  | here _ ih =>
    obtain ⟨r', hw, hr'⟩ := ih hthere
    exact ⟨r', .here hw, hr'⟩
  | up _ ih =>
    obtain ⟨r', hw, hr'⟩ := ih hthere
    exact ⟨r', .up hw, hr'⟩
  | stop hname _ => exact ⟨_, .stop hname (by simp), .inr hthere⟩
  | enter hname hdir hne _ ih =>
    obtain ⟨r', hw, hr'⟩ := ih hthere
    exact ⟨r', .enter hname hdir hne hw, hr'⟩
  | @follow n loc name rest slash r target hname hlink htarget _ _ ih =>
    by_cases hrest : rest = []
    · subst hrest
      exact ⟨_, .stop hname (by simp), .inr (by simp [Spot.location, hlink])⟩
    · obtain ⟨r', hw, hr'⟩ := ih hthere
      exact ⟨r', .follow hname hlink htarget (.inl hrest) hw, hr'⟩

/-- A directory that is there is not made again. -/
theorem makeDirectory_of_isDirectory (h : fs.isDirectory p = true) :
    fs.makeDirectory p = .error .alreadyExists := by
  obtain ⟨r, hr, hdir⟩ := isDirectory_iff.1 h
  obtain ⟨hp, hw⟩ := route_eq_ok_iff.1 hr
  obtain ⟨⟨spot, slash⟩, hw', hr'⟩ := hw.unfollowed (by simp [hdir])
  simp only [makeDirectory, route_eq_ok_iff.2 ⟨hp, hw'⟩, bind, Except.bind]
  cases spot with
  | inside l => rfl
  | named dir name =>
    have hthere : fs.root.get? (dir ++ [name]) ≠ none := by
      simpa [Spot.location, Entries.kind?, Entries.item?] using hr'
    obtain ⟨node, hnode⟩ := Option.ne_none_iff_exists'.1 hthere
    simp [hnode]

/-- The path ends at the location when every link is followed. -/
def Reaches (fs : FileSystem) (p : Path) (loc : Location) : Prop :=
  ∃ r, fs.route true p = .ok r ∧ r.spot.location = loc

theorem Reaches.within (h : Reaches fs p loc) (hfs : Within fs fs')
    (hnot : ∀ t, fs'.root.item? loc ≠ some (.link t)) : Reaches fs' p loc := by
  obtain ⟨r, hr, rfl⟩ := h
  exact ⟨r, route_within hfs hr fun _ t ht => hnot t (Entries.kind?_eq_link.1 ht), rfl⟩

/-- A directory is made where there was nothing, and all else is as it was. -/
theorem makeDirectory_items (h : fs.makeDirectory p = .ok made) :
    ∃ loc, Reaches made p loc ∧ fs.root.item? loc = none ∧
      ∀ l, made.root.item? l = if l = loc then some .directory else fs.root.item? l := by
  obtain ⟨dir, name, slash, hr, hd, hnone, rfl⟩ := makeDirectory_eq_ok h
  have hfree : fs.root.item? (dir ++ [name]) ≠ some .directory := by simp [hnone]
  have hitems := item?_place (.directory []) rfl hd hfree
  have hkind : (fs.place (dir ++ [name]) (.directory [])).root.kind? (dir ++ [name]) =
      some .directory := by
    rw [Entries.kind?_eq_directory, hitems, if_pos rfl]
    rfl
  have hroute := route_within (makeDirectory_adds h).extends.within hr (by simp)
  exact ⟨_, ⟨_, route_true_of_false hroute (by simp [Spot.location, hkind]), rfl⟩, hnone, hitems⟩

theorem isDirectory_of_makeDirectory (h : fs.makeDirectory p = .ok made) :
    ∃ r, made.route true p = .ok r ∧ made.root.kind? r.spot.location = some .directory ∧
      fs.root.item? r.spot.location = none := by
  obtain ⟨_, ⟨r, hr, rfl⟩, hnone, hitems⟩ := makeDirectory_items h
  exact ⟨r, hr, by simp [Entries.kind?, hitems], hnone⟩

/-- Only the empty path is refused as missing. -/
theorem refused?_ne_noEntry (hne : p.text ≠ "") : refused? p ≠ some .noEntry := by
  intro h
  simp only [refused?, String.isEmpty_iff, hne, if_false] at h
  split at h
  · exact absurd (Option.some.inj h) (by decide)
  · split at h
    · exact absurd (Option.some.inj h) (by decide)
    · cases h

/-- In a directory that is there, another one is made at once, or cannot be made. -/
theorem LeadsTo.makeDirectory_cases (h : LeadsTo fs p loc) (hname : IsProper name) :
    (∃ e, fs.makeDirectory (p / name) = .error e ∧ e ≠ .noEntry) ∨
      (fs.root.item? (loc ++ [name]) = none ∧
        fs.makeDirectory (p / name) = .ok (fs.place (loc ++ [name]) (.directory []))) := by
  by_cases hfits : Admits p name
  · simp only [makeDirectory, h.route_eq hname hfits, bind, Except.bind]
    cases hget : fs.root.get? (loc ++ [name]) with
    | some node => exact .inl ⟨_, rfl, by decide⟩
    | none =>
      refine .inr ⟨Entries.get?_eq_none.1 hget, ?_⟩
      simp [addNew, hasDirectory_iff.2 h.directory]
  · -- a path is refused as missing only if it is empty, and that of a name is not
    refine .inl ?_
    have hne := refused?_ne_noEntry (hname.segment.join_ne_empty (p := p))
    cases hp : refused? (p / name) with
    | some e =>
      exact ⟨e, by simp [makeDirectory, route, hp, bind, Except.bind], fun he => hne (he ▸ hp)⟩
    | none =>
      have hlong : maxName < name.utf8ByteSize := by
        by_contra hfit
        exact hfits ⟨Nat.not_lt.1 hfit, hp⟩
      exact ⟨.nameTooLong,
        by simp [makeDirectory, h.route_nameTooLong hname hlong hp, bind, Except.bind], by decide⟩

/-! ## With the parents -/

theorem ancestorsUpTo_eq_cons (n : Nat) (p : Path) : ∃ above, p.ancestorsUpTo n = p :: above := by
  cases n with
  | zero => exact ⟨[], rfl⟩
  | succ n => exact ⟨_, rfl⟩

theorem ancestors_eq_cons (p : Path) : ∃ above, p.ancestors = p :: above :=
  ancestorsUpTo_eq_cons _ p

/-- How a directory comes to be there: it is made at once, it is there, or it is made or there once
its parents are. -/
theorem makeMissing_eq_ok {above : List Path} (hne : p.text ≠ "")
    (h : fs.makeMissing (p :: above) = (made, .ok ())) :
    fs.makeDirectory p = .ok made ∨ (made = fs ∧ fs.isDirectory p = true) ∨
      (fs.makeDirectory p = .error .noEntry ∧ ∃ parents, fs.makeMissing above = (parents, .ok ()) ∧
        (parents.makeDirectory p = .ok made ∨ (made = parents ∧ made.isDirectory p = true))) := by
  rw [makeMissing, if_neg (by simpa using hne)] at h
  cases hp : fs.makeDirectory p with
  | ok done =>
    simp only [hp, Prod.mk.injEq, and_true] at h
    exact .inl (by rw [h])
  | error e =>
    simp only [hp] at h
    by_cases he : e = .noEntry
    · subst he
      rw [if_pos rfl] at h
      refine .inr (.inr ⟨rfl, ?_⟩)
      rcases habove : fs.makeMissing above with ⟨parents, e | ⟨⟨⟩⟩⟩
      · simp [habove] at h
      · refine ⟨parents, rfl, ?_⟩
        simp only [habove] at h
        cases hagain : parents.makeDirectory p with
        | ok done =>
          simp only [hagain, Prod.mk.injEq, and_true] at h
          exact .inl (by rw [h])
        | error e =>
          simp only [hagain, Prod.mk.injEq] at h
          obtain ⟨rfl, hdir⟩ := h
          exact .inr ⟨rfl, by simpa using hdir⟩
    · rw [if_neg he, Prod.mk.injEq] at h
      obtain ⟨rfl, hdir⟩ := h
      exact .inr (.inl ⟨rfl, by simpa using hdir⟩)

/-- What was made with its parents is a directory. -/
theorem isDirectory_of_makeMissing {above : List Path} (hne : p.text ≠ "")
    (h : fs.makeMissing (p :: above) = (made, .ok ())) : made.isDirectory p = true := by
  have hof : ∀ {a b : FileSystem}, a.makeDirectory p = .ok b → b.isDirectory p = true := by
    intro a b hb
    obtain ⟨r, hr, hk, -⟩ := isDirectory_of_makeDirectory hb
    exact isDirectory_iff.2 ⟨r, hr, hk⟩
  rcases makeMissing_eq_ok hne h with hmade | ⟨rfl, hdir⟩ | ⟨-, parents, -, hmade | ⟨rfl, hdir⟩⟩
  · exact hof hmade
  · exact hdir
  · exact hof hmade
  · exact hdir

theorem isDirectory_of_makeDirectories (hne : p.text ≠ "")
    (h : fs.makeDirectories p = (made, .ok ())) : made.isDirectory p = true := by
  obtain ⟨above, habove⟩ := ancestors_eq_cons p
  rw [makeDirectories, habove] at h
  exact isDirectory_of_makeMissing hne h

theorem makeMissing_eq_adds {ps : List Path} {result : Except IoError Unit}
    (h : fs.makeMissing ps = (made, result)) : AddsDirectories fs made := by
  have hadds : AddsDirectories fs (fs.makeMissing ps).1 := makeMissing_adds ps
  rwa [h] at hadds

theorem makeDirectories_eq_adds {result : Except IoError Unit}
    (h : fs.makeDirectories p = (made, result)) : AddsDirectories fs made :=
  makeMissing_eq_adds h

/-- A directory that is there is fine. -/
theorem makeMissing_of_isDirectory (h : fs.isDirectory p = true) (above : List Path) :
    fs.makeMissing (p :: above) = (fs, .ok ()) := by
  have hne : ¬ IoError.alreadyExists = .noEntry := by decide
  rw [makeMissing, makeDirectory_of_isDirectory h]
  simp [h, hne]

theorem makeDirectories_of_isDirectory (h : fs.isDirectory p = true) :
    fs.makeDirectories p = (fs, .ok ()) := by
  obtain ⟨above, habove⟩ := ancestors_eq_cons p
  rw [makeDirectories, habove, makeMissing_of_isDirectory h]

/-- In a directory that is there, either nothing is made, or there was nothing under the name and
now there is a directory. -/
theorem LeadsTo.makeDirectories_cases (h : LeadsTo fs p loc) (hname : IsProper name) :
    (fs.makeDirectories (p / name)).1 = fs ∨
      ((fs.makeDirectories (p / name)).2 = .ok () ∧ fs.root.item? (loc ++ [name]) = none ∧
        ∀ l, (fs.makeDirectories (p / name)).1.root.item? l =
          if l = loc ++ [name] then some .directory else fs.root.item? l) := by
  obtain ⟨above, habove⟩ := ancestors_eq_cons (p / name)
  rw [FileSystem.makeDirectories, habove, makeMissing]
  split
  · exact .inl rfl
  · rcases h.makeDirectory_cases hname with ⟨e, he, hne⟩ | ⟨hnone, hmade⟩
    · exact .inl (by simp [he, hne])
    · rw [hmade]
      exact .inr ⟨rfl, hnone, item?_place (.directory []) rfl h.directory (by simp [hnone])⟩

/-- In a directory that is there, nothing changes but the place of the one that is to be made. -/
theorem LeadsTo.makeDirectories (h : LeadsTo fs p loc) (hname : IsProper name) {l : Location}
    (hl : l ≠ loc ++ [name]) :
    (fs.makeDirectories (p / name)).1.root.item? l = fs.root.item? l := by
  rcases h.makeDirectories_cases hname with hsame | ⟨-, -, hitems⟩
  · rw [hsame]
  · rw [hitems, if_neg hl]

/-! ## What is new -/

/-- The path leads to a directory where there was nothing. -/
def NewAt (fs made : FileSystem) (p : Path) : Prop :=
  ∃ loc, LeadsTo made p loc ∧ fs.root.item? loc = none

theorem item?_none_of_extends (h : Extends fs fs') (hnone : fs'.root.item? loc = none) :
    fs.root.item? loc = none := by
  cases he : fs.root.item? loc with
  | none => rfl
  | some e =>
    rw [h.items _ _ he] at hnone
    cases hnone

theorem newAt_of_makeDirectory (hfs : Extends fs fs') (h : fs'.makeDirectory p = .ok made) :
    NewAt fs made p := by
  obtain ⟨r, hr, hkind, hnone⟩ := isDirectory_of_makeDirectory h
  exact ⟨_, .of_directory hr hkind, item?_none_of_extends hfs hnone⟩

/-- Below a directory that is new, everything is. -/
theorem newAt_of_parent {ns : List String} {x : String} (hfs : AddsDirectories fs made)
    (hp : names p.text = ns ++ [x]) (hhere : x ≠ ".") (hup : x ≠ "..")
    (hsteps : steps (names q.text) = steps ns) (hstart : startsAtRoot q.text = startsAtRoot p.text)
    (hq : NewAt fs made q) (hdir : made.isDirectory p = true) : NewAt fs made p := by
  obtain ⟨loc, hlead, hnone⟩ := hq
  obtain ⟨r, hr, hkind⟩ := isDirectory_iff.1 hdir
  obtain ⟨hrefused, hw⟩ := route_eq_ok_iff.1 hr
  have hx : IsName x := hw.isName_of_mem (by simp [hp]) hhere hup
  have hsame : made.start p = made.start q := by rw [start, start, hstart]
  -- the last name is looked up in the new directory
  obtain ⟨d, hd, -, hother⟩ := (hlead.walk x hx).sibling rfl hhere hup
  obtain rfl : loc = d := by simpa using hd
  have hroute : made.route false p = .ok ⟨.named loc x, endsInSlash p.text⟩ :=
    route_eq_ok_iff.2 ⟨hrefused, by rw [hp, hsame]; exact hother ns x _ hsteps.symm hx⟩
  have hfree : fs.root.item? (loc ++ [x]) = none :=
    Entries.item?_below_none (by simp [hnone]) (List.prefix_append _ _) (by simp)
  have hnot : ∀ t, made.root.kind? (loc ++ [x]) ≠ some (.link t) := by
    intro t ht
    rcases hfs.items (loc ++ [x]) with h | ⟨-, h⟩ <;> simp [Entries.kind?, h, hfree] at ht
  rw [route_true_of_false hroute hnot, Except.ok.injEq] at hr
  subst hr
  exact ⟨_, .of_directory (route_true_of_false hroute hnot) hkind, hfree⟩

/-- A path without a name is not missing. -/
theorem makeDirectory_of_dots (hdots : ∀ m ∈ names p.text, m = "." ∨ m = "..") (hne : p.text ≠ "") :
    fs.makeDirectory p ≠ .error .noEntry := by
  have hwalk : ∀ (loc : Location) (ns : List String), (∀ m ∈ ns, m = "." ∨ m = "..") →
      ∃ l, Walk fs.root false maxLinks loc ns (endsInSlash p.text)
        ⟨.inside l, endsInSlash p.text⟩ := by
    intro loc ns hns
    induction ns generalizing loc with
    | nil => exact ⟨loc, .done⟩
    | cons m ns ih =>
      have hrest : ∀ m ∈ ns, m = "." ∨ m = ".." := fun m hm => hns m (List.mem_cons_of_mem _ hm)
      rcases hns m (by simp) with rfl | rfl
      · exact (ih loc hrest).imp fun _ => .here
      · exact (ih loc.dropLast hrest).imp fun _ => .up
  have hrefused := refused?_ne_noEntry hne
  intro h
  cases hp : refused? p with
  | some e =>
    simp only [makeDirectory, route, hp, bind, Except.bind, Except.error.injEq] at h
    exact hrefused (h ▸ hp)
  | none =>
    obtain ⟨l, hl⟩ := hwalk (fs.start p) _ hdots
    rw [makeDirectory, route_eq_ok_iff.2 ⟨hp, hl⟩] at h
    exact absurd (Except.error.inj h) (by decide)

theorem here_of_steps_eq_nil {ns : List String} (h : steps ns = []) : ∀ m ∈ ns, m = "." := by
  simpa [steps] using h

/-- One path of those that are made: if the path in front of it is new, or nothing was made of it,
so it is with the path itself. -/
theorem newAt_of_parents {above : List Path} (hup : ".." ∉ names p.text) (hend : p.EndsWell)
    (habove : ∀ ns x parents, names p.text = ns ++ [x] → x ≠ "." →
      fs.makeMissing above = (parents, .ok ()) → parents = fs ∨
        ∃ q : Path, steps (names q.text) = steps ns ∧
          startsAtRoot q.text = startsAtRoot p.text ∧ NewAt fs parents q)
    (h : fs.makeMissing (p :: above) = (made, .ok ())) : made = fs ∨ NewAt fs made p := by
  by_cases hne : p.text = ""
  · rw [makeMissing, if_pos (by simp [hne]), Prod.mk.injEq] at h
    exact .inl h.1.symm
  rcases makeMissing_eq_ok hne h with
    hmade | ⟨rfl, -⟩ | ⟨hfirst, parents, hparents, hlast⟩
  · exact .inr (newAt_of_makeDirectory (.refl fs) hmade)
  · exact .inl rfl
  have hadds := makeMissing_eq_adds hparents
  rcases hlast with hmade | ⟨rfl, hdir⟩
  · exact .inr (newAt_of_makeDirectory hadds.extends hmade)
  · -- the path was no directory before its parents were made, so they are not what they were
    rcases hend with hend | ⟨ns, x, hp, hhere⟩
    · exact absurd hfirst
        (makeDirectory_of_dots (fun m hm => .inl (here_of_steps_eq_nil hend m hm)) hne)
    · rcases habove ns x made hp hhere hparents with rfl | ⟨q, hsteps, hstart, hq⟩
      · rw [makeDirectory_of_isDirectory hdir] at hfirst
        exact absurd (Except.error.inj hfirst) (by decide)
      · have hx : x ≠ ".." := by
          rintro rfl
          exact hup (by simp [hp])
        exact .inr (newAt_of_parent hadds hp hhere hx hsteps hstart hq hdir)

/-- The parent of a path without `..` has none. -/
theorem notMem_names_of_steps {ns : List String} (hns : ".." ∉ ns)
    (hsteps : steps (names q.text) = steps ns) : ".." ∉ names q.text := by
  intro h
  have hmem : ".." ∈ steps (names q.text) := List.mem_filter.2 ⟨h, by decide⟩
  rw [hsteps] at hmem
  exact hns (List.mem_filter.1 hmem).1

/-- A directory that is made with its parents is new, unless nothing was made. -/
theorem newAt_of_makeMissing (n : Nat) (hup : ".." ∉ names p.text) (hend : p.EndsWell)
    (h : fs.makeMissing (p.ancestorsUpTo n) = (made, .ok ())) : made = fs ∨ NewAt fs made p := by
  -- induction on how far up parents are made
  induction n generalizing p made with
  | zero =>
    refine newAt_of_parents hup hend (fun _ _ _ _ _ hparents => .inl ?_) h
    rw [makeMissing, Prod.mk.injEq] at hparents
    exact hparents.1.symm
  | succ n ih =>
    refine newAt_of_parents hup hend (fun ns x parents hp hhere hparents => ?_) h
    obtain ⟨-, q, hparent, hsteps, hstart, hend'⟩ := Path.parent?_spec hp hhere
    rw [hparent] at hparents
    have hup' : ".." ∉ names q.text := notMem_names_of_steps
      (fun hmem => hup (hp ▸ List.mem_append_left _ hmem)) hsteps
    exact (ih hup' hend' hparents).imp_right fun hnew => ⟨q, hsteps, hstart, hnew⟩

/-- Where a path leads depends on its steps. -/
theorem LeadsTo.of_steps (h : LeadsTo fs q loc)
    (hsteps : steps (names q.text) = steps (names p.text))
    (hstart : startsAtRoot q.text = startsAtRoot p.text) : LeadsTo fs p loc :=
  .of_walk h.directory h.walk hsteps.symm hstart.symm

/-- If a directory is made below a path at which there was nothing, then the directory that the path
leads to is new; unless the path goes up, or is empty. -/
theorem newAt_of_makeDirectories (hname : IsProper name) (hup : ".." ∉ names p.text)
    (hne : p.text ≠ "") (habsent : fs.isPresent p = false)
    (h : fs.makeDirectories (p / name) = (made, .ok ())) : NewAt fs made p := by
  -- the path leads nowhere yet, for it is not there
  have hnowhere : ∀ loc, LeadsTo fs p loc → refused? (p / name) ≠ none := by
    intro loc hlead hrefused
    have hdir := hlead.isDirectory (hname.segment.not_refused hne hrefused)
    rw [isPresent_of_isDirectory hdir] at habsent
    cases habsent
  have hnot : fs.isDirectory (p / name) ≠ true := by
    intro hdir
    obtain ⟨r, hr, hkind⟩ := isDirectory_iff.1 hdir
    obtain ⟨loc, hlead, -, hfits⟩ := LeadsTo.of_route hname hr (by simp [hkind])
    exact hnowhere loc hlead hfits.not_refused
  have hjoin : (p / name).text ≠ "" := hname.segment.join_ne_empty
  obtain ⟨k, hk⟩ := Nat.exists_eq_succ_of_ne_zero
    (show (p / name).text.length ≠ 0 by simpa using hjoin)
  obtain ⟨-, q, hparent, hsteps, hstart, hend⟩ :=
    Path.parent?_spec (hname.segment.names_join (p := p)) hname.ne_here
  rw [startsAtRoot_join hname.segment.head_ne] at hstart
  rw [makeDirectories, Path.ancestors, hk, Path.ancestorsUpTo, hparent] at h
  rcases makeMissing_eq_ok hjoin h with
    hmade | ⟨rfl, hdir⟩ | ⟨hfirst, parents, hparents, hlast⟩
  · obtain ⟨dir, n, slash, hr, hdir, -⟩ := makeDirectory_eq_ok hmade
    exact absurd (route_eq_ok_iff.1 hr).1 (hnowhere dir (.of_named hname hr hdir))
  · exact absurd hdir hnot
  rcases newAt_of_makeMissing k (notMem_names_of_steps hup hsteps) hend hparents with
    rfl | ⟨loc, hlead, hnone⟩
  · -- nothing was made, so nothing is different the second time
    rcases hlast with hmade | ⟨rfl, hdir⟩
    · rw [hmade] at hfirst
      cases hfirst
    · exact absurd hdir hnot
  · have hlead' : LeadsTo parents p loc := hlead.of_steps hsteps hstart
    rcases hlast with hmade | ⟨rfl, -⟩
    · exact ⟨loc, hlead'.within (makeDirectory_adds hmade).extends.within, hnone⟩
    · exact ⟨loc, hlead', hnone⟩

end FileSystem

end Fleet

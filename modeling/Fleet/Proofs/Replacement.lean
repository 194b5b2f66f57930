import Fleet.Proofs.LatestPointer
import Mathlib.Data.Prod.Basic

namespace Fleet

/-! # Replacing the pointer

Moving a pointer may be cut off between any two of its steps.  What is left then is one of four
states (`LatestPointer.mem_states_updating`): the files as they were, without what was left at the
staging path, with the new link there, or as they are at the end.  In each of them the place that
the path of the pointer led to holds what it held or a link to the new result set, and nothing else
has changed but at the staging path (`LatestPointer.update_atomic`).

A place is where a path leads when the update begins.  A path that goes through the pointer itself,
or through what is left at the staging path, may lead elsewhere afterwards, and then nothing is said
of what is found there; one that goes through directories only leads where it led
(`IsMidway.place?_eq`).
-/

open FileSystem (IsName Extends Unchanged names refused?)

namespace FileSystem

/-- The place that a path leads to; a link there is not followed. -/
def place? (fs : FileSystem) (p : Path) : Option Location :=
  match fs.route false p with
  | .ok r => some r.spot.location
  | .error _ => none

/-- What stands at the place that a path leads to. -/
def itemAt? (fs : FileSystem) (p : Path) : Option Entry := (fs.place? p).bind fs.root.item?

variable {fs fs' : FileSystem} {p : Path} {loc : Location}

theorem place?_eq_some : fs.place? p = some loc ↔
    ∃ r, fs.route false p = .ok r ∧ r.spot.location = loc := by
  unfold place?
  cases fs.route false p <;> simp

theorem place?_of_named {dir : Location} {name : String} {slash : Bool}
    (h : fs.route false p = .ok ⟨.named dir name, slash⟩) : fs.place? p = some (dir ++ [name]) :=
  place?_eq_some.2 ⟨_, h, rfl⟩

theorem place?_through {ms : List String} {x : String} (hnames : names p.text = ms ++ [x])
    (hms : ∀ m ∈ ms ++ [x], IsName m) (hdir : fs.root.item? (fs.start p ++ ms) = some .directory)
    (h : fs.place? p = some loc) : loc = fs.start p ++ ms ++ [x] := by
  obtain ⟨r, hr, rfl⟩ := place?_eq_some.1 h
  rw [spot_through hnames hms hdir hr, Spot.location]

end FileSystem

namespace Procedure

variable {α : Type}

/-- The files at the end are the last of the states. -/
theorem run_mem_states (p : Procedure α) (fs : FileSystem) : (p.run fs).1 ∈ p.states fs := by
  induction p generalizing fs with
  | finished a => simp [run, states]
  | step s next ih =>
    rw [run, states]
    exact List.mem_cons_of_mem _ (ih _ _)

end Procedure

namespace LatestPointer

variable {fs fs' mid : FileSystem} {pid : Nat} {s : ResultSet} {pointer : Path} {loc : Location}

/-! ## The states on the way -/

theorem mem_states_linking {path : Path}
    (h : mid ∈ (updating.linking s pointer path).states fs) :
    mid = fs ∨ fs.makeLink s.root.text path = .ok mid ∨
      mid = ((updating.linking s pointer path).run fs).1 := by
  simp only [updating.linking, Procedure.states, Procedure.run, FileStep.perform] at h ⊢
  cases hlink : fs.makeLink s.root.text path with
  | error e =>
    simp only [hlink, FileStep.perform.settle, Procedure.states, List.mem_cons,
      List.not_mem_nil, or_false, or_self] at h
    exact .inl h
  | ok linked =>
    simp only [hlink, FileStep.perform.settle, Procedure.states, FileStep.perform,
      List.mem_cons] at h
    rcases h with rfl | rfl | h
    · exact .inl rfl
    · exact .inr (.inl rfl)
    · -- behind the renaming there is at most one more step, which takes the link away
      cases hmove : linked.rename path pointer with
      | ok moved =>
        simp only [hmove, Procedure.states, List.mem_singleton] at h
        simp [FileStep.perform.settle, Procedure.run, FileStep.perform, hmove, h]
      | error e =>
        simp only [hmove, Procedure.states, FileStep.perform, List.mem_cons, List.not_mem_nil,
          or_false] at h
        rcases h with rfl | h
        · exact .inr (.inl rfl)
        · simp [FileStep.perform.settle, Procedure.run, FileStep.perform, hmove, h]

/-- Wherever the update is cut off, it leaves one of four states. -/
theorem mem_states_updating (h : mid ∈ (updating pid s pointer).states fs) :
    mid = fs ∨ mid = swept pid pointer fs ∨
      (swept pid pointer fs).makeLink s.root.text (staging pid pointer) = .ok mid ∨
      mid = (update pid s pointer fs).1 := by
  have hlinking : ∀ cleared, swept pid pointer fs = cleared →
      update pid s pointer fs = (updating.linking s pointer (staging pid pointer)).run cleared →
      mid ∈ (updating.linking s pointer (staging pid pointer)).states cleared →
      mid = swept pid pointer fs ∨
        (swept pid pointer fs).makeLink s.root.text (staging pid pointer) = .ok mid ∨
        mid = (update pid s pointer fs).1 := by
    rintro cleared rfl hrun hmem
    rw [hrun]
    exact mem_states_linking hmem
  simp only [updating, Procedure.states, FileStep.perform, List.mem_cons] at h
  refine h.imp_right fun h => ?_
  cases hremove : fs.removeFile (staging pid pointer) with
  | ok cleared =>
    rw [hremove] at h
    refine hlinking cleared (swept_of_removeFile hremove) ?_ h
    simp [update, updating, Procedure.run, FileStep.perform, FileStep.perform.settle, hremove]
  | error e =>
    have hswept : swept pid pointer fs = fs := by
      unfold swept
      rw [hremove]
    by_cases he : e = .noEntry
    · -- nothing was left at the staging path
      refine hlinking fs hswept ?_ (by simpa [FileStep.perform.settle, hremove, he] using h)
      simp [update, updating, Procedure.run, FileStep.perform, FileStep.perform.settle, hremove, he]
    · rw [hremove] at h
      simp only [FileStep.perform.settle, if_neg he, Procedure.states, List.mem_singleton] at h
      exact .inl (h.trans hswept.symm)

/-! ## What they hold -/

/-- The files when moving a pointer has been cut off: the place of the pointer holds what it held or
a link to the new result set, and nothing else has changed but that what was left at the staging
path may be gone, and the link may be there. -/
structure IsMidway (pid : Nat) (s : ResultSet) (pointer : Path) (fs mid : FileSystem) : Prop where
  cwd : mid.cwd = fs.cwd
  place : ∀ loc, fs.place? pointer = some loc →
    mid.root.item? loc = fs.root.item? loc ∨ mid.root.item? loc = some (.link s.root.text)
  others : ∀ loc, fs.place? pointer ≠ some loc → mid.root.item? loc = fs.root.item? loc ∨
    (fs.place? (staging pid pointer) = some loc ∧ fs.root.item? loc ≠ some .directory ∧
      (mid.root.item? loc = none ∨ mid.root.item? loc = some (.link s.root.text)))

/-- The files when a pointer has been moved: its place holds a link to the new result set, there is
nothing at the staging path, where no directory was, and nothing else has changed. -/
structure IsReplaced (pid : Nat) (s : ResultSet) (pointer : Path) (fs fs' : FileSystem) : Prop where
  cwd : fs'.cwd = fs.cwd
  items : ∃ loc beside, fs.place? pointer = some loc ∧
    fs.place? (staging pid pointer) = some beside ∧
    fs.root.item? loc ≠ some .directory ∧ fs.root.item? beside ≠ some .directory ∧
    fs'.root.item? loc = some (.link s.root.text) ∧ fs'.root.item? beside = none ∧
    ∀ other, other ≠ loc → other ≠ beside → fs'.root.item? other = fs.root.item? other

/-- The files when a pointer could not be moved: nothing has changed, its place included, but that a
file or a link which was left at the staging path may be gone. -/
structure IsGivenUp (pid : Nat) (pointer : Path) (fs fs' : FileSystem) : Prop where
  cwd : fs'.cwd = fs.cwd
  items : ∀ loc, fs'.root.item? loc = fs.root.item? loc ∨
    (fs.place? (staging pid pointer) = some loc ∧ fs.place? pointer ≠ some loc ∧
      fs.root.item? loc ≠ some .directory ∧ fs'.root.item? loc = none)

theorem isGivenUp_swept (pid : Nat) (pointer : Path) (fs : FileSystem) :
    IsGivenUp pid pointer fs (swept pid pointer fs) := by
  refine ⟨(swept_extends pid pointer fs).cwd.symm, fun loc => ?_⟩
  rcases swept_cases pid pointer fs with hs | ⟨d, n, hroute, hnot, -, hs⟩
  · exact .inl (by rw [hs])
  · rw [hs, FileSystem.item?_without_leaf hnot]
    split
    · next he =>
      subst he
      refine .inr ⟨FileSystem.place?_of_named hroute, fun hplace => ?_, hnot, rfl⟩
      obtain ⟨r, hr, hloc⟩ := FileSystem.place?_eq_some.1 hplace
      exact location_ne_staging hr hroute hnot hloc
    · exact .inl rfl

theorem isGivenUp_of_error {e : Error} (h : update pid s pointer fs = (fs', .error e)) :
    IsGivenUp pid pointer fs fs' := by
  obtain ⟨-, hsame⟩ := update_error h
  have hswept := isGivenUp_swept pid pointer fs
  refine ⟨hsame.cwd.trans hswept.cwd, fun loc => ?_⟩
  rw [hsame.items]
  exact hswept.items loc

theorem isReplaced_of_ok (h : update pid s pointer fs = (fs', .ok ())) :
    IsReplaced pid s pointer fs fs' := by
  obtain ⟨dir, name, hmoved, hstaging⟩ := update_ok_staging h
  have hne : dir ++ [stagingName pid name] ≠ dir ++ [name] := by
    simpa using stagingName_ne pid name
  refine ⟨hmoved.cwd, dir ++ [name], dir ++ [stagingName pid name],
    FileSystem.place?_of_named hmoved.route, FileSystem.place?_of_named hstaging,
    hmoved.noDirectory, hmoved.noDirectoryBeside, ?_, ?_, ?_⟩
  · exact (hmoved.items _).trans (if_pos rfl)
  · rw [hmoved.items, if_neg hne, if_pos rfl]
  · intro other hloc hbeside
    rw [hmoved.items, if_neg hloc, if_neg hbeside]

theorem IsGivenUp.isMidway (h : IsGivenUp pid pointer fs mid) : IsMidway pid s pointer fs mid := by
  refine ⟨h.cwd, fun loc hplace => ?_, fun loc _ => ?_⟩
  · rcases h.items loc with hsame | ⟨-, hne, -⟩
    · exact .inl hsame
    · exact absurd hplace hne
  · rcases h.items loc with hsame | ⟨hplace, -, hnot, hnone⟩
    · exact .inl hsame
    · exact .inr ⟨hplace, hnot, .inl hnone⟩

theorem IsReplaced.isMidway (h : IsReplaced pid s pointer fs mid) :
    IsMidway pid s pointer fs mid := by
  obtain ⟨loc, beside, hplace, hbeside, -, hnot, hlink, hnone, hothers⟩ := h.items
  refine ⟨h.cwd, fun other hother => ?_, fun other hother => ?_⟩
  · obtain rfl : loc = other := Option.some.inj (hplace.symm.trans hother)
    exact .inr hlink
  · have hloc : other ≠ loc := by
      rintro rfl
      exact hother hplace
    by_cases he : other = beside
    · subst he
      exact .inr ⟨hbeside, hnot, .inl hnone⟩
    · exact .inl (hothers other hloc he)

/-- The new link stands where nothing but what was left there has been. -/
theorem isMidway_of_link
    (h : (swept pid pointer fs).makeLink s.root.text (staging pid pointer) = .ok mid) :
    IsMidway pid s pointer fs mid := by
  obtain ⟨d, n, hlinked⟩ := FileSystem.makeLink_eq_ok h
  have hgrown := swept_extends pid pointer fs
  have hroute := FileSystem.route_within hgrown.within hlinked.route (by simp)
  obtain ⟨hnot, hswept⟩ := swept_items hlinked.route hlinked.free
  refine ⟨hlinked.cwd.trans hgrown.cwd.symm, fun loc hplace => ?_, fun loc _ => ?_⟩
  · obtain ⟨r, hr, rfl⟩ := FileSystem.place?_eq_some.1 hplace
    have hne := location_ne_staging hr hroute hnot
    exact .inl (by rw [hlinked.items, if_neg hne, hswept, if_neg hne])
  · by_cases he : loc = d ++ [n]
    · subst he
      exact .inr ⟨FileSystem.place?_of_named hroute, hnot, .inr hlinked.there⟩
    · exact .inl (by rw [hlinked.items, if_neg he, hswept, if_neg he])

theorem isMidway_of_mem_states (h : mid ∈ (updating pid s pointer).states fs) :
    IsMidway pid s pointer fs mid := by
  have hbefore : IsGivenUp pid pointer fs fs := ⟨rfl, fun _ => .inl rfl⟩
  rcases mem_states_updating h with rfl | rfl | hlink | rfl
  · exact hbefore.isMidway
  · exact (isGivenUp_swept pid pointer fs).isMidway
  · exact isMidway_of_link hlink
  · rcases hupdate : update pid s pointer fs with ⟨after, e | ⟨⟩⟩
    · exact (isGivenUp_of_error hupdate).isMidway
    · exact (isReplaced_of_ok hupdate).isMidway

/-- What an update leaves in the end is one of the states that it may be cut off in. -/
theorem isMidway_update (pid : Nat) (s : ResultSet) (pointer : Path) (fs : FileSystem) :
    IsMidway pid s pointer fs (update pid s pointer fs).1 :=
  isMidway_of_mem_states (Procedure.run_mem_states _ _)

/-- Nothing has changed but at the pointer and at the staging path. -/
theorem IsMidway.item?_eq (h : IsMidway pid s pointer fs mid)
    (hpointer : fs.place? pointer ≠ some loc)
    (hstaging : fs.place? (staging pid pointer) ≠ some loc) :
    mid.root.item? loc = fs.root.item? loc :=
  (h.others loc hpointer).resolve_right fun ⟨hplace, _⟩ => hstaging hplace

/-! ## What the path leads to -/

/-- No directory has gone. -/
theorem IsMidway.directory (h : IsMidway pid s pointer fs mid)
    (hplace : fs.place? pointer ≠ some loc) (hdir : fs.root.item? loc = some .directory) :
    mid.root.item? loc = some .directory := by
  rcases h.others loc hplace with hsame | ⟨-, hnot, -⟩
  · rw [hsame, hdir]
  · exact absurd hdir hnot

/-- A pointer whose path goes through directories only leads where it led, wherever the update is
cut off. -/
theorem IsMidway.place?_eq (h : IsMidway pid s pointer fs mid) {ms : List String} {x : String}
    (hnames : names pointer.text = ms ++ [x]) (hms : ∀ m ∈ ms ++ [x], IsName m)
    (hdir : fs.root.item? (fs.start pointer ++ ms) = some .directory) :
    mid.place? pointer = fs.place? pointer := by
  have hne : fs.place? pointer ≠ some (fs.start pointer ++ ms) := fun hplace => by
    simpa using FileSystem.place?_through hnames hms hdir hplace
  have hroute := FileSystem.route_eq_of_directories h.cwd hnames hms hdir (h.directory hne hdir)
  rw [FileSystem.place?, hroute, FileSystem.place?]

theorem IsMidway.itemAt? (h : IsMidway pid s pointer fs mid)
    (hsteady : mid.place? pointer = fs.place? pointer) :
    mid.itemAt? pointer = fs.itemAt? pointer ∨ mid.itemAt? pointer = some (.link s.root.text) := by
  rw [FileSystem.itemAt?, FileSystem.itemAt?, hsteady]
  cases hplace : fs.place? pointer with
  | none => exact .inl rfl
  | some loc => exact h.place loc hplace

theorem IsReplaced.itemAt? (h : IsReplaced pid s pointer fs fs')
    (hsteady : fs'.place? pointer = fs.place? pointer) :
    fs'.itemAt? pointer = some (.link s.root.text) := by
  obtain ⟨loc, beside, hplace, -, -, -, hlink, -⟩ := h.items
  rw [FileSystem.itemAt?, hsteady, hplace]
  exact hlink

theorem IsGivenUp.itemAt? (h : IsGivenUp pid pointer fs fs')
    (hsteady : fs'.place? pointer = fs.place? pointer) :
    fs'.itemAt? pointer = fs.itemAt? pointer := by
  rw [FileSystem.itemAt?, FileSystem.itemAt?, hsteady]
  cases hplace : fs.place? pointer with
  | none => rfl
  | some loc =>
    rcases h.items loc with hsame | ⟨-, hne, -⟩
    · exact hsame
    · exact absurd hplace hne

/-- Moving a pointer replaces it in one step.  Wherever it is cut off, the place that the path led
to holds what it held or a link to the result set; if it succeeds, the link is there, nothing is at
the staging path and all else is as it was; if it fails, all is as it was but for what was left at
the staging path.  The same can be said of what is found at the path, as long as it leads to this
place. -/
theorem update_atomic (pid : Nat) (s : ResultSet) (pointer : Path) (fs : FileSystem) :
    (∀ mid ∈ (updating pid s pointer).states fs, IsMidway pid s pointer fs mid ∧
      (mid.place? pointer = fs.place? pointer →
        mid.itemAt? pointer = fs.itemAt? pointer ∨
          mid.itemAt? pointer = some (.link s.root.text))) ∧
      (∀ fs', update pid s pointer fs = (fs', .ok ()) → IsReplaced pid s pointer fs fs' ∧
        (fs'.place? pointer = fs.place? pointer →
          fs'.itemAt? pointer = some (.link s.root.text))) ∧
      ∀ fs' e, update pid s pointer fs = (fs', .error e) → IsGivenUp pid pointer fs fs' ∧
        (fs'.place? pointer = fs.place? pointer → fs'.itemAt? pointer = fs.itemAt? pointer) := by
  refine ⟨fun mid hmid => ?_, fun fs' hupdate => ?_, fun fs' e hupdate => ?_⟩
  · have hmidway := isMidway_of_mem_states hmid
    exact ⟨hmidway, hmidway.itemAt?⟩
  · have hreplaced := isReplaced_of_ok hupdate
    exact ⟨hreplaced, hreplaced.itemAt?⟩
  · have hgivenUp := isGivenUp_of_error hupdate
    exact ⟨hgivenUp, hgivenUp.itemAt?⟩

/-! ### A pointer in the root directory, and two that lead through themselves -/

/-- A directory for a result set, among other files. -/
def sampleFiles (others : Entries) : FileSystem where
  root := [("set", .directory [("a", .directory [])])] ++ others

/-- A file is replaced, with another left at the staging path. -/
theorem update_atomic_sample :
    let fs := sampleFiles
      [("latest", .file "old".toUTF8 false), (".latest.1.tmp", .file "stale".toUTF8 false)]
    ∃ fs', update 1 ⟨⟨"/set/a"⟩⟩ ⟨"/latest"⟩ fs = (fs', .ok ()) ∧
      IsReplaced 1 ⟨⟨"/set/a"⟩⟩ ⟨"/latest"⟩ fs fs' ∧
      fs'.itemAt? ⟨"/latest"⟩ = some (.link "/set/a") := by
  intro fs
  have hok : (update 1 ⟨⟨"/set/a"⟩⟩ ⟨"/latest"⟩ fs).2 = .ok () := by decide +kernel
  have hupdate := Prod.snd_eq_iff.1 hok
  obtain ⟨hreplaced, hentry⟩ := (update_atomic 1 ⟨⟨"/set/a"⟩⟩ ⟨"/latest"⟩ fs).2.1 _ hupdate
  have hnames : names "/latest" = [] ++ ["latest"] := by decide +kernel
  have hname : IsName "latest" := ⟨by decide, by decide, by decide⟩
  have hdir : fs.root.item? (fs.start ⟨"/latest"⟩ ++ []) = some .directory := by
    rw [ResultSet.start_of_startsAtRoot (by decide +kernel)]
    rfl
  exact ⟨_, hupdate, hreplaced,
    hentry (hreplaced.isMidway.place?_eq hnames (by simpa using hname) hdir)⟩

/-- A path through the pointer itself finds nothing when the pointer has been moved, and one through
what was left at the staging path finds nothing when that has been taken out. -/
theorem entry_lost_on_own_path :
    let fs := sampleFiles [("sub", .directory []), ("x", .link "sub")]
    let fs' := sampleFiles [("latest", .link "/set"), (".latest.1.tmp", .link ".")]
    ((update 1 ⟨⟨"/set/a"⟩⟩ ⟨"x/../x"⟩ fs).2 = .ok () ∧
        ((update 1 ⟨⟨"/set/a"⟩⟩ ⟨"x/../x"⟩ fs).1.itemAt? ⟨"x/../x"⟩).isNone) ∧
      (fs'.itemAt? ⟨".latest.1.tmp/latest"⟩).isSome ∧
      ∃ mid ∈ (updating 1 ⟨⟨"/set/a"⟩⟩ ⟨".latest.1.tmp/latest"⟩).states fs',
        (mid.itemAt? ⟨".latest.1.tmp/latest"⟩).isNone := by
  decide +kernel

end LatestPointer

end Fleet

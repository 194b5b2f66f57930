import Fleet.Proofs.Replacement

namespace Fleet

/-! # Following a pointer that was moved

The path of a result set is written into the pointer as it stands, and read again as a path from
where the pointer is.  So a pointer that was moved to a result set is followed to it if its path
begins at the root, or if the pointer is in the current directory under a plain name; in all other
cases it depends on what the path leads to from there (`LatestPointer.resolve_updated`).

This is about pointers whose paths do not go through themselves, and result sets whose paths do not
go through the pointer (`LatestPointer.bare`).
-/

open FileSystem (Extends Within startsAtRoot)

namespace LatestPointer

variable {fs fs' : FileSystem} {pid : Nat} {s : ResultSet} {pointer : Path} {dir loc : Location}
  {name : String}

/-- The files without the pointer, and without what was left at the staging path. -/
def bare (pid : Nat) (pointer : Path) (fs : FileSystem) : FileSystem :=
  match fs.place? pointer, fs.place? (staging pid pointer) with
  | some loc, some beside => (fs.without loc).without beside
  | _, _ => fs

/-- All but the pointer, and what was left at the staging path, is there before a pointer is moved
and afterwards, and no directory is missing. -/
theorem bare_spec (h : update pid s pointer fs = (fs', .ok ())) :
    Extends (bare pid pointer fs) fs ∧ Extends (bare pid pointer fs) fs' ∧
      ∀ loc, fs.root.item? loc = some .directory →
        (bare pid pointer fs).root.item? loc = some .directory := by
  obtain ⟨dir, name, hmoved, hstaging⟩ := update_ok_staging h
  have hbare : bare pid pointer fs =
      (fs.without (dir ++ [name])).without (dir ++ [stagingName pid name]) := by
    rw [bare, FileSystem.place?_of_named hmoved.route, FileSystem.place?_of_named hstaging]
  have hpointer := FileSystem.item?_without_leaf hmoved.noDirectory
  have hnot : (fs.without (dir ++ [name])).root.item? (dir ++ [stagingName pid name]) ≠
      some .directory := by
    rw [hpointer]
    split
    · simp
    · exact hmoved.noDirectoryBeside
  have hbeside := FileSystem.item?_without_leaf hnot
  rw [hbare]
  refine ⟨?_, ⟨hmoved.cwd, fun loc e he => ?_⟩, fun loc hdir => ?_⟩
  · exact (FileSystem.without_extends (by simp)).trans (FileSystem.without_extends (by simp))
  · rw [hbeside, hpointer] at he
    rw [hmoved.items]
    -- what is at one of the two places is not in the bare files
    split at he
    · cases he
    split at he
    · cases he
    next hne hne' => rw [if_neg hne', if_neg hne, he]
  · rw [hbeside, hpointer, if_neg, if_neg, hdir]
    · rintro rfl
      exact hmoved.noDirectory hdir
    · rintro rfl
      exact hmoved.noDirectoryBeside hdir

/-- A path that goes through directories only does not go through the pointer. -/
theorem route_bare_of_directories (h : update pid s pointer fs = (fs', .ok ()))
    {ms : List String} {x : String} (hnames : FileSystem.names pointer.text = ms ++ [x])
    (hms : ∀ m ∈ ms ++ [x], FileSystem.IsName m)
    (hdir : fs.root.item? (fs.start pointer ++ ms) = some .directory) :
    (bare pid pointer fs).route false pointer = fs.route false pointer := by
  obtain ⟨hbefore, -, hdirectories⟩ := bare_spec h
  exact FileSystem.route_eq_of_directories hbefore.cwd.symm hnames hms hdir (hdirectories _ hdir)

/-- A pointer that was moved is a link to the result set, if its path does not go through itself. -/
theorem readLink_updated (h : update pid s pointer fs = (fs', .ok ()))
    (hpointer : (bare pid pointer fs).route false pointer = fs.route false pointer) :
    fs'.readLink pointer = .ok s.root.text := by
  obtain ⟨dir, name, hmoved⟩ := update_ok h
  have hroute := hpointer.trans hmoved.route
  have hroute' := FileSystem.route_within (bare_spec h).2.1.within hroute (by simp)
  exact hmoved.readLink (hroute'.trans hmoved.route.symm)

/-- It is followed to what the path of the result set leads to from where the pointer is. -/
theorem resolve_eq (h : update pid s pointer fs = (fs', .ok ()))
    (hpointer : (bare pid pointer fs).route false pointer = fs.route false pointer) :
    resolve fs' pointer =
      if fs'.isDirectory (anchored pointer s.root.text) then .ok ⟨anchored pointer s.root.text⟩
      else .error (.noPreviousResults pointer) :=
  resolve_of_link (readLink_updated h hpointer)

/-- From the current directory under a plain name, a path is read as it stands. -/
theorem anchored_of_plain {t : String} (h : pointer.parent? = some ⟨""⟩) :
    anchored pointer t = ⟨t⟩ := by
  rw [anchored, h]
  simp [HDiv.hDiv, Path.join]

/-- When a pointer has been moved to a result set that is a directory, it is followed to this result
set if its path begins at the root or the pointer is in the current directory under a plain name.
In general it is followed to a result set in the same directory exactly if the path of the result
set, read as one from where the pointer is, leads to this directory; and if it leads to no
directory, there are no previous results. -/
theorem resolve_updated (h : update pid s pointer fs = (fs', .ok ()))
    (hpointer : (bare pid pointer fs).route false pointer = fs.route false pointer)
    (hroot : (bare pid pointer fs).directory? s.root = some loc) :
    (fs.directory? s.root = some loc ∧ fs'.directory? s.root = some loc) ∧
      (startsAtRoot s.root.text = true ∨ pointer.parent? = some ⟨""⟩ →
        resolve fs' pointer = .ok s) ∧
      ((∃ r, resolve fs' pointer = .ok r ∧ fs'.directory? r.root = some loc) ↔
        fs'.directory? (anchored pointer s.root.text) = some loc) ∧
      (fs'.isDirectory (anchored pointer s.root.text) = false →
        resolve fs' pointer = .error (.noPreviousResults pointer)) := by
  obtain ⟨hbefore, hafter, -⟩ := bare_spec h
  have hthere := FileSystem.directory?_within hafter.within hroot
  have hfollowed := resolve_eq h hpointer
  refine ⟨⟨FileSystem.directory?_within hbefore.within hroot, hthere⟩, ?_, ?_, ?_⟩
  · intro hplain
    have hanchored : anchored pointer s.root.text = s.root :=
      hplain.elim anchored_of_startsAtRoot anchored_of_plain
    rw [hfollowed, hanchored, if_pos (FileSystem.isDirectory_iff_directory?.2 ⟨loc, hthere⟩)]
  · constructor
    · rintro ⟨r, hr, hdir⟩
      rw [hfollowed] at hr
      split at hr
      · cases hr
        exact hdir
      · cases hr
    · intro hdir
      exact ⟨⟨anchored pointer s.root.text⟩,
        by rw [hfollowed, if_pos (FileSystem.isDirectory_iff_directory?.2 ⟨loc, hdir⟩)], hdir⟩
  · intro hnone
    rw [hfollowed, hnone]
    rfl

/-- A pointer that is moved to the relative path of a result set, and followed from the current
directory. -/
theorem resolve_updated_sample :
    ∃ fs', update 1 ⟨⟨"set/a"⟩⟩ ⟨"latest"⟩ (sampleFiles [("latest", .link "old")]) =
        (fs', .ok ()) ∧
      fs'.directory? ⟨"set/a"⟩ = some ["set", "a"] ∧
        resolve fs' ⟨"latest"⟩ = .ok ⟨⟨"set/a"⟩⟩ := by
  have hok : (update 1 ⟨⟨"set/a"⟩⟩ ⟨"latest"⟩ (sampleFiles [("latest", .link "old")])).2 =
      .ok () := by
    decide +kernel
  have hupdate := Prod.snd_eq_iff.1 hok
  have hroot : (bare 1 ⟨"latest"⟩ (sampleFiles [("latest", .link "old")])).directory? ⟨"set/a"⟩ =
      some ["set", "a"] := by
    decide +kernel
  have hname : ∀ m ∈ ["latest"], FileSystem.IsName m := by
    intro m hm
    obtain rfl := List.mem_singleton.1 hm
    exact ⟨by decide, by decide, by decide⟩
  have hnames : FileSystem.names "latest" = [] ++ ["latest"] := by decide +kernel
  have hpointer := route_bare_of_directories hupdate hnames hname rfl
  obtain ⟨⟨-, hthere⟩, hfollowed, -⟩ := resolve_updated hupdate hpointer hroot
  exact ⟨_, hupdate, hthere, hfollowed (.inr (by decide +kernel))⟩

/-- A pointer in another directory that was moved to a relative path leads nowhere. -/
example :
    let fs := sampleFiles [("sub", .directory [])]
    (update 1 ⟨⟨"set/a"⟩⟩ ⟨"sub/latest"⟩ fs).2 = .ok () ∧
      resolve (update 1 ⟨⟨"set/a"⟩⟩ ⟨"sub/latest"⟩ fs).1 ⟨"sub/latest"⟩ =
        .error (.noPreviousResults ⟨"sub/latest"⟩) := by
  decide +kernel

end LatestPointer

end Fleet

import Fleet.Proofs.Clone
import Fleet.Proofs.Files.Directories
import Fleet.Proofs.Places

namespace Fleet

/-! # Cloning a campaign again

A second clone of a campaign goes by what the first one has left (`Workshop.clone_again`).  Where
`git clone` failed and left nothing, there is still nothing when the turn of the repository comes
again (`Workshop.Awaits`), and `git clone` is run again.  The turns of others keep it so if they are
apart (`Workshop.IsApart`): links can lead two organisations to one directory.  Where the repository
was cloned and only the branch was not made, the working copy is there, and nothing is run.

What is relied on of `git` is `Git.KeepsToPlaces`, and `Git.plain` is one of which it holds.
-/

open FileSystem (IsProper Admits LeadsTo Within)

namespace Git

variable {σ : Type}

/-- What is relied on of `git`: neither a clone nor the branch made in it takes anything away, and a
clone that succeeds makes the directory it is to make.  If nothing was there before, what the clone
makes is that directory, no link, with what is below it, and what the branch changes is in it. -/
structure KeepsToPlaces (x : Executor σ) : Prop where
  clone_within {dir : Path} {url name : String} {w w' : Workshop σ} {result : Except Error Unit} :
    clone x dir url name w = (w', result) → IsProper name → Within w.files w'.files
  clone_makes {dir : Path} {url name : String} {w w' : Workshop σ} :
    clone x dir url name w = (w', .ok ()) → IsProper name →
      w'.files.isDirectory (dir / name) = true
  clone_place {dir : Path} {url name : String} {w w' : Workshop σ} {result : Except Error Unit} :
    clone x dir url name w = (w', result) → IsProper name →
      w.files.isPresent (dir / name) = false →
        ∀ loc, w'.files.root.item? loc ≠ w.files.root.item? loc →
          ∃ r, w.files.route true dir = .ok r ∧ r.spot.location ++ [name] <+: loc
  clone_noLink {dir : Path} {url name : String} {w w' : Workshop σ} :
    clone x dir url name w = (w', .ok ()) → IsProper name →
      w.files.isPresent (dir / name) = false → ∀ t, w'.files.readLink (dir / name) ≠ .ok t
  branch_within {dir : Path} {url name branch : String} {w w' w'' : Workshop σ}
    {result : Except Error Unit} :
    clone x dir url name w = (w', .ok ()) → checkoutNew x (dir / name) branch w' = (w'', result) →
      IsProper name → Within w'.files w''.files
  branch_inside {dir : Path} {url name branch : String} {w w' w'' : Workshop σ}
    {result : Except Error Unit} :
    clone x dir url name w = (w', .ok ()) → checkoutNew x (dir / name) branch w' = (w'', result) →
      IsProper name → w.files.isPresent (dir / name) = false →
        ∀ loc, w''.files.root.item? loc ≠ w'.files.root.item? loc →
          ∃ r, w'.files.route true (dir / name) = .ok r ∧ r.spot.location <+: loc

end Git

namespace Repository

variable {r : Repository}

theorem IsEntry.org_isProper (h : r.IsEntry) : IsProper r.org :=
  ⟨h.org_isSegment.1, h.org_isSegment.2.1, h.org_isSegment.2.2⟩

theorem IsEntry.name_isProper (h : r.IsEntry) : IsProper r.name :=
  ⟨h.name_isSegment.1, h.name_isSegment.2.1, h.name_isSegment.2.2⟩

end Repository

namespace Workshop

variable {σ : Type} {x : Executor σ} {campaign : String} {root : Path} {host : String}
  {w : Workshop σ} {q r : Repository} {base : Location} {fs : FileSystem}

/-! ## Nothing goes -/

variable {how : CloneEnd} {s : σ} {files : FileSystem}

/-- Once the place of a repository is made, the directory of its organisation is there. -/
theorem directory?_of_placed (hq : q.IsEntry)
    (h : w.files.makeDirectories (root / q.org) = (files, .ok ())) :
    ∃ dir, files.directory? (root / q.org) = some dir :=
  FileSystem.isDirectory_iff_directory?.1
    (FileSystem.isDirectory_of_makeDirectories hq.org_isProper.segment.join_ne_empty h)

/-- A turn changes nothing, or the place of the repository is made in it and nothing goes from then
on; with the place made, it ends there or goes on in the directory of the organisation. -/
theorem CloneTurn.placed (hx : Git.KeepsToPlaces x) (hq : q.IsEntry)
    (h : CloneTurn x campaign root host w q how s files) :
    files = w.files ∨ ∃ made result, w.files.makeDirectories (root / q.org) = (made, result) ∧
      Within made files ∧ (files = made ∨ ∃ dir, made.directory? (root / q.org) = some dir) := by
  cases h with
  | present _ => exact .inl rfl
  | noPlace _ hplace => exact .inr ⟨_, _, hplace, .refl _, .inl rfl⟩
  | notCloned _ hplace hclone =>
    exact .inr ⟨_, _, hplace, hx.clone_within hclone hq.name_isProper,
      .inr (directory?_of_placed hq hplace)⟩
  | noBranch _ hplace hclone hbranch | cloned _ hplace hclone hbranch =>
    have hwithin := (hx.clone_within hclone hq.name_isProper).trans
      (hx.branch_within hclone hbranch hq.name_isProper)
    exact .inr ⟨_, _, hplace, hwithin, .inr (directory?_of_placed hq hplace)⟩

theorem CloneTurn.within (hx : Git.KeepsToPlaces x) (hq : q.IsEntry)
    (h : CloneTurn x campaign root host w q how s files) : Within w.files files := by
  rcases h.placed hx hq with rfl | ⟨made, result, hplace, hwithin, -⟩
  · exact .refl _
  · exact (FileSystem.makeDirectories_eq_adds hplace).extends.within.trans hwithin

theorem clone_within (hx : Git.KeepsToPlaces x) {repos : List Repository}
    (hentries : ∀ q ∈ repos, q.IsEntry) (w : Workshop σ) :
    Within w.files (clone x campaign repos root host w).files :=
  clone_induction (fun q hq w' h =>
      h.trans ((cloneOne_turn x campaign root host w' q).1.within hx (hentries q hq)))
    (.refl _)

/-! ## Each turn keeps to its place -/

/-- Where the working copy of a repository is made: under its name, in the directory of its
organisation. -/
def copyPlace? (fs : FileSystem) (root : Path) (r : Repository) : Option Location :=
  (fs.directory? (root / r.org)).map (· ++ [r.name])

/-- The turn of one repository makes nothing in the place of another: neither the directory of its
organisation is there, nor is its working copy there or above it. -/
def IsApart (fs : FileSystem) (root : Path) (q r : Repository) : Prop :=
  ∀ dir place, fs.directory? (root / q.org) = some dir → copyPlace? fs root r = some place →
    dir ≠ place ∧ ¬ dir ++ [q.name] <+: place

/-- Repositories with different places in the list are apart if the directories of their
organisations are no links. -/
theorem isApart_of_noLinks (hq : q.IsEntry) (hr : r.IsEntry) (hother : ¬ q.SharesPlace r)
    (hqlink : ∀ t, fs.readLink (root / q.org) ≠ .ok t)
    (hrlink : ∀ t, fs.readLink (root / r.org) ≠ .ok t) : IsApart fs root q r := by
  -- a directory that is no link stands in the one that the root leads to
  have hstands : ∀ {s : Repository} {dir : Location}, s.IsEntry →
      (∀ t, fs.readLink (root / s.org) ≠ .ok t) → fs.directory? (root / s.org) = some dir →
      ∃ base, LeadsTo fs root base ∧ dir = base ++ [s.org] := by
    intro s dir hs hlink hdir
    obtain ⟨base, hlead, hfits, hstands⟩ := LeadsTo.of_directory?_join hs.org_isProper hdir
    exact ⟨base, hlead, hstands fun t ht =>
      hlink t ((hlead.readLink_eq_ok_iff hs.org_isProper).2 ⟨hfits, ht⟩)⟩
  intro dir place hdir hplace
  obtain ⟨dir', hdir', rfl⟩ := Option.map_eq_some_iff.1 hplace
  obtain ⟨base, hlead, rfl⟩ := hstands hq hqlink hdir
  obtain ⟨base', hlead', rfl⟩ := hstands hr hrlink hdir'
  obtain rfl := hlead.unique hlead'
  refine ⟨by simp, fun hbelow => hother ?_⟩
  rw [List.append_assoc, List.append_assoc, List.prefix_append_right_inj] at hbelow
  simpa [Repository.SharesPlace] using hbelow.eq_of_length rfl

/-- Repositories that are apart were so before, when less was there. -/
theorem IsApart.earlier {later : FileSystem} (h : IsApart later root q r)
    (hlater : Within fs later) : IsApart fs root q r := by
  intro dir place hdir hplace
  obtain ⟨dir', hdir', rfl⟩ := Option.map_eq_some_iff.1 hplace
  refine h _ _ (FileSystem.directory?_within hlater hdir) ?_
  rw [copyPlace?, FileSystem.directory?_within hlater hdir', Option.map_some]

/-- Making the place of a repository changes nothing but the directory of its organisation. -/
theorem placed_changes (hlead : LeadsTo w.files root base) (hq : q.IsEntry)
    {result : Except IoError Unit}
    (h : w.files.makeDirectories (root / q.org) = (files, result)) :
    files = w.files ∨
      (w.files.root.item? (base ++ [q.org]) = none ∧
        files.directory? (root / q.org) = some (base ++ [q.org]) ∧
        ∀ loc, loc ≠ base ++ [q.org] → files.root.item? loc = w.files.root.item? loc) := by
  have hcases := hlead.makeDirectories_cases hq.org_isProper
  rw [h] at hcases
  refine hcases.imp_right ?_
  rintro ⟨rfl, hnone, hitems⟩
  refine ⟨hnone, ?_, fun loc hloc => by rw [hitems, if_neg hloc]⟩
  -- the new directory is no link, so it is what the path leads to
  obtain ⟨dir, hdir⟩ := directory?_of_placed hq h
  obtain ⟨base', hlead', -, hstands⟩ := LeadsTo.of_directory?_join hq.org_isProper hdir
  obtain rfl := hlead'.unique
    (hlead.within (FileSystem.makeDirectories_eq_adds h).extends.within)
  rw [hdir, hstands fun t => by rw [hitems, if_pos rfl]; simp]

/-- A working copy does not come by making its place. -/
theorem absent_of_placed (hlead : LeadsTo w.files root base) (hq : q.IsEntry)
    (h : w.files.makeDirectories (root / q.org) = (files, .ok ()))
    (habsent : w.files.isPresent (q.workDir root) = false) :
    files.isPresent (q.workDir root) = false := by
  rcases placed_changes hlead hq h with rfl | ⟨hnone, hdir, hothers⟩
  · exact habsent
  by_contra hthere
  rw [Bool.not_eq_false] at hthere
  -- the directory is new, so there is nothing in it
  obtain ⟨-, hitem⟩ :=
    (LeadsTo.of_directory? hdir).there_of_isPresent hq.name_isProper hthere
  refine hitem ?_
  rw [hothers _ (by simp)]
  exact Entries.item?_below_none (by simp [hnone]) (List.prefix_append _ _) (by simp)

/-- Where there was nothing, a clone changes nothing but what is at the working copy and below it. -/
theorem cloned_changes (hx : Git.KeepsToPlaces x) (hq : q.IsEntry)
    (habsent : files.isPresent (q.workDir root) = false) {dir : Location}
    (hdir : files.directory? (root / q.org) = some dir)
    {w' : Workshop σ} {result : Except Error Unit}
    (hclone : Git.clone x (root / q.org) (q.cloneUrl host) q.name (w.ready root q files) =
      (w', result))
    (loc : Location) (hbelow : ¬ dir ++ [q.name] <+: loc) :
    w'.files.root.item? loc = files.root.item? loc := by
  by_contra hne
  obtain ⟨r, hr, hp⟩ := hx.clone_place hclone hq.name_isProper habsent loc hne
  obtain ⟨r', hr', rfl, -⟩ := FileSystem.directory?_eq_some.1 hdir
  obtain rfl := Except.ok.inj (hr.symm.trans hr')
  exact hbelow hp

/-- What was cloned where there was nothing is a directory in its own place. -/
theorem route_of_cloned (hx : Git.KeepsToPlaces x) (hq : q.IsEntry)
    (habsent : files.isPresent (q.workDir root) = false) {dir : Location}
    (hdir : files.directory? (root / q.org) = some dir) {w' : Workshop σ}
    (hclone : Git.clone x (root / q.org) (q.cloneUrl host) q.name (w.ready root q files) =
      (w', .ok ())) :
    w'.files.route true (q.workDir root) = .ok ⟨.named dir q.name, false⟩ := by
  have hlead : LeadsTo w'.files (root / q.org) dir :=
    (LeadsTo.of_directory? hdir).within (hx.clone_within hclone hq.name_isProper)
  have hnoLink : Admits (root / q.org) q.name → ∀ t,
      w'.files.root.item? (dir ++ [q.name]) ≠ some (.link t) := by
    intro hfits t ht
    have hroute := hlead.route_eq hq.name_isProper hfits
    exact hx.clone_noLink hclone hq.name_isProper habsent t
      (FileSystem.readLink_eq_ok_iff.2 ⟨_, hroute, rfl, ht⟩)
  exact (hlead.directory_of_isDirectory hq.name_isProper hnoLink
    (hx.clone_makes hclone hq.name_isProper)).2.2

/-- A branch made in a new working copy changes nothing but what is at the copy and below it. -/
theorem branched_changes (hx : Git.KeepsToPlaces x) (hq : q.IsEntry)
    (habsent : files.isPresent (q.workDir root) = false) {dir : Location}
    (hdir : files.directory? (root / q.org) = some dir)
    {w' w'' : Workshop σ} {result : Except Error Unit}
    (hclone : Git.clone x (root / q.org) (q.cloneUrl host) q.name (w.ready root q files) =
      (w', .ok ()))
    (hbranch : Git.checkoutNew x (q.workDir root) campaign w' = (w'', result))
    (loc : Location) (hbelow : ¬ dir ++ [q.name] <+: loc) :
    w''.files.root.item? loc = w'.files.root.item? loc := by
  by_contra hne
  have hroute := route_of_cloned hx hq habsent hdir hclone
  obtain ⟨r, hr, hp⟩ := hx.branch_inside hclone hbranch hq.name_isProper habsent loc hne
  obtain rfl := Except.ok.inj (hroute.symm.trans hr)
  exact hbelow hp

/-- A turn changes nothing but the directory of the organisation, and what is at the working copy
and below it. -/
theorem CloneTurn.changes (hx : Git.KeepsToPlaces x) (hlead : LeadsTo w.files root base)
    (hq : q.IsEntry) (h : CloneTurn x campaign root host w q how s files) (loc : Location) :
    files.root.item? loc = w.files.root.item? loc ∨
      ∃ dir, files.directory? (root / q.org) = some dir ∧
        (loc = dir ∨ dir ++ [q.name] <+: loc) := by
  -- making the place, and then what is done below it
  have hplaced : ∀ {made result}, w.files.makeDirectories (root / q.org) = (made, result) →
      Within made files → files.root.item? loc = made.root.item? loc →
      files.root.item? loc = w.files.root.item? loc ∨
        ∃ dir, files.directory? (root / q.org) = some dir ∧
          (loc = dir ∨ dir ++ [q.name] <+: loc) := by
    intro made result hplace hwithin hsame
    rcases placed_changes hlead hq hplace with rfl | ⟨-, hdir, hothers⟩
    · exact .inl hsame
    by_cases hloc : loc = base ++ [q.org]
    · exact .inr ⟨_, FileSystem.directory?_within hwithin hdir, .inl hloc⟩
    · exact .inl (hsame.trans (hothers loc hloc))
  cases h with
  | present _ => exact .inl rfl
  | noPlace _ hplace => exact hplaced hplace (.refl _) rfl
  | notCloned habsent hplace hclone =>
    obtain ⟨dir, hdir⟩ := directory?_of_placed hq hplace
    have habsent' := absent_of_placed hlead hq hplace habsent
    have hwithin := hx.clone_within hclone hq.name_isProper
    by_cases hbelow : dir ++ [q.name] <+: loc
    · exact .inr ⟨dir, FileSystem.directory?_within hwithin hdir, .inr hbelow⟩
    · exact hplaced hplace hwithin (cloned_changes hx hq habsent' hdir hclone loc hbelow)
  | noBranch habsent hplace hclone hbranch | cloned habsent hplace hclone hbranch =>
    obtain ⟨dir, hdir⟩ := directory?_of_placed hq hplace
    have habsent' := absent_of_placed hlead hq hplace habsent
    have hwithin := (hx.clone_within hclone hq.name_isProper).trans
      (hx.branch_within hclone hbranch hq.name_isProper)
    by_cases hbelow : dir ++ [q.name] <+: loc
    · exact .inr ⟨dir, FileSystem.directory?_within hwithin hdir, .inr hbelow⟩
    · have hbranched := branched_changes hx hq habsent' hdir hclone hbranch loc hbelow
      have hcloned := cloned_changes hx hq habsent' hdir hclone loc hbelow
      exact hplaced hplace hwithin (hbranched.trans hcloned)

/-! ## A place that waits -/

/-- There is nothing under the name of a repository, in the directory of its organisation. -/
structure Awaits (root : Path) (base dir : Location) (r : Repository) (fs : FileSystem) :
    Prop where
  leads : LeadsTo fs root base
  org : fs.directory? (root / r.org) = some dir
  free : Admits (root / r.org) r.name → fs.root.item? (dir ++ [r.name]) = none

variable {dir : Location}

/-- The turn of a repository leaves the place of another free, if they are apart. -/
theorem CloneTurn.awaits (hx : Git.KeepsToPlaces x) (hq : q.IsEntry)
    (h : CloneTurn x campaign root host w q how s files) (hapart : IsApart files root q r)
    (hr : Awaits root base dir r w.files) : Awaits root base dir r files := by
  have hwithin := h.within hx hq
  have horg := FileSystem.directory?_within hwithin hr.org
  refine ⟨hr.leads.within hwithin, horg, fun hfits => ?_⟩
  rcases h.changes hx hr.leads hq (dir ++ [r.name]) with hsame | ⟨dir', hdir', hmade⟩
  · rw [hsame, hr.free hfits]
  · have hplace : copyPlace? files root r = some (dir ++ [r.name]) := by
      rw [copyPlace?, horg, Option.map_some]
    obtain ⟨hne, hnot⟩ := hapart _ _ hdir' hplace
    rcases hmade with heq | hbelow
    · exact absurd heq.symm hne
    · exact absurd hbelow hnot

theorem clone_awaits (hx : Git.KeepsToPlaces x) {others : List Repository}
    (hentries : ∀ q ∈ others, q.IsEntry)
    (hapart : ∀ q ∈ others, IsApart (clone x campaign others root host w).files root q r)
    (hr : Awaits root base dir r w.files) :
    Awaits root base dir r (clone x campaign others root host w).files := by
  induction others generalizing w with
  | nil => exact hr
  | cons q rest ih =>
    have hrest : ∀ q' ∈ rest, q'.IsEntry := fun q' hq' => hentries q' (by simp [hq'])
    rw [clone_cons] at hapart ⊢
    have hlater : Within (cloneStep x campaign root host w q).files
        (clone x campaign rest root host (cloneStep x campaign root host w q)).files :=
      clone_within hx hrest _
    refine ih hrest (fun q' hq' => hapart q' (by simp [hq'])) ?_
    exact (cloneOne_turn x campaign root host w q).1.awaits hx (hentries q (by simp))
      ((hapart q (by simp)).earlier hlater) hr

/-- A failed clone that has left nothing leaves the place free. -/
theorem CloneTurn.awaits_of_notCloned (hx : Git.KeepsToPlaces x) (hr : r.IsEntry) {e : Error}
    (h : CloneTurn x campaign root host w r (.notCloned e) s files)
    (hleft : ∀ entry, files.linkStatus (r.workDir root) ≠ .ok entry) :
    ∃ base dir, Awaits root base dir r files := by
  cases h with
  | @notCloned made w' _ _ hplace hclone =>
  have hwithin := hx.clone_within hclone hr.name_isProper
  -- the place was made, so the path to it leads through a directory
  obtain ⟨dir, hdir⟩ := directory?_of_placed hr hplace
  have horg := FileSystem.directory?_within hwithin hdir
  obtain ⟨base, hlead, -, -⟩ := LeadsTo.of_directory?_join hr.org_isProper horg
  refine ⟨base, dir, hlead, horg, fun hfits => ?_⟩
  cases hcopy : w'.files.root.item? (dir ++ [r.name]) with
  | none => rfl
  | some e =>
    obtain ⟨node, hnode, -⟩ :=
      (LeadsTo.of_directory? horg).linkStatus_of_there hr.name_isProper hfits hcopy
    exact absurd hnode (hleft _)

/-! ## Without links -/

/-- The directory of an organisation stands where the root leads to, if there was no link. -/
theorem CloneTurn.stands (hx : Git.KeepsToPlaces x) (hlead : LeadsTo w.files root base)
    (hq : q.IsEntry)
    (hnoLink : Admits root q.org → ∀ t, w.files.root.item? (base ++ [q.org]) ≠ some (.link t))
    (h : CloneTurn x campaign root host w q how s files)
    (hdir : files.directory? (root / q.org) = some dir) : dir = base ++ [q.org] := by
  have hwithin := h.within hx hq
  cases hbefore : w.files.directory? (root / q.org) with
  | some dir' =>
    obtain ⟨base', hlead', hfits, hstands⟩ := LeadsTo.of_directory?_join hq.org_isProper hbefore
    obtain rfl := hlead.unique hlead'
    have hsame := FileSystem.directory?_within hwithin hbefore
    rw [hdir, Option.some.injEq] at hsame
    rw [hsame, hstands (hnoLink hfits)]
  | none =>
    -- it was made in this turn
    rcases h.placed hx hq with rfl | ⟨made, result, hplace, hlater, hends⟩
    · simp [hbefore] at hdir
    rcases placed_changes hlead hq hplace with rfl | ⟨-, hmade, -⟩
    · rcases hends with rfl | ⟨_, hthere⟩
      · simp [hbefore] at hdir
      · simp [hbefore] at hthere
    · have hstays := FileSystem.directory?_within hlater hmade
      rwa [hdir, Option.some.injEq] at hstays

/-- A turn puts no link beside the directory of its organisation, if this is no link. -/
theorem CloneTurn.noLink (hx : Git.KeepsToPlaces x) (hlead : LeadsTo w.files root base)
    (hq : q.IsEntry)
    (hnoLink : Admits root q.org → ∀ t, w.files.root.item? (base ++ [q.org]) ≠ some (.link t))
    (h : CloneTurn x campaign root host w q how s files) {org : String}
    (horg : ∀ t, w.files.root.item? (base ++ [org]) ≠ some (.link t)) (t : String) :
    files.root.item? (base ++ [org]) ≠ some (.link t) := by
  rcases h.changes hx hlead hq (base ++ [org]) with hsame | ⟨dir, hdir, hmade⟩
  · rw [hsame]
    exact horg t
  rcases hmade with rfl | hbelow
  · obtain ⟨_, -, -, hitem⟩ := FileSystem.directory?_eq_some.1 hdir
    simp [hitem]
  · obtain rfl := h.stands hx hlead hq hnoLink hdir
    simpa using hbelow.length_le

theorem clone_noLink (hx : Git.KeepsToPlaces x) {others : List Repository}
    (hentries : ∀ q ∈ others, q.IsEntry) (hlead : LeadsTo w.files root base)
    (hnoLinks : ∀ q ∈ others, Admits root q.org →
      ∀ t, w.files.root.item? (base ++ [q.org]) ≠ some (.link t)) {org : String}
    (horg : ∀ t, w.files.root.item? (base ++ [org]) ≠ some (.link t)) (t : String) :
    (clone x campaign others root host w).files.root.item? (base ++ [org]) ≠ some (.link t) := by
  induction others generalizing w with
  | nil => exact horg t
  | cons q rest ih =>
    rw [clone_cons]
    have hturn := (cloneOne_turn x campaign root host w q).1
    have hkept : ∀ {org'}, (∀ t, w.files.root.item? (base ++ [org']) ≠ some (.link t)) → ∀ t,
        (cloneStep x campaign root host w q).files.root.item? (base ++ [org']) ≠
          some (.link t) :=
      hturn.noLink hx hlead (hentries q (by simp)) (hnoLinks q (by simp))
    refine ih (fun q' hq' => hentries q' (by simp [hq']))
      (hlead.within (hturn.within hx (hentries q (by simp)))) (fun q' hq' hfits => ?_)
      (hkept horg)
    exact hkept (hnoLinks q' (by simp [hq']) hfits)

/-- Repositories with different places in the list are apart after others are cloned, if no directory
of an organisation was a link before. -/
theorem clone_isApart (hx : Git.KeepsToPlaces x) {others : List Repository}
    (hentries : ∀ s ∈ q :: r :: others, s.IsEntry) (hlead : LeadsTo w.files root base)
    (hother : ¬ q.SharesPlace r)
    (hplain : ∀ s ∈ q :: r :: others, ∀ t, w.files.readLink (root / s.org) ≠ .ok t) :
    IsApart (clone x campaign others root host w).files root q r := by
  have hothers : ∀ s ∈ others, s.IsEntry := fun s hs => hentries s (by simp [hs])
  have hnoLinks : ∀ s ∈ q :: r :: others, Admits root s.org →
      ∀ t, w.files.root.item? (base ++ [s.org]) ≠ some (.link t) := fun s hs hfits t ht =>
    hplain s hs t ((hlead.readLink_eq_ok_iff (hentries s hs).org_isProper).2 ⟨hfits, ht⟩)
  have hafter : ∀ s ∈ q :: r :: others, ∀ t,
      (clone x campaign others root host w).files.readLink (root / s.org) ≠ .ok t := by
    intro s hs t ht
    have hleads : LeadsTo (clone x campaign others root host w).files root base :=
      hlead.within (clone_within hx hothers w)
    obtain ⟨hfits, hitem⟩ := (hleads.readLink_eq_ok_iff (hentries s hs).org_isProper).1 ht
    exact clone_noLink hx hothers hlead (fun s' hs' => hnoLinks s' (by simp [hs']))
      (hnoLinks s hs hfits) t hitem
  exact isApart_of_noLinks (hentries q (by simp)) (hentries r (by simp)) hother
    (hafter q (by simp)) (hafter r (by simp))

/-- In a place that waits, a clone is asked for. -/
theorem Awaits.turn (hr : r.IsEntry) (h : Awaits root base dir r w.files)
    (hturn : CloneTurn x campaign root host w r how s files) :
    how.outcome ≠ .skipped ∧
      ∃ more, endCalls campaign root host r how = Git.cloneCall root host r :: more := by
  have habsent : w.files.isPresent (r.workDir root) ≠ true := by
    intro hthere
    obtain ⟨hfits, hitem⟩ :=
      (LeadsTo.of_directory? h.org).there_of_isPresent hr.name_isProper hthere
    exact hitem (h.free hfits)
  have hplace := FileSystem.makeDirectories_of_isDirectory
    (FileSystem.isDirectory_iff_directory?.2 ⟨dir, h.org⟩)
  cases hturn with
  | present hthere => exact absurd hthere habsent
  | noPlace _ hfailed => simp [hplace] at hfailed
  | notCloned _ _ _ | noBranch _ _ _ _ | cloned _ _ _ _ =>
    exact ⟨by simp [CloneEnd.outcome], _, rfl⟩

/-! ## The second clone -/

theorem CloneTurn.present_iff (h : CloneTurn x campaign root host w r how s files) :
    how = .present ↔ w.files.isPresent (r.workDir root) = true := by
  cases h with
  | present hthere => simp [hthere]
  | noPlace habsent _ | notCloned habsent _ _ | noBranch habsent _ _ _ | cloned habsent _ _ _ =>
    simp [habsent]

/-- A copy that was made is there for good. -/
theorem CloneTurn.isPresent_of_noBranch (hx : Git.KeepsToPlaces x) (hr : r.IsEntry) {e : Error}
    (h : CloneTurn x campaign root host w r (.noBranch e) s files) {later : FileSystem}
    (hlater : Within files later) : later.isPresent (r.workDir root) = true := by
  cases h with
  | noBranch _ _ hclone hbranch =>
    have hwithin := hx.branch_within hclone hbranch hr.name_isProper
    exact FileSystem.isPresent_of_isDirectory (FileSystem.isDirectory_within
      (hwithin.trans hlater) (hx.clone_makes hclone hr.name_isProper))

/-- A campaign is cloned, and then cloned again.

If `git clone` failed for a repository and left nothing in its place, `git clone` is run for it
again: provided that all other entries are apart from it when its turn comes again, as they are if
their places differ and no directory of an organisation was a link (`clone_isApart`).

If the repository was cloned and the branch was not made, whether it was refused or `git checkout`
failed, the second clone skips the repository and runs nothing for it. -/
theorem clone_again (hx : Git.KeepsToPlaces x) (before : List Repository) (r : Repository)
    (after : List Repository) (hentries : ∀ q ∈ before ++ r :: after, q.IsEntry) {w v : Workshop σ}
    (hv : v.files = (clone x campaign (before ++ r :: after) root host w).files) :
    let first := clone x campaign before root host w
    let second := clone x campaign before root host v
    (∀ e, cloneEnd x campaign root host first r = .notCloned e →
        (∀ entry, (cloneOne x campaign root host first r).1.files.linkStatus (r.workDir root) ≠
          .ok entry) →
        (∀ q ∈ before ++ after, IsApart second.files root q r) →
        (cloneOne x campaign root host second r).2 ≠ .skipped ∧
          ∃ more, cloneCalls x campaign root host second r = Git.cloneCall root host r :: more) ∧
      (∀ e, cloneEnd x campaign root host first r = .noBranch e →
        (cloneOne x campaign root host second r).2 = .skipped ∧
          cloneCalls x campaign root host second r = []) := by
  intro first second
  have hr : r.IsEntry := hentries r (by simp)
  obtain ⟨hturn, -⟩ := cloneOne_turn x campaign root host first r
  obtain ⟨hturn₂, houtcome⟩ := cloneOne_turn x campaign root host second r
  obtain ⟨how, s, files, hlogged, hcalls⟩ := cloneCalls_eq x campaign root host second r
  -- from the end of the first turn to the second clone
  have hrest : v.files =
      (clone x campaign after root host (cloneStep x campaign root host first r)).files := by
    rw [hv, clone_append, clone_cons]
  have hlater : Within (cloneOne x campaign root host first r).1.files v.files := by
    rw [hrest]
    exact clone_within hx (fun q hq => hentries q (by simp [hq]))
      (cloneStep x campaign root host first r)
  have hagain : Within v.files second.files :=
    clone_within hx (fun q hq => hentries q (by simp [hq])) v
  constructor
  · intro e hend hleft hapart
    rw [hend] at hturn
    obtain ⟨base, dir, hawaits⟩ := hturn.awaits_of_notCloned hx hr hleft
    have hv' : Awaits root base dir r v.files := by
      rw [hrest] at hagain ⊢
      exact clone_awaits hx (fun q hq => hentries q (by simp [hq]))
        (fun q hq => (hapart q (by simp [hq])).earlier hagain) hawaits
    have hsecond : Awaits root base dir r second.files :=
      clone_awaits hx (fun q hq => hentries q (by simp [hq]))
        (fun q hq => hapart q (by simp [hq])) hv'
    refine ⟨houtcome ▸ (hsecond.turn hr hturn₂).1, ?_⟩
    rw [hcalls]
    exact (hsecond.turn hr hlogged).2
  · intro e hend
    rw [hend] at hturn
    have hthere : second.files.isPresent (r.workDir root) = true :=
      hturn.isPresent_of_noBranch hx hr
        (hlater.trans hagain)
    constructor
    · rw [houtcome, hturn₂.present_iff.2 hthere, CloneEnd.outcome]
    · rw [hcalls, hlogged.present_iff.2 hthere, endCalls]

end Workshop

/-! ## A plain `git` -/

namespace Git

/-- What a plain `git` does that fails for some URLs, and for some of them leaves the directory it
has made: it makes an empty directory for a clone, and nothing for a branch. -/
def plainly (fails leaves : String → Bool) (request : Request) (fs : FileSystem) :
    Except Error Unit × FileSystem :=
  match request.args with
  | ["clone", "--", url, name] =>
    let failed := Except.error (.commandFailed request.command "exit status: 128" "")
    if fs.isDirectory request.dir && (!fails url || leaves url) then
      match fs.makeDirectory (request.dir / name) with
      | .ok made => (if fails url then failed else .ok (), made)
      | .error _ => (failed, fs)
    else (failed, fs)
  | _ => (.ok (), fs)

/-- A plain `git`. -/
def plain (fails leaves : String → Bool) : Executor Unit where
  execute request _ fs :=
    .done ((plainly fails leaves request fs).1, (), (plainly fails leaves request fs).2)
  capture _ _ fs := .done (.ok "", (), fs)

variable {fails leaves : String → Bool} {dir : Path} {url name branch : String}
  {w w' : Workshop Unit} {result : Except Error Unit}

theorem clone_plain (h : clone (plain fails leaves) dir url name w = (w', result)) :
    (w'.files = w.files ∧ result ≠ .ok ()) ∨
      (w.files.isDirectory dir = true ∧ w.files.makeDirectory (dir / name) = .ok w'.files) := by
  simp only [clone, execute, plain, Talk.on, plainly] at h
  obtain ⟨rfl, rfl⟩ := Prod.mk.inj h
  cases hdir : w.files.isDirectory dir with
  | false => exact .inl (by simp)
  | true =>
    cases hasked : (!fails url || leaves url) with
    | false => exact .inl (by simp)
    | true =>
      cases hmade : w.files.makeDirectory (dir / name) with
      | error e => exact .inl (by simp)
      | ok made => exact .inr ⟨rfl, by simp⟩

theorem checkoutNew_plain (h : checkoutNew (plain fails leaves) dir branch w = (w', result)) :
    w'.files = w.files := by
  rw [checkoutNew] at h
  split at h
  · rw [← (Prod.mk.inj h).1]
  · rw [← (Prod.mk.inj h).1]
    rfl

/-- A plain `git` takes nothing away, whatever it is asked for. -/
theorem plainly_within (fails leaves : String → Bool) (request : Request) (fs : FileSystem) :
    Within fs (plainly fails leaves request fs).2 := by
  unfold plainly
  split
  · split
    · split
      · next hmade => exact (FileSystem.makeDirectory_adds hmade).extends.within
      · exact .refl fs
    · exact .refl fs
  · exact .refl fs

theorem isDirectory_of_clone_plain (h : clone (plain fails leaves) dir url name w = (w', .ok ())) :
    w'.files.isDirectory (dir / name) = true := by
  rcases clone_plain h with ⟨-, hfailed⟩ | ⟨-, hmade⟩
  · exact absurd rfl hfailed
  · obtain ⟨r, hr, hkind, -⟩ := FileSystem.isDirectory_of_makeDirectory hmade
    exact FileSystem.isDirectory_iff.2 ⟨r, hr, hkind⟩

/-- What a plain `git` makes stands in its place. -/
theorem keepsToPlaces_plain (fails leaves : String → Bool) :
    KeepsToPlaces (plain fails leaves) where
  clone_within h _ := by
    rw [← (Prod.mk.inj h).1]
    exact plainly_within _ _ _ _
  clone_makes h _ := isDirectory_of_clone_plain h
  clone_place {dir url name w w' result} h hname _ loc hloc := by
    rcases clone_plain h with ⟨hsame, -⟩ | ⟨hdir, hmade⟩
    · exact absurd (by rw [hsame]) hloc
    · obtain ⟨r, hr, hkind⟩ := FileSystem.isDirectory_iff.1 hdir
      refine ⟨r, hr, ?_⟩
      rcases (LeadsTo.of_directory hr hkind).makeDirectory_cases hname with
        ⟨e, he, -⟩ | ⟨hnone, hnew⟩
      · simp [he] at hmade
      · obtain rfl : loc = r.spot.location ++ [name] := by
          by_contra hne
          rw [hnew, Except.ok.injEq] at hmade
          refine hloc ?_
          rw [← hmade, FileSystem.item?_place _ rfl (Entries.kind?_eq_directory.1 hkind)
            (by simp [hnone]), if_neg hne]
        exact List.prefix_rfl
  clone_noLink h _ _ t ht := by
    rcases clone_plain h with ⟨-, hfailed⟩ | ⟨-, hmade⟩
    · exact absurd rfl hfailed
    · obtain ⟨parent, n, slash, hr, hparent, hnone, hnew⟩ := FileSystem.makeDirectory_eq_ok hmade
      have hr' := FileSystem.route_within
        (FileSystem.makeDirectory_adds hmade).extends.within hr (by simp)
      obtain ⟨r, hlink, -, hitem⟩ := FileSystem.readLink_eq_ok_iff.1 ht
      rw [hr', Except.ok.injEq] at hlink
      subst hlink
      rw [hnew, Spot.location, FileSystem.item?_place _ rfl hparent (by simp [hnone]),
        if_pos rfl] at hitem
      cases hitem
  branch_within h hbranch _ := by
    rw [checkoutNew_plain hbranch]
    exact .refl _
  branch_inside h hbranch _ _ loc hloc := absurd (by rw [checkoutNew_plain hbranch]) hloc

end Git

/-! ## Two clones -/

namespace Workshop

/-- How the turn of a repository ends in each of two clones, between which nothing happens. -/
def endsTwice (x : Executor Unit) (campaign : String) (root : Path) (before : List Repository)
    (r : Repository) (after : List Repository) (fs : FileSystem) : CloneEnd × CloneEnd :=
  let ends (fs : FileSystem) : CloneEnd :=
    cloneEnd x campaign root "host"
      (clone x campaign before root "host" { display := {}, files := fs, executor := () }) r
  let left := clone x campaign (before ++ r :: after) root "host"
    { display := {}, files := fs, executor := () }
  (ends fs, ends left.files)

/-- With a `git` that does not reach one of two hosts, and a campaign whose name is no branch: what
failed for the one is cloned again, and what was cloned from the other is not. -/
theorem clone_again_sample :
    let x := Git.plain (· == "https://down/org/a.git") fun _ => false
    let a : Repository := ⟨some "down", "org", "a"⟩
    let b : Repository := ⟨none, "org", "b"⟩
    let w : Workshop Unit := { display := {}, files := {}, executor := () }
    let v := clone x "-topic" [a, b] ⟨"work"⟩ "host" w
    ((cloneOne x "-topic" ⟨"work"⟩ "host" v a).2 ≠ .skipped ∧
        ∃ more, cloneCalls x "-topic" ⟨"work"⟩ "host" v a =
          Git.cloneCall ⟨"work"⟩ "host" a :: more) ∧
      cloneCalls x "-topic" ⟨"work"⟩ "host" (clone x "-topic" [a] ⟨"work"⟩ "host" v) b = [] := by
  intro x a b w v
  have hx : Git.KeepsToPlaces x := Git.keepsToPlaces_plain _ _
  have hentries : ∀ q ∈ [a, b], q.IsEntry := RepositoryList.isEntry_of_parse
    (show RepositoryList.parse "down/org/a\norg/b\n" = .ok [a, b] by decide +kernel)
  have hleft : ∀ entry, (cloneOne x "-topic" ⟨"work"⟩ "host" w a).1.files.linkStatus
      (a.workDir ⟨"work"⟩) ≠ .ok entry := by
    intro entry h
    have hno : ((cloneOne x "-topic" ⟨"work"⟩ "host" w a).1.files.linkStatus
        (a.workDir ⟨"work"⟩)).isOk = false := by decide +kernel
    simp [h, Except.isOk, Except.toBool] at hno
  have hplain : ∀ q ∈ [a, b], ∀ t, v.files.readLink ((⟨"work"⟩ : Path) / q.org) ≠ .ok t := by
    intro q hq t h
    have hno : ∀ q ∈ [a, b], (v.files.readLink ((⟨"work"⟩ : Path) / q.org)).isOk = false := by
      decide +kernel
    simpa [h, Except.isOk, Except.toBool] using hno q hq
  have hv : v.files = (clone x "-topic" ([] ++ a :: [b]) ⟨"work"⟩ "host" w).files := rfl
  have hv' : v.files = (clone x "-topic" ([a] ++ b :: []) ⟨"work"⟩ "host" w).files := rfl
  have hends : cloneEnd x "-topic" ⟨"work"⟩ "host" (clone x "-topic" [] ⟨"work"⟩ "host" w) a =
      .notCloned (.commandFailed "git" "exit status: 128" "") := by decide +kernel
  have hends' : cloneEnd x "-topic" ⟨"work"⟩ "host" (clone x "-topic" [a] ⟨"work"⟩ "host" w) b =
      .noBranch (.usage "invalid branch name '-topic'") := by decide +kernel
  constructor
  · have hlead : LeadsTo v.files ⟨"work"⟩ ["work"] := LeadsTo.of_directory? (by decide +kernel)
    refine (clone_again hx [] a [b] hentries hv).1 _ hends hleft fun q hq => ?_
    obtain rfl : q = b := by simpa using hq
    exact clone_isApart hx (by simpa using ⟨hentries b (by simp), hentries a (by simp)⟩) hlead
      (by decide) (by simpa using ⟨hplain b (by simp), hplain a (by simp)⟩)
  · exact ((clone_again hx [a] b [] hentries hv').2 _ hends').2

/-- Failed turns that are not made good by a second clone: where the name of the campaign is no
branch, where an entry on another host has the same place, where the directory of an organisation is
a link to that of another, and where `git` has left a directory behind. -/
theorem failed_then_present :
    let x := Git.plain (·.startsWith "https://down/") (·.endsWith "/partial.git")
    let failed : CloneEnd := .notCloned (.commandFailed "git" "exit status: 128" "")
    let a : Repository := ⟨none, "org", "a"⟩
    let linked : FileSystem :=
      { root := [("work", .directory [("org", .directory []), ("alias", .link "org")])] }
    Git.KeepsToPlaces x ∧
      endsTwice x "-topic" ⟨"work"⟩ [] a [] {} =
        (.noBranch (.usage "invalid branch name '-topic'"), .present) ∧
      endsTwice x "topic" ⟨"work"⟩ [] ⟨some "down", "org", "a"⟩ [a] {} = (failed, .present) ∧
      endsTwice x "topic" ⟨"work"⟩ [] ⟨some "down", "alias", "a"⟩ [a] linked = (failed, .present) ∧
      endsTwice x "topic" ⟨"work"⟩ [] ⟨some "down", "org", "partial"⟩ [] {} =
        (failed, .present) := by
  intro x failed a linked
  refine ⟨Git.keepsToPlaces_plain _ _, ?_⟩
  decide +kernel

end Workshop

end Fleet

import Fleet.Proofs.Files.Parents
import Fleet.Proofs.NewResultSet
import Fleet.Proofs.Recording
import Mathlib.Data.Prod.Basic

namespace Fleet

/-! # What making a result set makes

A new result set is a directory of its own, in the directory that its parent leads to, under a name
of a fixed form; there was nothing at its place, and it has the two buckets in it, each with its
list, and nothing else (`ResultSet.skeleton`).  All that was there before is as it was, and what is
new outside are directories that were made for the parent.  Main statement:
`ResultSet.create_confined`.
-/

open FileSystem (AddsDirectories Extends IsMadeFor IsName IsProper IsSegment LeadsTo)

namespace ResultSet

variable {s : ResultSet} {b : Bucket} {fs fs' : FileSystem} {here : Surroundings} {parent : Path}
  {campaign command : String} {base loc : Location}

/-! ## What is in it -/

/-- What is in a new result set. -/
def skeleton (command : String) : Entries :=
  [.successful, .failed].map fun b : Bucket =>
    (b.name, .directory [(listFile, .file (header b command).toUTF8 false)])

/-- A bucket that was not there is made with its list, and nothing else is. -/
theorem makeBucket_items (hbase : LeadsTo fs s.root base)
    (hnone : fs.root.item? (base ++ [b.name]) = none)
    (h : s.makeBucket command b fs = (fs', .ok ())) :
    Extends fs fs' ∧ ∀ l, fs'.root.item? l =
      if l = base ++ [b.name] ++ [listFile] then some (.file (header b command).toUTF8 false)
      else if l = base ++ [b.name] then some .directory else fs.root.item? l := by
  unfold makeBucket at h
  split at h
  · cases h
  next made hmade =>
  split at h
  · cases h
  next written hw =>
  cases h
  have hadds := FileSystem.makeDirectories_eq_adds hmade
  have hbase' := hbase.within hadds.extends.within
  have hdir := FileSystem.isDirectory_of_makeDirectories (bucket_isSegment b).join_ne_empty hmade
  -- what has come under the name of the bucket is a directory
  have hnoLink : ∀ t, made.root.item? (base ++ [b.name]) ≠ some (.link t) := by
    intro t ht
    cases hnone.symm.trans (hadds.item?_of_ne ht (by simp))
  obtain ⟨-, hbucket, -⟩ :=
    hbase'.directory_of_isDirectory (bucket_isProper b) (fun _ => hnoLink) hdir
  have hlead := hbase'.below (bucket_isProper b) (bucket_isName b) hbucket
  have hothers : ∀ l, l ≠ base ++ [b.name] → made.root.item? l = fs.root.item? l := by
    intro l hl
    have := hbase.makeDirectories (bucket_isProper b) hl
    rwa [show fs.makeDirectories (s.root / b.name) = (made, .ok ()) from hmade] at this
  have hfree : made.root.item? (base ++ [b.name] ++ [listFile]) = none := by
    rw [hothers _ (by simp)]
    exact Entries.item?_below_none (by simp [hnone]) (List.prefix_append _ _) (by simp)
  obtain ⟨dir, name, x, hr, -, hcwd, -⟩ := FileSystem.writeFile_eq_ok hw
  have hend := hlead.route_eq_of_noLink listFile_isProper (fun t => by rw [hfree]; simp) hr
  obtain ⟨rfl, rfl⟩ : dir = base ++ [b.name] ∧ name = listFile := by
    simpa using congrArg Route.spot hend
  have hwritten := FileSystem.writeFile_of_free hw hr hfree
  refine ⟨hadds.extends.trans ⟨hcwd, fun l e he => ?_⟩, fun l => ?_⟩
  · rw [hwritten, if_neg, he]
    rintro rfl
    rw [hfree] at he
    cases he
  · rw [hwritten]
    split
    · rfl
    · split
      · next he => rw [he, hbucket]
      · next hne => exact hothers l hne

/-- A directory with one file in it. -/
theorem item?_single (name : String) (c : ByteArray) (x : Bool) (more : Location) :
    Entries.item? [(name, .file c x)] more =
      if more = [name] then some (.file c x) else if more = [] then some .directory else none := by
  cases more with
  | nil => simp [Entries.item?_nil]
  | cons n rest =>
    rw [Entries.item?, Entries.get?_cons, Entries.find?]
    by_cases hn : name = n
    · cases rest <;> simp [hn, Node.entry]
    · simp [hn, Ne.symm hn, Entries.find?]

/-- What the skeleton has at a location. -/
theorem item?_skeleton (command : String) (more : Location) : (skeleton command).item? more =
    if more = [Bucket.failed.name, listFile] then
      some (.file (header .failed command).toUTF8 false)
    else if more = [Bucket.failed.name] then some .directory
    else if more = [Bucket.successful.name, listFile] then
      some (.file (header .successful command).toUTF8 false)
    else if more = [Bucket.successful.name] then some .directory
    else if more = [] then some .directory else none := by
  have hne : Bucket.successful.name ≠ Bucket.failed.name := by decide
  cases more with
  | nil => simp [Entries.item?_nil]
  | cons n rest =>
    rw [Entries.item?, Entries.get?_cons, skeleton, List.map_cons, List.map_cons, List.map_nil,
      Entries.find?, Entries.find?, Entries.find?]
    by_cases hs : Bucket.successful.name = n
    · subst hs
      rw [if_pos rfl]
      simpa [hne, Entries.item?] using
        item?_single listFile (header .successful command).toUTF8 false rest
    · rw [if_neg hs]
      by_cases hf : Bucket.failed.name = n
      · subst hf
        rw [if_pos rfl]
        simpa [hne.symm, Entries.item?] using
          item?_single listFile (header .failed command).toUTF8 false rest
      · simp [if_neg hf, Ne.symm hs, Ne.symm hf]

/-- With both buckets made, a directory in which there was nothing holds the skeleton, and nothing
else has changed. -/
theorem item?_of_makeBuckets {first : FileSystem} (hbase : LeadsTo fs s.root base)
    (hempty : ∀ more, more ≠ [] → fs.root.item? (base ++ more) = none)
    (hsucc : s.makeBucket command .successful fs = (first, .ok ()))
    (hfail : s.makeBucket command .failed first = (fs', .ok ())) :
    Extends fs fs' ∧ (∀ more, fs'.root.item? (base ++ more) = (skeleton command).item? more) ∧
      ∀ l, ¬ base <+: l → fs'.root.item? l = fs.root.item? l := by
  obtain ⟨hgrown, hitems⟩ := makeBucket_items hbase (hempty _ (by simp)) hsucc
  have hnone : first.root.item? (base ++ [Bucket.failed.name]) = none := by
    rw [hitems, if_neg, if_neg, hempty _ (by simp)]
    · simp [Bucket.name]
    · simp
  obtain ⟨hgrown', hitems'⟩ := makeBucket_items (hbase.within hgrown.within) hnone hfail
  refine ⟨hgrown.trans hgrown', fun more => ?_, fun l hl => ?_⟩
  · rw [hitems', hitems, item?_skeleton]
    simp only [List.append_assoc, List.append_cancel_left_eq, List.cons_append, List.nil_append]
    by_cases hmore : more = []
    · simp [hmore, hbase.directory]
    · rw [hempty more hmore, if_neg hmore]
  · have hne : ∀ more, l ≠ base ++ more := by
      rintro more rfl
      exact hl (List.prefix_append _ _)
    rw [hitems', hitems]
    simp [hne, List.append_assoc]

/-! ## Where it is -/

/-- The program stands in a directory that a path can name. -/
structure HasHere (fs : FileSystem) : Prop where
  directory : fs.root.item? fs.cwd = some .directory
  names : ∀ m ∈ fs.cwd, IsName m ∧ IsSegment m

theorem HasHere.extends (h : HasHere fs) (hfs : Extends fs fs') : HasHere fs' :=
  ⟨hfs.cwd ▸ hfs.items _ _ h.directory, hfs.cwd ▸ h.names⟩

theorem fromRoot_congr (hcwd : fs'.cwd = fs.cwd) (p : Path) : fromRoot fs' p = fromRoot fs p := by
  rw [fromRoot, fromRoot, hcwd]

/-- A path leads where it leads from the root. -/
theorem HasHere.leadsTo (h : HasHere fs) (hlead : LeadsTo fs (fromRoot fs parent) base) :
    LeadsTo fs parent base := by
  unfold fromRoot at hlead
  split at hlead
  · exact hlead
  next hrel =>
  have hrel : FileSystem.startsAtRoot parent.text = false := Bool.not_eq_true _ ▸ hrel
  have hnames : FileSystem.names (FileSystem.pathOf fs.cwd / parent.text).text =
      fs.cwd ++ FileSystem.names parent.text := by
    rw [FileSystem.names_join hrel, FileSystem.names_pathOf fun m hm => (h.names m hm).2]
  have hstart : fs.start (FileSystem.pathOf fs.cwd / parent.text) = [] :=
    start_of_startsAtRoot
      ((FileSystem.startsAtRoot_join hrel).trans (FileSystem.startsAtRoot_pathOf _)) fs
  refine ⟨hlead.directory, fun y hy => ?_⟩
  have hwalk := hlead.walk y hy
  rw [hnames, hstart, List.append_assoc, FileSystem.Walk.from_root_iff
    (fun m hm => (h.names m hm).1) (Entries.kind?_eq_directory.2 h.directory) (by simp)] at hwalk
  rwa [FileSystem.start, hrel]

/-- A path that is not refused from the root is not refused. -/
theorem not_refused_of_fromRoot (hne : parent.text ≠ "")
    (h : FileSystem.refused? (fromRoot fs parent) = none) : FileSystem.refused? parent = none := by
  unfold fromRoot at h
  split at h
  · exact h
  next hrel =>
  have hrel : FileSystem.startsAtRoot parent.text = false := Bool.not_eq_true _ ▸ hrel
  obtain ⟨hnul, -, hfits⟩ := FileSystem.refused?_eq_none_iff.1 h
  obtain ⟨front, hfront⟩ := FileSystem.join_isSuffix (p := FileSystem.pathOf fs.cwd) hrel
  have hfront : (FileSystem.pathOf fs.cwd / parent.text).text =
      String.ofList front ++ parent.text := String.toList_inj.1 (by simp [← hfront])
  rw [hfront, String.utf8ByteSize_append] at hfits
  refine FileSystem.refused?_eq_none_iff.2 ⟨fun hmem => hnul ?_, hne, by omega⟩
  simp [hfront, hmem]

/-! ## The whole -/

/-- A name with every character that may not stand in the name of a directory replaced. -/
structure IsSanitized (name n : String) : Prop where
  length : n.length = name.length
  chars : ∀ (i : Nat) (c : Char), name.toList[i]? = some c → n.toList[i]? =
    some (if Text.isAlphanumeric c = true ∨ c = '-' ∨ c = '_' ∨ c = '.' then c else '-')
  noSlash : '/' ∉ n.toList
  again : sanitize n = n

theorem sanitize_isSanitized (name : String) : IsSanitized name (sanitize name) where
  length := length_sanitize name
  chars := by
    intro i c hc
    simp [sanitize, hc, sanitizeChar, or_assoc]
  noSlash := slash_notMem_sanitize name
  again := sanitize_sanitize name

/-- What making a result set in the directory at `base` makes of the files: the new directory is
the one at `base` with the name. -/
structure IsConfined (parent : Path) (base : Location) (name command : String)
    (fs fs' : FileSystem) : Prop where
  above : fs'.canonical (fromRoot fs parent) = .ok (FileSystem.pathOf base)
  aboveHere : HasHere fs → parent.text ≠ "" → fs'.canonical parent = .ok (FileSystem.pathOf base)
  free : fs.root.item? (base ++ [name]) = none
  absent : fs.isPresent (FileSystem.pathOf (base ++ [name])) = false
  contents : ∀ more, fs'.root.item? (base ++ [name] ++ more) = (skeleton command).item? more
  kept : Extends fs fs'
  outside : ∀ l, fs'.root.item? l ≠ fs.root.item? l →
    base ++ [name] <+: l ∨ IsMadeFor parent fs fs' l

/-- What becomes of the files, by the steps in which a result set is made. -/
theorem isConfined_of_create (h : create here parent campaign command fs = (fs', .ok s)) :
    ∃ base, ∃ suffix ∈ here.suffixes,
      s.root = FileSystem.pathOf (base ++ [dirName campaign suffix]) ∧
      s.location = base ++ [dirName campaign suffix] ∧
      IsConfined parent base (dirName campaign suffix) command fs fs' := by
  unfold create at h
  split at h
  · cases h
  next made hmade =>
  split at h
  · cases h
  next dir fresh hfresh =>
  split at h
  · cases h
  next root hroot =>
  simp only at h
  split at h
  · cases h
  next first hsucc =>
  split at h
  · cases h
  next last hfail =>
  cases h
  have hparent := FileSystem.makeDirectories_eq_adds hmade
  obtain ⟨suffix, hmem, base, rfl, hfresh⟩ :=
    isFreshIn_of_makeFresh (startsAtRoot_fromRoot made parent) hfresh hroot
  obtain ⟨hkept, hcontents, houtside⟩ :=
    item?_of_makeBuckets hfresh.directory hfresh.empty hsucc hfail
  have hgrown := hfresh.grown.trans hkept
  have hall := hparent.extends.trans hgrown
  have hfree := FileSystem.item?_none_of_extends hparent.extends hfresh.free
  have hrefused := hfresh.accepted
  have habove := hfresh.leadsTo.within hgrown.within
  rw [fromRoot_congr hparent.cwd] at hrefused habove
  refine ⟨base, suffix, hmem, rfl, FileSystem.names_pathOf fun m hm => (hfresh.names m hm).2,
    habove.canonical_eq hrefused, fun hhere hne => ?_, hfree,
    (hfresh.directory.within hkept.within).not_isPresent hall.within hfree, hcontents, hall,
    fun l hl => ?_⟩
  · rw [← fromRoot_congr hall.cwd] at hrefused habove
    exact ((hhere.extends hall).leadsTo habove).canonical_eq (not_refused_of_fromRoot hne hrefused)
  · by_cases hin : base ++ [dirName campaign suffix] <+: l
    · exact .inl hin
    · have hne : l ≠ base ++ [dirName campaign suffix] := by
        rintro rfl
        exact hin List.prefix_rfl
      have hsame := (houtside l hin).trans (hfresh.others l hne)
      have hmissing : (fs.makeDirectories parent).1.root.item? l ≠ fs.root.item? l →
          IsMadeFor parent fs _ l := FileSystem.isMadeFor_of_makeDirectories
      rw [hmade] at hmissing
      exact .inr ((hmissing (hsame ▸ hl)).within hgrown.within hsame)

/-- A result set that could be made is a new directory in the one that the path of its parent leads
to, with a name of the fixed form; in it there are the buckets with their lists and nothing else,
and outside it all that was there is as it was. -/
theorem create_confined (h : create here parent campaign command fs = (fs', .ok s)) :
    ∃ base n, ∃ suffix ∈ here.suffixes,
      s.root = FileSystem.pathOf (base ++ ["fleetrun-foreach-" ++ n ++ "-" ++ suffix.text]) ∧
      IsSanitized campaign n ∧ (∀ c ∈ suffix.text.toList, c.isAlphanum = true) ∧
      IsConfined parent base ("fleetrun-foreach-" ++ n ++ "-" ++ suffix.text) command fs fs' := by
  obtain ⟨base, suffix, hmem, hroot, -, hconfined⟩ := isConfined_of_create h
  exact ⟨base, sanitize campaign, suffix, hmem, hroot, sanitize_isSanitized campaign,
    List.all_eq_true.1 suffix.alphanumeric, hconfined⟩

/-- The parent is a link to another directory, and the name has to be changed. -/
theorem create_confined_sample :
    let here : Surroundings := ⟨1, ⟨"/tmp"⟩, [⟨"a1", by decide⟩]⟩
    let fs : FileSystem := { root := [("results", .link "kept"), ("kept", .directory [])] }
    HasHere fs ∧ ∃ fs' s base name,
      create here ⟨"results"⟩ "bump deps/v2" "true" fs = (fs', .ok s) ∧
      s.root = ⟨"/kept/fleetrun-foreach-bump-deps-v2-a1"⟩ ∧
      IsConfined ⟨"results"⟩ base name "true" fs fs' := by
  intro here fs
  have hok : (create here ⟨"results"⟩ "bump deps/v2" "true" fs).2 =
      .ok ⟨⟨"/kept/fleetrun-foreach-bump-deps-v2-a1"⟩⟩ := by
    decide +kernel
  have hcreate := Prod.snd_eq_iff.1 hok
  obtain ⟨base, n, suffix, -, -, -, -, hconfined⟩ := create_confined hcreate
  exact ⟨⟨rfl, by simp [fs]⟩, _, _, base, _, hcreate, rfl, hconfined⟩

end ResultSet

end Fleet

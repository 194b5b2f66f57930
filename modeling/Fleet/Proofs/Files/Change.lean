import Fleet.Proofs.Files.Growth

namespace Fleet.FileSystem

/-! # What one change makes of the files

For each change that succeeds: where its path led, what stood there, and what every location holds
afterwards.
-/

variable {fs fs' : FileSystem} {p : Path}

theorem hasDirectory_iff {loc : Location} :
    fs.hasDirectory loc = true ↔ fs.root.item? loc = some .directory := by
  simp only [hasDirectory, Entries.item?]
  cases fs.root.get? loc with
  | none => simp
  | some node => cases node <;> simp [Node.isDirectory, Node.entry]

@[simp] theorem without_cwd (fs : FileSystem) (loc : Location) :
    (fs.without loc).cwd = fs.cwd := rfl

/-- A leaf put in a directory, where there is none. -/
theorem item?_place {dir : Location} {name : String} (node : Node) (hleaf : node.isLeaf = true)
    (hdir : fs.root.item? dir = some .directory)
    (hnot : fs.root.item? (dir ++ [name]) ≠ some .directory) (loc : Location) :
    (fs.place (dir ++ [name]) node).root.item? loc =
      if loc = dir ++ [name] then some node.entry else fs.root.item? loc := by
  rw [place, Entries.item?_set_leaf name hleaf hdir]
  split
  · rfl
  · next hne =>
    split
    · next hp => rw [Entries.item?_below_none hnot hp hne]
    · rfl

theorem item?_without {loc : Location} (hne : loc ≠ []) (other : Location) :
    (fs.without loc).root.item? other = if loc <+: other then none else fs.root.item? other :=
  Entries.item?_erase hne other

/-- What is taken out was all there before. -/
theorem without_extends {loc : Location} (hne : loc ≠ []) : Extends (fs.without loc) fs := by
  refine ⟨rfl, fun other e he => ?_⟩
  rw [item?_without hne] at he
  split at he
  · cases he
  · exact he

/-- Something stands under a name, so its directory is there. -/
theorem item?_directory_above {dir : Location} {name : String} {e : Entry}
    (h : fs.root.item? (dir ++ [name]) = some e) : fs.root.item? dir = some .directory :=
  Entries.item?_directory_of_below h (by simp)

theorem addNew_eq_ok {dir : Location} {name : String} {node : Node}
    (h : fs.addNew dir name node = .ok fs') :
    fs.root.item? dir = some .directory ∧ fs' = fs.place (dir ++ [name]) node := by
  simp only [addNew] at h
  split at h
  · next hd => exact ⟨hasDirectory_iff.1 hd, (Except.ok.inj h).symm⟩
  · cases h

/-! ## Directories -/

theorem makeDirectory_eq_ok (h : fs.makeDirectory p = .ok fs') :
    ∃ dir name slash, fs.route false p = .ok ⟨.named dir name, slash⟩ ∧
      fs.root.item? dir = some .directory ∧ fs.root.item? (dir ++ [name]) = none ∧
      fs' = fs.place (dir ++ [name]) (.directory []) := by
  obtain ⟨⟨spot, slash⟩, hr, h⟩ := bind_eq_ok.1 h
  cases spot with
  | inside loc => cases h
  | named dir name =>
    simp only at h
    split at h
    · cases h
    · next hnone =>
      obtain ⟨hd, hfs'⟩ := addNew_eq_ok h
      exact ⟨dir, name, slash, hr, hd, Entries.get?_eq_none.1 hnone, hfs'⟩

theorem makeDirectory_adds (h : fs.makeDirectory p = .ok fs') : AddsDirectories fs fs' := by
  obtain ⟨dir, name, slash, -, hd, hnone, rfl⟩ := makeDirectory_eq_ok h
  refine ⟨rfl, fun loc => ?_⟩
  rw [item?_place _ rfl hd (by simp [hnone])]
  split
  · next he => exact .inr ⟨he ▸ hnone, rfl⟩
  · exact .inl rfl

theorem makeMissing_adds (ps : List Path) : AddsDirectories fs (fs.makeMissing ps).1 := by
  -- a path is tried before its ancestors are made and once more behind them
  induction ps with
  | nil => exact .refl fs
  | cons p above ih =>
    rw [makeMissing]
    split
    · exact .refl fs
    · split
      · next made hmade => exact makeDirectory_adds hmade
      · split
        · split
          · next made e habove => rw [habove] at ih; exact ih
          · next made habove =>
            rw [habove] at ih
            split
            · next done hdone => exact ih.trans (makeDirectory_adds hdone)
            · exact ih
        · exact .refl fs

/-- Making a directory with its parents only adds directories, also when it stops on the way. -/
theorem makeDirectories_adds (fs : FileSystem) (p : Path) :
    AddsDirectories fs (fs.makeDirectories p).1 :=
  makeMissing_adds p.ancestors

/-! ## Files -/

theorem writeFile_eq_ok {content : ByteArray} (h : fs.writeFile p content = .ok fs') :
    ∃ dir name x, fs.route (!endsInSlash p.text) p = .ok ⟨.named dir name, false⟩ ∧
      (fs.root.item? (dir ++ [name]) = none ∨
        ∃ old, fs.root.item? (dir ++ [name]) = some (.file old x)) ∧
      fs'.cwd = fs.cwd ∧ ∀ loc, fs'.root.item? loc =
        if loc = dir ++ [name] then some (.file content x) else fs.root.item? loc := by
  obtain ⟨⟨spot, slash⟩, hr, h⟩ := bind_eq_ok.1 h
  cases spot with
  | inside loc => cases h
  | named dir name =>
    simp only at h
    split at h
    · cases h
    next hslash =>
    rw [Bool.not_eq_true] at hslash
    subst hslash
    split at h
    · next hnone =>
      obtain ⟨hd, rfl⟩ := addNew_eq_ok h
      have hnone := Entries.get?_eq_none.1 hnone
      exact ⟨dir, name, false, hr, .inl hnone, rfl, item?_place _ rfl hd (by simp [hnone])⟩
    · -- a file that is there can be run afterwards if it could before
      next old x hold =>
      have hold : fs.root.item? (dir ++ [name]) = some (.file old x) := Entries.item?_of_get? hold
      cases h
      exact ⟨dir, name, x, hr, .inr ⟨old, hold⟩, rfl,
        item?_place _ rfl (item?_directory_above hold) (by simp [hold])⟩
    · cases h

/-- A file that comes where nothing was cannot be run. -/
theorem writeFile_of_free {content : ByteArray} {dir : Location} {name : String}
    (h : fs.writeFile p content = .ok fs')
    (hr : fs.route (!endsInSlash p.text) p = .ok ⟨.named dir name, false⟩)
    (hnone : fs.root.item? (dir ++ [name]) = none) (loc : Location) :
    fs'.root.item? loc =
      if loc = dir ++ [name] then some (.file content false) else fs.root.item? loc := by
  simp only [writeFile, hr, bind, Except.bind, Entries.get?_eq_none.2 hnone, Bool.false_eq_true,
    if_false] at h
  obtain ⟨hdir, rfl⟩ := addNew_eq_ok h
  exact item?_place _ rfl hdir (by simp [hnone]) loc

/-- A file that is new, or was a file before, takes nothing away. -/
theorem Within.of_file {loc : Location} {content : ByteArray} {x : Bool} (hcwd : fs'.cwd = fs.cwd)
    (hwas : fs.root.item? loc = none ∨ ∃ old, fs.root.item? loc = some (.file old x))
    (hitems : ∀ l, fs'.root.item? l =
      if l = loc then some (.file content x) else fs.root.item? l) : Within fs fs' := by
  refine ⟨hcwd, fun l k hk => ?_⟩
  rw [Entries.kind?, hitems]
  split
  · next he =>
    rw [Entries.kind?, he] at hk
    rcases hwas with hnone | ⟨old, hold⟩
    · rw [hnone] at hk
      cases hk
    · rwa [hold] at hk
  · exact hk

/-- Writing a file takes nothing away, though the file may have held something else. -/
theorem writeFile_within {content : ByteArray} (h : fs.writeFile p content = .ok fs') :
    Within fs fs' := by
  obtain ⟨dir, name, x, -, hwas, hcwd, hitems⟩ := writeFile_eq_ok h
  exact .of_file hcwd hwas hitems

theorem appendText_of_file {r : Route} {content : ByteArray} {x : Bool} (text : String)
    (hr : fs.route true p = .ok r) (hslash : r.slash = false)
    (hfile : fs.root.item? r.spot.location = some (.file content x)) :
    ∃ fs', fs.appendText p text = .ok fs' ∧ fs'.cwd = fs.cwd ∧ ∀ loc, fs'.root.item? loc =
      if loc = r.spot.location then some (.file (content ++ text.toUTF8) x)
      else fs.root.item? loc := by
  have hs := status_eq_ok_iff.2 ⟨r, hr, rfl, Entries.get?_of_item?_file hfile, by simp [hslash]⟩
  refine ⟨fs.place r.spot.location (.file (content ++ text.toUTF8) x), ?_, rfl, ?_⟩
  · simp [appendText, hs, bind, Except.bind]
  · obtain ⟨dir, name, hloc⟩ : ∃ dir name, r.spot.location = dir ++ [name] := by
      rcases List.eq_nil_or_concat r.spot.location with hnil | ⟨dir, name, hl⟩
      · rw [hnil, Entries.item?_nil] at hfile
        cases hfile
      · exact ⟨dir, name, by simpa using hl⟩
    rw [hloc] at hfile ⊢
    exact item?_place _ rfl (item?_directory_above hfile) (by simp [hfile])

/-- Adding to a file takes nothing away. -/
theorem appendText_within {text : String} (h : fs.appendText p text = .ok fs') : Within fs fs' := by
  obtain ⟨⟨loc, node⟩, hs, hput⟩ := bind_eq_ok.1 h
  cases node with
  | file content x =>
    obtain ⟨r, hr, rfl, hget, hslash⟩ := status_eq_ok_iff.1 hs
    have hfile := Entries.item?_of_get? hget
    obtain ⟨fs'', happend, hcwd, hitems⟩ :=
      appendText_of_file text hr (by simpa [Node.isDirectory] using hslash) hfile
    obtain rfl := Except.ok.inj (h.symm.trans happend)
    exact .of_file hcwd (.inr ⟨content, hfile⟩) hitems
  | link t => cases hput
  | directory inside => cases hput

/-! ## Links -/

theorem removeFile_eq_ok (h : fs.removeFile p = .ok fs') :
    ∃ dir name, fs.route false p = .ok ⟨.named dir name, false⟩ ∧
      fs.root.item? (dir ++ [name]) ≠ some .directory ∧
      fs.root.item? (dir ++ [name]) ≠ none ∧ fs' = fs.without (dir ++ [name]) := by
  obtain ⟨⟨spot, slash⟩, hr, h⟩ := bind_eq_ok.1 h
  cases spot with
  | inside loc => cases h
  | named dir name =>
    simp only at h
    split at h
    · cases h
    · cases h
    next node hnot hnode =>
    split at h
    · cases h
    next hslash =>
    rw [Bool.not_eq_true] at hslash
    subst hslash
    have hitem := Entries.item?_of_get? hnode
    refine ⟨dir, name, hr, ?_, by simp [hitem], (Except.ok.inj h).symm⟩
    cases node with
    | directory inside => exact absurd rfl (hnot inside)
    | file c x => simp [hitem, Node.entry]
    | link t => simp [hitem, Node.entry]

/-- A file or a link can be taken out. -/
theorem removeFile_of_item {dir : Location} {name : String} {e : Entry}
    (hr : fs.route false p = .ok ⟨.named dir name, false⟩)
    (he : fs.root.item? (dir ++ [name]) = some e) (hne : e ≠ .directory) :
    fs.removeFile p = .ok (fs.without (dir ++ [name])) := by
  obtain ⟨node, hnode, rfl⟩ := Option.map_eq_some_iff.1 he
  cases node with
  | directory inside => exact absurd rfl hne
  | file c x => simp [removeFile, hr, hnode, bind, Except.bind]
  | link t => simp [removeFile, hr, hnode, bind, Except.bind]

/-- The view of what is left: nothing was below what was taken out. -/
theorem item?_without_leaf {dir : Location} {name : String}
    (hnot : fs.root.item? (dir ++ [name]) ≠ some .directory) (loc : Location) :
    (fs.without (dir ++ [name])).root.item? loc =
      if loc = dir ++ [name] then none else fs.root.item? loc := by
  rw [item?_without (by simp)]
  by_cases hl : loc = dir ++ [name]
  · simp [hl]
  · rw [if_neg hl]
    split
    · next hp => exact (Entries.item?_below_none hnot hp hl).symm
    · rfl

/-- A link has come where nothing was, and all else is as it was. -/
structure IsLinked (target : String) (p : Path) (dir : Location) (name : String)
    (fs fs' : FileSystem) : Prop where
  route : fs.route false p = .ok ⟨.named dir name, false⟩
  free : fs.root.item? (dir ++ [name]) = none
  cwd : fs'.cwd = fs.cwd
  items : ∀ loc, fs'.root.item? loc =
    if loc = dir ++ [name] then some (.link target) else fs.root.item? loc

theorem makeLink_eq_ok {target : String} (h : fs.makeLink target p = .ok fs') :
    ∃ dir name, IsLinked target p dir name fs fs' := by
  unfold makeLink at h
  split at h
  · cases h
  obtain ⟨⟨spot, slash⟩, hr, h⟩ := bind_eq_ok.1 h
  cases spot with
  | inside loc => cases h
  | named dir name =>
    simp only at h
    split at h
    · cases h
    next hnone =>
    split at h
    · cases h
    next hslash =>
    rw [Bool.not_eq_true] at hslash
    subst hslash
    have hfree := Entries.get?_eq_none.1 hnone
    obtain ⟨hd, rfl⟩ := addNew_eq_ok h
    exact ⟨dir, name, hr, hfree, rfl, item?_place _ rfl hd (by simp [hfree])⟩

section IsLinked

variable {target name : String} {dir : Location}

theorem IsLinked.there (h : IsLinked target p dir name fs fs') :
    fs'.root.item? (dir ++ [name]) = some (.link target) :=
  (h.items _).trans (if_pos rfl)

theorem IsLinked.extends (h : IsLinked target p dir name fs fs') : Extends fs fs' := by
  refine ⟨h.cwd, fun loc e he => ?_⟩
  rw [h.items, if_neg, he]
  rintro rfl
  rw [h.free] at he
  cases he

theorem IsLinked.route_after (h : IsLinked target p dir name fs fs') :
    fs'.route false p = .ok ⟨.named dir name, false⟩ :=
  route_within h.extends.within h.route (by simp)

/-- A link that was made can be taken out, and then all is as it was. -/
theorem IsLinked.removeFile (h : IsLinked target p dir name fs fs') :
    ∃ left, fs'.removeFile p = .ok left ∧ Unchanged fs left := by
  refine ⟨_, removeFile_of_item h.route_after h.there (by simp), h.cwd, fun loc => ?_⟩
  rw [item?_without_leaf (by simp [h.there]), h.items]
  split
  · next he => rw [he, h.free]
  · rfl

end IsLinked

theorem mayReplace_link_eq_ok {t : String} {there : Node} :
    mayReplace (.link t) there = .ok () ↔ there.entry ≠ .directory := by
  cases there <;> simp [mayReplace, Node.entry]

/-- The view of a file system in which a link has gone to another place. -/
theorem item?_moved {dir dir' : Location} {name name' t : String}
    (hlink : fs.root.item? (dir ++ [name]) = some (.link t))
    (hdir : fs.root.item? dir' = some .directory)
    (hnot : fs.root.item? (dir' ++ [name']) ≠ some .directory)
    (hne : dir' ++ [name'] ≠ dir ++ [name]) (loc : Location) :
    ((fs.without (dir ++ [name])).place (dir' ++ [name']) (.link t)).root.item? loc =
      if loc = dir' ++ [name'] then some (.link t)
      else if loc = dir ++ [name] then none else fs.root.item? loc := by
  have hleaf : fs.root.item? (dir ++ [name]) ≠ some .directory := by simp [hlink]
  have hleft := item?_without_leaf hleaf
  -- the link is not above the place it goes to
  have hdir' : dir' ≠ dir ++ [name] := by
    rintro rfl
    exact hleaf hdir
  have habove : (fs.without (dir ++ [name])).root.item? dir' = some .directory := by
    rw [hleft, if_neg hdir', hdir]
  have hfree : (fs.without (dir ++ [name])).root.item? (dir' ++ [name']) ≠ some .directory := by
    rw [hleft, if_neg hne]
    exact hnot
  rw [item?_place _ rfl habove hfree, hleft]
  rfl

/-- A link that is moved: it takes the place of what was there, which was no directory. -/
theorem rename_link_eq_ok {source target : Path} {dir : Location} {name t : String} {slash : Bool}
    (hsource : fs.route false source = .ok ⟨.named dir name, slash⟩)
    (hlink : fs.root.item? (dir ++ [name]) = some (.link t))
    (h : fs.rename source target = .ok fs') :
    ∃ dir' name', fs.route false target = .ok ⟨.named dir' name', false⟩ ∧
      (dir ++ [name] = dir' ++ [name'] ∨
        (fs.root.item? (dir' ++ [name']) ≠ some .directory ∧ fs'.cwd = fs.cwd ∧
          ∀ loc, fs'.root.item? loc = if loc = dir' ++ [name'] then some (.link t)
            else if loc = dir ++ [name] then none else fs.root.item? loc)) := by
  have hnode := Entries.get?_of_item?_link hlink
  obtain ⟨old, hold, h⟩ := bind_eq_ok.1 h
  obtain ⟨⟨spot, slash'⟩, hr, h⟩ := bind_eq_ok.1 h
  rw [hsource] at hold
  cases hold
  cases spot with
  | inside loc => cases h
  | named dir' name' =>
    simp only [hnode] at h
    split at h
    · cases h
    next hslash =>
    obtain rfl : slash' = false := by
      cases slash'
      · rfl
      · simp [Node.isDirectory] at hslash
    refine ⟨dir', name', hr, ?_⟩
    split at h
    · next he => exact .inl he
    next hne =>
    split at h
    · cases h
    split at h
    · cases h
    refine .inr ?_
    -- a link takes the place of whatever is there, unless that is a directory
    split at h
    · next there hthere =>
      have hitem := Entries.item?_of_get? hthere
      obtain ⟨⟨⟩, hmay, h⟩ := bind_eq_ok.1 h
      have hnot : fs.root.item? (dir' ++ [name']) ≠ some .directory := by
        rw [hitem]
        simpa using mayReplace_link_eq_ok.1 hmay
      cases h
      exact ⟨hnot, rfl, item?_moved hlink (item?_directory_above hitem) hnot (Ne.symm hne)⟩
    · next hnone =>
      split at h
      · next hdir =>
        have hnot : fs.root.item? (dir' ++ [name']) ≠ some .directory := by
          simp [Entries.get?_eq_none.1 hnone]
        cases h
        exact ⟨hnot, rfl, item?_moved hlink (hasDirectory_iff.1 hdir) hnot (Ne.symm hne)⟩
      · cases h

end Fleet.FileSystem

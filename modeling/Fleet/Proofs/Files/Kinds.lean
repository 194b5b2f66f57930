import Fleet.Proofs.Files.Change

namespace Fleet.FileSystem

/-! # What does not depend on what files hold

If the same kinds of things stand in the same places (`SameKinds`), then every path leads to the
same place, so a directory can be made in the one state exactly if it can be made in the other
(`SameKinds.makeMissing`), and a file can be written in the one exactly if it can in the other
(`SameKinds.writeFile`).
-/

/-- The same kinds of things stand in the same places, whatever the files hold. -/
structure SameKinds (fs fs' : FileSystem) : Prop where
  cwd : fs'.cwd = fs.cwd
  kinds : ∀ loc, fs'.root.kind? loc = fs.root.kind? loc

variable {fs fs' : FileSystem} {p : Path}

theorem SameKinds.symm (h : SameKinds fs fs') : SameKinds fs' fs :=
  ⟨h.cwd.symm, fun loc => (h.kinds loc).symm⟩

theorem SameKinds.refl (fs : FileSystem) : SameKinds fs fs := ⟨rfl, fun _ => rfl⟩

theorem SameKinds.within (h : SameKinds fs fs') : Within fs fs' :=
  ⟨h.cwd, fun loc _ hk => (h.kinds loc).trans hk⟩

theorem SameKinds.links (h : SameKinds fs fs') (l : Location) (t : String)
    (ht : fs'.root.item? l = some (.link t)) : fs.root.item? l = some (.link t) := by
  rw [← Entries.kind?_eq_link] at ht ⊢
  rwa [← h.kinds]

/-- A file may hold something else. -/
theorem SameKinds.of_file {loc : Location} {old new : ByteArray} {x : Bool}
    (hcwd : fs'.cwd = fs.cwd) (hold : fs.root.item? loc = some (.file old x))
    (hitems : ∀ l, fs'.root.item? l = if l = loc then some (.file new x) else fs.root.item? l) :
    SameKinds fs fs' := by
  refine ⟨hcwd, fun l => ?_⟩
  rw [Entries.kind?, Entries.kind?, hitems]
  split
  · next he => simp [he, hold]
  · rfl

/-! ## Paths -/

theorem walkNames_congr {root root' : Entries} (h : ∀ loc, root'.kind? loc = root.kind? loc)
    (jump : Location → List String → Bool → Except IoError Route) (followLast slash : Bool)
    (loc : Location) (ns : List String) :
    walkNames root' jump followLast slash loc ns = walkNames root jump followLast slash loc ns := by
  induction ns generalizing loc with
  | nil => rfl
  | cons name rest ih =>
    rcases name_cases name with rfl | rfl | ⟨h1, h2, h3⟩ | hname
    · simp [walkNames, ih]
    · simp [walkNames, ih]
    · simp [walkNames, h1, h2, h3]
    · rw [walkNames_cons root' _ _ _ _ _ hname, walkNames_cons root _ _ _ _ _ hname, h, ih]

theorem walk_congr {root root' : Entries} (h : ∀ loc, root'.kind? loc = root.kind? loc)
    (followLast : Bool) (n : Nat) : walk root' followLast n = walk root followLast n := by
  induction n with
  | zero =>
    funext loc ns slash
    exact walkNames_congr h _ followLast slash loc ns
  | succ n ih =>
    funext loc ns slash
    rw [walk, walk, ih]
    exact walkNames_congr h _ followLast slash loc ns

theorem SameKinds.route_eq (h : SameKinds fs fs') (followLast : Bool) (p : Path) :
    fs'.route followLast p = fs.route followLast p := by
  rw [route, route, walk_congr h.kinds, h.cwd]

theorem SameKinds.isDirectory_eq (h : SameKinds fs fs') (p : Path) :
    fs'.isDirectory p = fs.isDirectory p := by
  rw [Bool.eq_iff_iff, isDirectory_iff, isDirectory_iff]
  simp only [h.route_eq, h.kinds]

/-! ## Directories -/

/-- A directory is made in both or in neither. -/
theorem SameKinds.makeDirectory_cases (h : SameKinds fs fs') (p : Path) :
    (∃ e, fs.makeDirectory p = .error e ∧ fs'.makeDirectory p = .error e) ∨
      ∃ made made', fs.makeDirectory p = .ok made ∧ fs'.makeDirectory p = .ok made' ∧
        SameKinds made made' := by
  simp only [makeDirectory, h.route_eq]
  rcases fs.route false p with e | ⟨loc | ⟨dir, name⟩, slash⟩
  · exact .inl ⟨e, rfl, rfl⟩
  · exact .inl ⟨_, rfl, rfl⟩
  simp only [bind, Except.bind]
  have hthere := h.kinds (dir ++ [name])
  cases hold : fs.root.get? (dir ++ [name]) with
  | some node =>
    obtain ⟨node', hnode'⟩ : ∃ node', fs'.root.get? (dir ++ [name]) = some node' := by
      refine Option.ne_none_iff_exists'.1 fun hnone => ?_
      simp [Entries.kind?, Entries.item?, hold, hnone] at hthere
    exact .inl ⟨_, rfl, by rw [hnode']⟩
  | none =>
    have hnew : fs'.root.get? (dir ++ [name]) = none := by
      simpa [Entries.kind?, Entries.item?, hold] using hthere
    rw [hnew]
    have hdir : fs'.hasDirectory dir = fs.hasDirectory dir := by
      rw [Bool.eq_iff_iff, hasDirectory_iff, hasDirectory_iff, ← Entries.kind?_eq_directory,
        ← Entries.kind?_eq_directory, h.kinds]
    simp only [addNew, hdir]
    split
    · next hhas =>
      refine .inr ⟨_, _, rfl, rfl, h.cwd, fun loc => ?_⟩
      have hfree : fs.root.item? (dir ++ [name]) ≠ some .directory := by
        simp [Entries.get?_eq_none.1 hold]
      have hfree' : fs'.root.item? (dir ++ [name]) ≠ some .directory := by
        simp [Entries.get?_eq_none.1 hnew]
      rw [Entries.kind?, Entries.kind?, item?_place _ rfl (hasDirectory_iff.1 hhas) hfree,
        item?_place _ rfl (hasDirectory_iff.1 (hdir.trans hhas)) hfree']
      split
      · rfl
      · exact h.kinds loc
    · exact .inl ⟨_, rfl, rfl⟩

/-- Directories with their parents are made in both alike, and it ends in the same way. -/
theorem SameKinds.makeMissing (h : SameKinds fs fs') (ps : List Path) :
    (fs'.makeMissing ps).2 = (fs.makeMissing ps).2 ∧
      SameKinds (fs.makeMissing ps).1 (fs'.makeMissing ps).1 := by
  induction ps with
  | nil => exact ⟨rfl, h⟩
  | cons p above ih =>
    rw [FileSystem.makeMissing, FileSystem.makeMissing]
    split
    · exact ⟨rfl, h⟩
    rcases h.makeDirectory_cases p with ⟨e, he, he'⟩ | ⟨made, made', hm, hm', hsame⟩
    · simp only [he, he']
      split
      · -- the parents are made in both alike, and then it is tried once more
        obtain ⟨hend, hsame⟩ := ih
        rcases habove : fs.makeMissing above with ⟨made, result⟩
        rcases habove' : fs'.makeMissing above with ⟨made', result'⟩
        rw [habove, habove'] at hend hsame
        obtain rfl : result' = result := hend
        cases result' with
        | error e => exact ⟨rfl, hsame⟩
        | ok _ =>
          rcases hsame.makeDirectory_cases p with ⟨e, he, he'⟩ | ⟨done, done', hd, hd', hdone⟩
          · simp only [he, he', hsame.isDirectory_eq]
            exact ⟨trivial, hsame⟩
          · simp only [hd, hd']
            exact ⟨trivial, hdone⟩
      · simp only [h.isDirectory_eq]
        exact ⟨trivial, h⟩
    · simp only [hm, hm']
      exact ⟨trivial, hsame⟩

theorem SameKinds.makeDirectories (h : SameKinds fs fs') (p : Path) :
    (fs'.makeDirectories p).2 = (fs.makeDirectories p).2 ∧
      SameKinds (fs.makeDirectories p).1 (fs'.makeDirectories p).1 :=
  h.makeMissing p.ancestors

/-! ## Files -/

/-- A file can be written where there is one, or nothing yet, in a directory. -/
theorem writeFile_isOk_iff {content : ByteArray} : (∃ fs', fs.writeFile p content = .ok fs') ↔
    ∃ dir name, fs.route (!endsInSlash p.text) p = .ok ⟨.named dir name, false⟩ ∧
      fs.root.kind? dir = some .directory ∧
      (fs.root.kind? (dir ++ [name]) = none ∨ fs.root.kind? (dir ++ [name]) = some .file) := by
  constructor
  · rintro ⟨fs', h⟩
    obtain ⟨dir, name, x, hr, hwas, -, hitems⟩ := writeFile_eq_ok h
    have hthere : fs'.root.item? (dir ++ [name]) = some (.file content x) := by simp [hitems]
    have hdir := item?_directory_above hthere
    rw [hitems, if_neg (by simp)] at hdir
    refine ⟨dir, name, hr, Entries.kind?_eq_directory.2 hdir, ?_⟩
    rcases hwas with hnone | ⟨old, hold⟩
    · exact .inl (by simp [Entries.kind?, hnone])
    · exact .inr (by simp [Entries.kind?, hold])
  · rintro ⟨dir, name, hr, hdir, hwas⟩
    have hhas : fs.hasDirectory dir = true := hasDirectory_iff.2 (Entries.kind?_eq_directory.1 hdir)
    simp only [writeFile, hr, bind, Except.bind, Bool.false_eq_true, if_false]
    cases hget : fs.root.get? (dir ++ [name]) with
    | none => exact ⟨fs.place (dir ++ [name]) (.file content false), by simp [addNew, hhas]⟩
    | some node =>
      cases node with
      | file old x => exact ⟨_, rfl⟩
      | link t => simp [Entries.kind?, Entries.item?, hget, Node.entry] at hwas
      | directory inside => simp [Entries.kind?, Entries.item?, hget, Node.entry] at hwas

/-- A file that can be read can be written. -/
theorem writeFile_isOk_of_readFile {c content : ByteArray} (h : fs.readFile p = .ok c)
    (hname : ¬ ∀ m ∈ names p.text, m = "." ∨ m = "..") :
    ∃ fs', fs.writeFile p content = .ok fs' := by
  obtain ⟨⟨spot, slash⟩, x, hr, hslash, hitem⟩ := readFile_eq_ok_iff.1 h
  subst hslash
  have hend := endsInSlash_of_route hr rfl
  cases spot with
  | inside l =>
    rcases (route_eq_ok_iff.1 hr).2.inside_cases with hdir | hdots
    · rw [Entries.kind?_eq_directory] at hdir
      cases hdir.symm.trans hitem
    · exact absurd hdots hname
  | named dir name =>
    exact writeFile_isOk_iff.2 ⟨dir, name, by rw [hend]; exact hr,
      Entries.kind?_eq_directory.2 (item?_directory_above hitem),
      .inr (Option.map_eq_some_iff.2 ⟨_, hitem, rfl⟩)⟩

/-- What has been written can be read. -/
theorem readFile_of_writeFile {content : ByteArray} (h : fs.writeFile p content = .ok fs') :
    fs'.readFile p = .ok content := by
  obtain ⟨dir, name, x, hr, -, -, hitems⟩ := writeFile_eq_ok h
  have hitem : fs'.root.item? (dir ++ [name]) = some (.file content x) := by simp [hitems]
  rw [endsInSlash_of_route hr rfl] at hr
  have hr' := route_within (writeFile_within h) hr fun _ t ht => by
    simp [Spot.location, Entries.kind?, hitem] at ht
  exact readFile_eq_ok_iff.2 ⟨_, x, hr', rfl, hitem⟩

theorem SameKinds.writeFile (h : SameKinds fs fs') {content : ByteArray}
    (hw : ∃ written, fs.writeFile p content = .ok written) :
    ∃ written, fs'.writeFile p content = .ok written := by
  rw [writeFile_isOk_iff] at hw ⊢
  simpa only [h.route_eq, h.kinds] using hw

end Fleet.FileSystem

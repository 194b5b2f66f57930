import Fleet.FileSystem.Operations
import Fleet.Proofs.Files.Walk

namespace Fleet

/-! # Files that stay while others come

Four ways in which one state of the files can go on from another, from the weakest to the
strongest: paths lead where they led (`Within`), everything holds what it held (`Extends`), nothing
has come but directories (`AddsDirectories`), and nothing has come at all (`Unchanged`).  What is
read in the first state can be read in the second: `route_within`, `isDirectory_within` and
`readLink_within`.
-/

/-- A computation in two parts succeeds exactly if both do. -/
theorem bind_eq_ok {ε α β : Type} {x : Except ε α} {f : α → Except ε β} {b : β} :
    (x >>= f) = .ok b ↔ ∃ a, x = .ok a ∧ f a = .ok b := by
  cases x with
  | ok a => simp [bind, Except.bind]
  | error e => simp [bind, Except.bind]

namespace FileSystem

/-- Whatever stands somewhere still stands there, though a file may hold something else. -/
structure Within (fs fs' : FileSystem) : Prop where
  cwd : fs'.cwd = fs.cwd
  kinds : ∀ loc k, fs.root.kind? loc = some k → fs'.root.kind? loc = some k

/-- Whatever stands somewhere still stands there as it was. -/
structure Extends (fs fs' : FileSystem) : Prop where
  cwd : fs'.cwd = fs.cwd
  items : ∀ loc e, fs.root.item? loc = some e → fs'.root.item? loc = some e

/-- Nothing has changed but that there are more directories. -/
structure AddsDirectories (fs fs' : FileSystem) : Prop where
  cwd : fs'.cwd = fs.cwd
  items : ∀ loc, fs'.root.item? loc = fs.root.item? loc ∨
    (fs.root.item? loc = none ∧ fs'.root.item? loc = some .directory)

/-- Every location holds what it held. -/
structure Unchanged (fs fs' : FileSystem) : Prop where
  cwd : fs'.cwd = fs.cwd
  items : ∀ loc, fs'.root.item? loc = fs.root.item? loc

variable {fs fs' fs'' : FileSystem} {p : Path} {r : Route} {followLast : Bool}

theorem Within.refl (fs : FileSystem) : Within fs fs := ⟨rfl, fun _ _ h => h⟩

theorem Within.trans (h : Within fs fs') (h' : Within fs' fs'') : Within fs fs'' :=
  ⟨h'.cwd.trans h.cwd, fun loc k hk => h'.kinds loc k (h.kinds loc k hk)⟩

theorem Extends.refl (fs : FileSystem) : Extends fs fs := ⟨rfl, fun _ _ h => h⟩

theorem Extends.trans (h : Extends fs fs') (h' : Extends fs' fs'') : Extends fs fs'' :=
  ⟨h'.cwd.trans h.cwd, fun loc e he => h'.items loc e (h.items loc e he)⟩

theorem Extends.within (h : Extends fs fs') : Within fs fs' := by
  refine ⟨h.cwd, fun loc k hk => ?_⟩
  obtain ⟨e, he, rfl⟩ := Option.map_eq_some_iff.1 hk
  exact Option.map_eq_some_iff.2 ⟨e, h.items loc e he, rfl⟩

theorem AddsDirectories.refl (fs : FileSystem) : AddsDirectories fs fs := ⟨rfl, fun _ => .inl rfl⟩

theorem AddsDirectories.trans (h : AddsDirectories fs fs') (h' : AddsDirectories fs' fs'') :
    AddsDirectories fs fs'' := by
  refine ⟨h'.cwd.trans h.cwd, fun loc => ?_⟩
  rcases h'.items loc with h2 | ⟨h2, hd⟩
  · rw [h2]
    exact h.items loc
  · rcases h.items loc with h1 | ⟨_, h1⟩
    · exact .inr ⟨h1 ▸ h2, hd⟩
    · rw [h1] at h2
      cases h2

theorem AddsDirectories.extends (h : AddsDirectories fs fs') : Extends fs fs' := by
  refine ⟨h.cwd, fun loc e he => ?_⟩
  rcases h.items loc with h1 | ⟨h1, _⟩
  · rw [h1, he]
  · rw [h1] at he
    cases he

theorem Unchanged.refl (fs : FileSystem) : Unchanged fs fs := ⟨rfl, fun _ => rfl⟩

theorem Unchanged.extends (h : Unchanged fs fs') : Extends fs fs' :=
  ⟨h.cwd, fun loc _ he => (h.items loc).trans he⟩

/-- What has come is no file and no link. -/
theorem AddsDirectories.item?_of_ne (h : AddsDirectories fs fs') {loc : Location} {e : Entry}
    (he : fs'.root.item? loc = some e) (hne : e ≠ .directory) : fs.root.item? loc = some e := by
  rcases h.items loc with h1 | ⟨_, h1⟩
  · rw [← h1, he]
  · rw [he] at h1
    exact absurd (Option.some.inj h1) hne

/-! ## Reading -/

theorem route_within (h : Within fs fs') (hr : fs.route followLast p = .ok r)
    (hlast : followLast = true → ∀ t, fs'.root.kind? r.spot.location ≠ some (.link t)) :
    fs'.route followLast p = .ok r := by
  obtain ⟨hp, hw⟩ := route_eq_ok_iff.1 hr
  have hstart : fs'.start p = fs.start p := by rw [start, start, h.cwd]
  exact route_eq_ok_iff.2 ⟨hp, hstart ▸ hw.within h.kinds id hlast⟩

/-- Where there is no link at the end, it makes no difference whether it would be followed. -/
theorem route_true_of_false (hr : fs.route false p = .ok r)
    (hlast : ∀ t, fs.root.kind? r.spot.location ≠ some (.link t)) : fs.route true p = .ok r := by
  obtain ⟨hp, hw⟩ := route_eq_ok_iff.1 hr
  exact route_eq_ok_iff.2 ⟨hp, hw.within (fun _ _ hk => hk) (by simp) fun _ => hlast⟩

theorem arrive_eq_ok_iff {loc : Location} {node : Node} : fs.arrive r = .ok (loc, node) ↔
    r.spot.location = loc ∧ fs.root.get? loc = some node ∧
      (r.slash = true → node.isDirectory = true) := by
  simp only [arrive]
  constructor
  · intro h
    split at h
    · cases h
    · next there hget =>
      split at h
      · cases h
      · next hslash =>
        cases h
        exact ⟨rfl, hget, fun hs => by simpa [hs] using hslash⟩
  · rintro ⟨rfl, hget, hslash⟩
    have hslash : ¬ (r.slash && !node.isDirectory) = true := by
      cases hs : r.slash <;> simp [hslash, hs]
    rw [hget]
    simp only [if_neg hslash]

theorem status_eq_ok_iff {loc : Location} {node : Node} : fs.status p = .ok (loc, node) ↔
    ∃ r, fs.route true p = .ok r ∧ r.spot.location = loc ∧ fs.root.get? loc = some node ∧
      (r.slash = true → node.isDirectory = true) := by
  simp only [← arrive_eq_ok_iff]
  exact bind_eq_ok

theorem isDirectory_iff : fs.isDirectory p = true ↔
    ∃ r, fs.route true p = .ok r ∧ fs.root.kind? r.spot.location = some .directory := by
  simp only [isDirectory, Entries.kind?_eq_directory]
  constructor
  · intro h
    split at h
    · next loc node hs =>
      obtain ⟨r, hr, rfl, hget, -⟩ := status_eq_ok_iff.1 hs
      refine ⟨r, hr, ?_⟩
      rw [Entries.item?_of_get? hget]
      cases node <;> simp_all [Node.isDirectory, Node.entry]
    · cases h
  · rintro ⟨r, hr, hd⟩
    obtain ⟨inside, hget⟩ := Entries.get?_of_item?_directory hd
    rw [status_eq_ok_iff.2 ⟨r, hr, rfl, hget, fun _ => rfl⟩]
    rfl

theorem isDirectory_within (h : Within fs fs') (hd : fs.isDirectory p = true) :
    fs'.isDirectory p = true := by
  obtain ⟨r, hr, hk⟩ := isDirectory_iff.1 hd
  have hk' := h.kinds _ _ hk
  exact isDirectory_iff.2 ⟨r, route_within h hr (by simp [hk']), hk'⟩

/-- The directory that a path leads to. -/
def directory? (fs : FileSystem) (p : Path) : Option Location :=
  match fs.status p with
  | .ok (loc, .directory _) => some loc
  | _ => none

theorem directory?_eq_some {loc : Location} : fs.directory? p = some loc ↔
    ∃ r, fs.route true p = .ok r ∧ r.spot.location = loc ∧
      fs.root.item? loc = some .directory := by
  constructor
  · intro h
    unfold directory? at h
    split at h
    · next there inside hstatus =>
      obtain ⟨r, hr, hloc, hget, -⟩ := status_eq_ok_iff.1 hstatus
      cases h
      exact ⟨r, hr, hloc, Entries.item?_of_get? hget⟩
    · cases h
  · rintro ⟨r, hr, hloc, hitem⟩
    obtain ⟨inside, hget⟩ := Entries.get?_of_item?_directory hitem
    rw [directory?, status_eq_ok_iff.2 ⟨r, hr, hloc, hget, fun _ => rfl⟩]

theorem isDirectory_iff_directory? :
    fs.isDirectory p = true ↔ ∃ loc, fs.directory? p = some loc := by
  simp only [isDirectory_iff, directory?_eq_some, Entries.kind?_eq_directory]
  constructor
  · rintro ⟨r, hr, hdir⟩
    exact ⟨_, r, hr, rfl, hdir⟩
  · rintro ⟨loc, r, hr, rfl, hdir⟩
    exact ⟨r, hr, hdir⟩

theorem directory?_within {loc : Location} (h : Within fs fs') (hd : fs.directory? p = some loc) :
    fs'.directory? p = some loc := by
  obtain ⟨r, hr, rfl, hitem⟩ := directory?_eq_some.1 hd
  have hkind := h.kinds _ _ (Entries.kind?_eq_directory.2 hitem)
  exact directory?_eq_some.2
    ⟨r, route_within h hr (by simp [hkind]), rfl, Entries.kind?_eq_directory.1 hkind⟩

theorem readFile_eq_ok_iff {c : ByteArray} : fs.readFile p = .ok c ↔
    ∃ r x, fs.route true p = .ok r ∧ r.slash = false ∧
      fs.root.item? r.spot.location = some (.file c x) := by
  constructor
  · intro h
    obtain ⟨⟨loc, node⟩, hs, h⟩ := bind_eq_ok.1 h
    obtain ⟨r, hr, rfl, hget, hslash⟩ := status_eq_ok_iff.1 hs
    cases node with
    | file content x =>
      cases h
      exact ⟨r, x, hr, by simpa [Node.isDirectory] using hslash, Entries.item?_of_get? hget⟩
    | link t => cases h
    | directory inside => cases h
  · rintro ⟨r, x, hr, hslash, hitem⟩
    have hs := status_eq_ok_iff.2 ⟨r, hr, rfl, Entries.get?_of_item?_file hitem, by simp [hslash]⟩
    simp [readFile, hs, bind, Except.bind]

theorem readText_eq_ok_iff {text : String} : fs.readText p = .ok text ↔
    ∃ c, fs.readFile p = .ok c ∧ Text.decode? c = some text := by
  refine bind_eq_ok.trans (exists_congr fun c => and_congr_right fun _ => ?_)
  cases Text.decode? c <;> simp

/-- A slash at the end of a path is not forgotten on the way. -/
theorem Walk.slash_of_slash {root : Entries} {n : Nat} {loc : Location} {ns : List String}
    {slash : Bool} (h : Walk root followLast n loc ns slash r) (hs : slash = true) :
    r.slash = true := by
  induction h with
  | done => exact hs
  | here _ ih => exact ih hs
  | up _ ih => exact ih hs
  | stop _ _ => exact hs
  | enter _ _ _ _ ih => exact ih hs
  | follow _ _ _ _ _ ih => exact ih (by simp [hs])

theorem endsInSlash_of_route (h : fs.route followLast p = .ok r) (hs : r.slash = false) :
    endsInSlash p.text = false := by
  obtain ⟨-, hw⟩ := route_eq_ok_iff.1 h
  cases he : endsInSlash p.text with
  | false => rfl
  | true =>
    rw [hw.slash_of_slash he] at hs
    cases hs

theorem linkStatus_eq_ok_iff {loc : Location} {node : Node} : fs.linkStatus p = .ok (loc, node) ↔
    ∃ r, fs.route (endsInSlash p.text) p = .ok r ∧ r.spot.location = loc ∧
      fs.root.get? loc = some node ∧ (r.slash = true → node.isDirectory = true) := by
  simp only [← arrive_eq_ok_iff]
  exact bind_eq_ok

theorem readLink_eq_ok_iff_linkStatus {t : String} :
    fs.readLink p = .ok t ↔ ∃ loc, fs.linkStatus p = .ok (loc, .link t) := by
  refine bind_eq_ok.trans ⟨?_, ?_⟩
  · rintro ⟨⟨loc, node⟩, hs, h⟩
    cases node with
    | link target =>
      cases h
      exact ⟨loc, hs⟩
    | file c x => cases h
    | directory inside => cases h
  · rintro ⟨loc, hs⟩
    exact ⟨_, hs, rfl⟩

theorem readLink_eq_ok_iff {t : String} : fs.readLink p = .ok t ↔
    ∃ r, fs.route false p = .ok r ∧ r.slash = false ∧
      fs.root.item? r.spot.location = some (.link t) := by
  rw [readLink_eq_ok_iff_linkStatus]
  constructor
  · rintro ⟨loc, hs⟩
    obtain ⟨r, hr, rfl, hget, hslash⟩ := linkStatus_eq_ok_iff.1 hs
    have hslash : r.slash = false := by simpa [Node.isDirectory] using hslash
    rw [endsInSlash_of_route hr hslash] at hr
    exact ⟨r, hr, hslash, Entries.item?_of_get? hget⟩
  · rintro ⟨r, hr, hslash, hitem⟩
    have he := endsInSlash_of_route hr hslash
    have hget := Entries.get?_of_item?_link hitem
    exact ⟨r.spot.location,
      linkStatus_eq_ok_iff.2 ⟨r, by rw [he, hr], rfl, hget, by simp [hslash]⟩⟩

/-- What a link says can be read as long as it is there. -/
theorem readLink_within (h : Within fs fs') {t : String} (ht : fs.readLink p = .ok t) :
    fs'.readLink p = .ok t := by
  obtain ⟨r, hr, hslash, hitem⟩ := readLink_eq_ok_iff.1 ht
  have hitem' := Entries.kind?_eq_link.1 (h.kinds _ _ (Entries.kind?_eq_link.2 hitem))
  exact readLink_eq_ok_iff.2 ⟨r, route_within h hr (by simp), hslash, hitem'⟩

end FileSystem

end Fleet

import Fleet.LatestPointer
import Fleet.Proofs.Files.Beside
import Fleet.Proofs.Files.Change
import Fleet.Proofs.ResultSet

namespace Fleet

/-! # Moving and following the pointer

The path under which a new pointer is made leads to the directory that the path of the pointer leads
to (`route_staging`, `route_of_staging`).  So a pointer that could be moved is a link to the new
result set, where the old one was, and nothing else has changed but that nothing is left at the
staging path (`update_ok`); and if it could not be moved, no more is lost than what was left there
(`update_error`).
-/

open FileSystem (IsName IsSegment Within Extends Unchanged names steps refused?)

namespace LatestPointer

variable {fs fs' : FileSystem} {pid : Nat} {s : ResultSet} {pointer : Path} {dir : Location}
  {name : String}

/-! ## The staging path -/

/-- The name under which a pointer of another name is made. -/
def stagingName (pid : Nat) (name : String) : String :=
  "." ++ name ++ "." ++ toString pid ++ ".tmp"

theorem stagingName_isSegment (pid : Nat) {name : String} (h : IsSegment name) :
    IsSegment (stagingName pid name) := by
  have hdigits : '/' ∉ (toString pid).toList := by
    intro hmem
    have hmem : '/' ∈ Nat.toDigits 10 pid := by simpa using hmem
    exact absurd (Nat.isDigit_of_mem_toDigits (by decide) (by decide) hmem) (by decide)
  constructor
  · simp [stagingName]
  · simp only [stagingName, String.toList_append, List.mem_append, not_or]
    exact ⟨⟨⟨⟨by decide, h.no_slash⟩, by decide⟩, hdigits⟩, by decide⟩

theorem stagingName_ne (pid : Nat) (name : String) : stagingName pid name ≠ name := by
  intro h
  have := congrArg String.length h
  simp only [stagingName, String.length_append] at this
  have hdot : ".".length = 1 := by decide
  omega

theorem stagingName_ne_up (pid : Nat) (name : String) :
    stagingName pid name ≠ "." ∧ stagingName pid name ≠ ".." := by
  constructor <;>
  · intro h
    have := congrArg String.length h
    simp only [stagingName, String.length_append] at this
    have htmp : ".tmp".length = 4 := by decide
    have hdot : ".".length = 1 := by decide
    have hup : "..".length = 2 := by decide
    omega

/-- What the staging path has in common with the path of the pointer. -/
theorem staging_spec (pid : Nat) {ns : List String} (h : names pointer.text = ns ++ [name])
    (hname : IsName name) :
    ∃ ms, names (staging pid pointer).text = ms ++ [stagingName pid name] ∧ steps ms = steps ns ∧
      (∀ fs : FileSystem, fs.start (staging pid pointer) = fs.start pointer) ∧
      FileSystem.endsInSlash (staging pid pointer).text = false := by
  have hmem : name ∈ names pointer.text := by simp [h]
  have hseg : IsSegment name := FileSystem.isSegment_of_mem_names hmem
  have hstaging := stagingName_isSegment pid hseg
  obtain ⟨hfile, ms, hms, hsteps, hroot, hslash⟩ :=
    Path.withFileName_spec h hname.ne_here hname.ne_up hstaging
  have hpath : staging pid pointer = pointer.withFileName (stagingName pid name) := by
    rw [staging, hfile]
    rfl
  rw [hpath]
  exact ⟨ms, hms, hsteps, fun fs => by rw [FileSystem.start, hroot, FileSystem.start], hslash⟩

/-- The staging path leads to where the path of the pointer does. -/
theorem route_staging {slash : Bool} (h : fs.route false pointer = .ok ⟨.named dir name, slash⟩)
    (haccepted : refused? (staging pid pointer) = none) (hfits : IsName (stagingName pid name)) :
    fs.route false (staging pid pointer) = .ok ⟨.named dir (stagingName pid name), false⟩ := by
  obtain ⟨-, hwalk⟩ := FileSystem.route_eq_ok_iff.1 h
  obtain ⟨hname, ns, hns⟩ := hwalk.last_of_named
  obtain ⟨ms, hms, hsteps, hstart, hslash⟩ := staging_spec pid hns hname
  obtain ⟨d, hd, -, hother⟩ := hwalk.sibling hns hname.ne_here hname.ne_up
  cases hd
  refine FileSystem.route_eq_ok_iff.2 ⟨haccepted, ?_⟩
  rw [hstart, hms, hslash]
  exact hother ms _ false hsteps hfits

/-- The path of the pointer leads to where the staging path does. -/
theorem route_of_staging {ns : List String} {r : Route} (hns : names pointer.text = ns ++ [name])
    (hname : IsName name) (haccepted : refused? pointer = none)
    (h : fs.route false (staging pid pointer) = .ok r) :
    ∃ d, r = ⟨.named d (stagingName pid name), false⟩ ∧ IsName (stagingName pid name) ∧
      fs.route false pointer =
        .ok ⟨.named d name, FileSystem.endsInSlash pointer.text⟩ := by
  obtain ⟨ms, hms, hsteps, hstart, hslash⟩ := staging_spec pid hns hname
  obtain ⟨-, hwalk⟩ := FileSystem.route_eq_ok_iff.1 h
  rw [hslash, hstart] at hwalk
  obtain ⟨hhere, hup⟩ := stagingName_ne_up pid name
  obtain ⟨d, rfl, hfits, hother⟩ := hwalk.sibling hms hhere hup
  refine ⟨d, rfl, hfits, FileSystem.route_eq_ok_iff.2 ⟨haccepted, ?_⟩⟩
  rw [hns]
  exact hother ns name _ hsteps.symm hname

/-- If the path of the pointer leads to no name and to no directory, it has no file name, and the
staging path goes on from where it leads. -/
theorem route_staging_of_inside {l : Location} {slash : Bool} {front : List String} {n : String}
    (h : fs.route false pointer = .ok ⟨.inside l, slash⟩)
    (hnot : fs.root.item? l ≠ some .directory) (haccepted : refused? (staging pid pointer) = none)
    (hfront : names (staging pid pointer).text = front ++ [n]) (hn : IsName n) :
    fs.route false (staging pid pointer) = .ok ⟨.named l n, false⟩ := by
  obtain ⟨-, hwalk⟩ := FileSystem.route_eq_ok_iff.1 h
  have hdots : ∀ m ∈ names pointer.text, m = "." ∨ m = ".." :=
    hwalk.inside_cases.resolve_left fun hdir => hnot (Entries.kind?_eq_directory.1 hdir)
  have hseg : IsSegment (stagingName pid defaultName) :=
    stagingName_isSegment pid ⟨by decide, by decide⟩
  have hstaging : staging pid pointer = pointer / stagingName pid defaultName := by
    rw [staging, Path.withFileName, Path.fileName?_of_dots hdots]
    rfl
  have hstart : fs.start (staging pid pointer) = fs.start pointer := by
    rw [FileSystem.start, hstaging, FileSystem.startsAtRoot_join hseg.head_ne, FileSystem.start]
  have hnames : names (staging pid pointer).text = names pointer.text ++ [n] := by
    rw [hstaging, hseg.names_join] at hfront ⊢
    rw [(List.append_inj' hfront rfl).2]
  refine FileSystem.route_eq_ok_iff.2 ⟨haccepted, ?_⟩
  rw [hstart, hnames, hstaging, hseg.endsInSlash_join]
  exact hwalk.beyond hn

/-- The path of the pointer does not lead to the staging path, unless there is a directory. -/
theorem location_ne_staging {r : Route} {d : Location} {n : String}
    (hr : fs.route false pointer = .ok r)
    (hstaging : fs.route false (staging pid pointer) = .ok ⟨.named d n, false⟩)
    (hnot : fs.root.item? (d ++ [n]) ≠ some .directory) : r.spot.location ≠ d ++ [n] := by
  intro he
  obtain ⟨hp, hwalk⟩ := FileSystem.route_eq_ok_iff.1 hr
  obtain ⟨spot, slash⟩ := r
  cases spot with
  | named dir name =>
    -- both are in one directory, under different names
    obtain ⟨hname, ns, hns⟩ := hwalk.last_of_named
    obtain ⟨d', hd', -, -⟩ := route_of_staging hns hname hp hstaging
    cases hd'
    obtain ⟨-, hlast⟩ := List.append_inj' he rfl
    exact stagingName_ne pid name (List.cons.inj hlast).1.symm
  | inside l =>
    obtain ⟨haccepted, hwalk'⟩ := FileSystem.route_eq_ok_iff.1 hstaging
    obtain ⟨hn, front, hfront⟩ := hwalk'.last_of_named
    have hl : fs.root.item? l ≠ some .directory := by
      rw [show l = d ++ [n] from he]
      exact hnot
    have hbelow := route_staging_of_inside hr hl haccepted hfront hn
    rw [hstaging] at hbelow
    simp only [Except.ok.injEq, Route.mk.injEq, Spot.named.injEq, and_true] at hbelow
    have hlength := congrArg List.length he
    rw [hbelow] at hlength
    simp [Spot.location] at hlength

/-! ## Moving -/

/-- The files without what was left at the staging path. -/
def swept (pid : Nat) (pointer : Path) (fs : FileSystem) : FileSystem :=
  match fs.removeFile (staging pid pointer) with
  | .ok cleared => cleared
  | .error _ => fs

theorem swept_of_removeFile {cleared : FileSystem}
    (h : fs.removeFile (staging pid pointer) = .ok cleared) : swept pid pointer fs = cleared := by
  unfold swept
  rw [h]

theorem swept_cases (pid : Nat) (pointer : Path) (fs : FileSystem) :
    swept pid pointer fs = fs ∨ ∃ d n,
      fs.route false (staging pid pointer) = .ok ⟨.named d n, false⟩ ∧
        fs.root.item? (d ++ [n]) ≠ some .directory ∧ fs.root.item? (d ++ [n]) ≠ none ∧
        swept pid pointer fs = fs.without (d ++ [n]) := by
  unfold swept
  split
  · next cleared hcleared =>
    obtain ⟨d, n, hr, hnot, hne, rfl⟩ := FileSystem.removeFile_eq_ok hcleared
    exact .inr ⟨d, n, hr, hnot, hne, rfl⟩
  · exact .inl rfl

theorem swept_extends (pid : Nat) (pointer : Path) (fs : FileSystem) :
    Extends (swept pid pointer fs) fs := by
  rcases swept_cases pid pointer fs with h | ⟨d, n, -, -, -, h⟩
  · rw [h]
    exact .refl fs
  · rw [h]
    exact FileSystem.without_extends (by simp)

/-- Where nothing stands at the staging path after sweeping, what stood there is all that has
gone. -/
theorem swept_items {d : Location} {n : String}
    (hr : (swept pid pointer fs).route false (staging pid pointer) = .ok ⟨.named d n, false⟩)
    (hnone : (swept pid pointer fs).root.item? (d ++ [n]) = none) :
    fs.root.item? (d ++ [n]) ≠ some .directory ∧
      ∀ loc, (swept pid pointer fs).root.item? loc =
        if loc = d ++ [n] then none else fs.root.item? loc := by
  rcases swept_cases pid pointer fs with hs | ⟨d', n', hr', hnot, -, hs⟩
  · rw [hs] at hnone ⊢
    refine ⟨by simp [hnone], fun loc => ?_⟩
    split
    · next he => rw [he, hnone]
    · rfl
  · have hsame := FileSystem.route_within (swept_extends pid pointer fs).within hr (by simp)
    rw [hr'] at hsame
    cases hsame
    rw [hs]
    exact ⟨hnot, FileSystem.item?_without_leaf hnot⟩

/-- What is at the staging path is taken out; if that is refused although there is something,
nothing else is done. -/
theorem update_cases (pid : Nat) (s : ResultSet) (pointer : Path) (fs : FileSystem) :
    (∃ p io, swept pid pointer fs = fs ∧ update pid s pointer fs = (fs, .error (.recorder p io))) ∨
      update pid s pointer fs =
        (updating.linking s pointer (staging pid pointer)).run (swept pid pointer fs) := by
  unfold swept
  simp only [update, updating, Procedure.run, FileStep.perform]
  cases fs.removeFile (staging pid pointer) with
  | ok cleared => exact .inr rfl
  | error e =>
    by_cases he : e = .noEntry
    · exact .inr (by simp [FileStep.perform.settle, he])
    · refine .inl ⟨staging pid pointer, e, rfl, ?_⟩
      simp [FileStep.perform.settle, he, Procedure.run]

theorem linking_ok {path : Path}
    (h : (updating.linking s pointer path).run fs = (fs', .ok ())) :
    ∃ linked, fs.makeLink s.root.text path = .ok linked ∧
      linked.rename path pointer = .ok fs' := by
  simp only [updating.linking, Procedure.run, FileStep.perform] at h
  cases hlink : fs.makeLink s.root.text path with
  | error e => simp [hlink, FileStep.perform.settle, Procedure.run] at h
  | ok linked =>
    refine ⟨linked, rfl, ?_⟩
    simp only [hlink, FileStep.perform.settle, Procedure.run, FileStep.perform] at h
    cases hmove : linked.rename path pointer with
    | error e => simp [hmove, Procedure.run] at h
    | ok moved =>
      simp only [hmove, Procedure.run] at h
      rw [(Prod.mk.inj h).1]

/-- If the link cannot be moved it is taken away again. -/
theorem linking_error {path : Path} {e : Error}
    (h : (updating.linking s pointer path).run fs = (fs', .error e)) :
    (∃ p io, e = .recorder p io) ∧ Unchanged fs fs' := by
  simp only [updating.linking, Procedure.run, FileStep.perform] at h
  cases hlink : fs.makeLink s.root.text path with
  | error e =>
    simp only [hlink, FileStep.perform.settle, Procedure.run, Prod.mk.injEq,
      Except.error.injEq] at h
    rw [← h.1]
    exact ⟨⟨_, _, h.2.symm⟩, .refl fs⟩
  | ok linked =>
    simp only [hlink, FileStep.perform.settle, Procedure.run, FileStep.perform] at h
    cases hmove : linked.rename path pointer with
    | ok moved => simp [hmove, Procedure.run] at h
    | error e' =>
      -- the link has been made, so it is there to be taken away
      obtain ⟨d, n, hlinked⟩ := FileSystem.makeLink_eq_ok hlink
      obtain ⟨left, hremoved, hkept⟩ := hlinked.removeFile
      simp only [hmove, hremoved, Procedure.run, FileStep.perform, FileStep.perform.settle,
        Prod.mk.injEq, Except.error.injEq] at h
      rw [← h.1]
      exact ⟨⟨_, _, h.2.symm⟩, hkept⟩

/-- What moving a pointer makes of the files. -/
structure IsMoved (pid : Nat) (s : ResultSet) (pointer : Path) (dir : Location) (name : String)
    (fs fs' : FileSystem) : Prop where
  route : fs.route false pointer = .ok ⟨.named dir name, false⟩
  noDirectory : fs.root.item? (dir ++ [name]) ≠ some .directory
  noDirectoryBeside : fs.root.item? (dir ++ [stagingName pid name]) ≠ some .directory
  cwd : fs'.cwd = fs.cwd
  items : ∀ loc, fs'.root.item? loc =
    if loc = dir ++ [name] then some (.link s.root.text)
    else if loc = dir ++ [stagingName pid name] then none
    else fs.root.item? loc

/-- A pointer that could be moved is a link to the result set, and all else is as it was but at the
staging path, which leads to where the link was made. -/
theorem update_ok_staging (h : update pid s pointer fs = (fs', .ok ())) :
    ∃ dir name, IsMoved pid s pointer dir name fs fs' ∧
      fs.route false (staging pid pointer) = .ok ⟨.named dir (stagingName pid name), false⟩ := by
  rcases update_cases pid s pointer fs with ⟨p, io, -, he⟩ | hrun
  · rw [he] at h
    cases h
  · rw [hrun] at h
    obtain ⟨linked, hlink, hmove⟩ := linking_ok h
    obtain ⟨d, n, hmade⟩ := FileSystem.makeLink_eq_ok hlink
    obtain ⟨dir, name, hpointer, hmoved⟩ :=
      FileSystem.rename_link_eq_ok hmade.route_after hmade.there hmove
    -- the pointer and the staging path share a directory
    obtain ⟨haccepted, hwalk⟩ := FileSystem.route_eq_ok_iff.1 hpointer
    obtain ⟨hname, ns, hns⟩ := hwalk.last_of_named
    obtain ⟨d', hd', -, hroute⟩ := route_of_staging hns hname haccepted hmade.route
    cases hd'
    have hafter := FileSystem.route_within hmade.extends.within hroute (by simp)
    rw [hpointer] at hafter
    simp only [Except.ok.injEq, Route.mk.injEq, Spot.named.injEq, and_true] at hafter
    obtain ⟨rfl, hslash⟩ := hafter
    rw [← hslash] at hroute
    -- two names of one directory that differ, so the link has left the staging path
    have hbeside := stagingName_ne pid name
    obtain ⟨hnot, hcwd, hitems⟩ := hmoved.resolve_left (by simpa using hbeside)
    obtain ⟨hnotBeside, hswept⟩ := swept_items hmade.route hmade.free
    have hne : dir ++ [name] ≠ dir ++ [stagingName pid name] := by simpa using Ne.symm hbeside
    have hsame := FileSystem.route_within (swept_extends pid pointer fs).within hroute (by simp)
    have hstaging := FileSystem.route_within (swept_extends pid pointer fs).within hmade.route
      (by simp)
    refine ⟨dir, name, ⟨hsame, ?_, hnotBeside, ?_, fun loc => ?_⟩, hstaging⟩
    · rw [hmade.items, if_neg hne, hswept, if_neg hne] at hnot
      exact hnot
    · rw [hcwd, hmade.cwd, (swept_extends pid pointer fs).cwd]
    · rw [hitems, hmade.items, hswept]
      split
      · rfl
      · split <;> rfl

theorem update_ok (h : update pid s pointer fs = (fs', .ok ())) :
    ∃ dir name, IsMoved pid s pointer dir name fs fs' := by
  obtain ⟨dir, name, hmoved, -⟩ := update_ok_staging h
  exact ⟨dir, name, hmoved⟩

/-- If a pointer cannot be moved, nothing has changed but that what was left at the staging path may
be gone. -/
theorem update_error {e : Error} (h : update pid s pointer fs = (fs', .error e)) :
    (∃ p io, e = .recorder p io) ∧ Unchanged (swept pid pointer fs) fs' := by
  rcases update_cases pid s pointer fs with ⟨p, io, hs, he⟩ | hrun
  · rw [he, Prod.mk.injEq, Except.error.injEq] at h
    rw [hs, ← h.1]
    exact ⟨⟨p, io, h.2.symm⟩, .refl fs⟩
  · rw [hrun] at h
    exact linking_error h

/-! ## Following -/

/-- A link is followed to the directory that it says, as a path from where the pointer is. -/
theorem resolve_of_link {t : String} (h : fs.readLink pointer = .ok t) :
    resolve fs pointer = if fs.isDirectory (anchored pointer t) then .ok ⟨anchored pointer t⟩
      else .error (.noPreviousResults pointer) := by
  obtain ⟨loc, hs⟩ := FileSystem.readLink_eq_ok_iff_linkStatus.1 h
  have htext : targetText fs pointer = .ok t := by
    rw [targetText, hs]
  simp [resolve, htext, bind, Except.bind]

/-- A path from the root is the same from everywhere. -/
theorem anchored_of_startsAtRoot {t : String} (h : FileSystem.startsAtRoot t = true) :
    anchored pointer t = ⟨t⟩ := by
  have habs : (t.toList.head? == some '/') = true := h
  unfold anchored
  split <;> simp [HDiv.hDiv, Path.join, habs]

/-- A link to a result set is followed to it. -/
theorem resolve_of_readLink (hlink : fs.readLink pointer = .ok s.root.text)
    (habs : FileSystem.startsAtRoot s.root.text = true) (hdir : fs.isDirectory s.root = true) :
    resolve fs pointer = .ok s := by
  rw [resolve_of_link hlink, anchored_of_startsAtRoot habs, if_pos hdir]

/-- What a pointer says: the text of a link, or that of a file without the white space at its
end. -/
inductive Says (fs : FileSystem) (pointer : Path) : String → Prop where
  | link {r : Route} {t : String} (hroute : fs.route false pointer = .ok r)
      (hslash : r.slash = false) (hlink : fs.root.item? r.spot.location = some (.link t)) :
      Says fs pointer t
  | file {r : Route} {c : ByteArray} {x : Bool} {t w : String}
      (hroute : fs.route false pointer = .ok r) (hslash : r.slash = false)
      (hfile : fs.root.item? r.spot.location = some (.file c x))
      (htext : Text.decode? c = some (t ++ w))
      (hend : ∀ ch, t.toList.getLast? = some ch → Text.isBlank ch = false)
      (hblank : ∀ ch ∈ w.toList, Text.isBlank ch = true) : Says fs pointer t

theorem trimmedEnd_append {t w : String}
    (hend : ∀ ch, t.toList.getLast? = some ch → Text.isBlank ch = false)
    (hblank : ∀ ch ∈ w.toList, Text.isBlank ch = true) : Error.trimmedEnd (t ++ w) = t := by
  rw [Error.trimmedEnd, String.toList_append, Text.trimEnd_append_blanks _ hblank,
    Text.trimEnd_eq_self hend, String.ofList_toList]

/-- A pointer that is a file says what it holds without the white space at the end. -/
theorem Says.of_file {r : Route} {c : ByteArray} {x : Bool} {text : String}
    (hroute : fs.route false pointer = .ok r) (hslash : r.slash = false)
    (hfile : fs.root.item? r.spot.location = some (.file c x))
    (htext : Text.decode? c = some text) : Says fs pointer (Error.trimmedEnd text) := by
  obtain ⟨⟨w, hw, hblank⟩, hend⟩ := Text.trimEnd_spec text.toList
  have hsplit : text = Error.trimmedEnd text ++ String.ofList w := by
    rw [Error.trimmedEnd, ← String.ofList_append, hw, String.ofList_toList]
  rw [hsplit] at htext
  exact .file hroute hslash hfile htext (by simpa [Error.trimmedEnd] using hend)
    (by simpa using hblank)

/-- A pointer that is no link is read where it stands. -/
theorem readFile_of_noLink {r : Route} (hr : fs.route false pointer = .ok r)
    (hnot : ∀ t, fs.root.item? r.spot.location ≠ some (.link t)) {c : ByteArray} :
    fs.readFile pointer = .ok c ↔
      r.slash = false ∧ ∃ x, fs.root.item? r.spot.location = some (.file c x) := by
  have hroute := FileSystem.route_true_of_false hr fun t hk => hnot t (Entries.kind?_eq_link.1 hk)
  rw [FileSystem.readFile_eq_ok_iff]
  constructor
  · rintro ⟨r', x, hr', hslash, hfile⟩
    obtain rfl := Except.ok.inj (hroute.symm.trans hr')
    exact ⟨hslash, x, hfile⟩
  · rintro ⟨hslash, x, hfile⟩
    exact ⟨r, x, hroute, hslash, hfile⟩

theorem targetText_of_said {t : String} (h : Says fs pointer t) :
    targetText fs pointer = .ok t := by
  cases h with
  | link hroute hslash hlink =>
    obtain ⟨loc, hs⟩ := FileSystem.readLink_eq_ok_iff_linkStatus.1
      (FileSystem.readLink_eq_ok_iff.2 ⟨_, hroute, hslash, hlink⟩)
    rw [targetText, hs]
  | @file r c x t w hroute hslash hfile htext hend hblank =>
    have hget := Entries.get?_of_item?_file hfile
    have hs : fs.linkStatus pointer = .ok (r.spot.location, .file c x) :=
      FileSystem.linkStatus_eq_ok_iff.2
        ⟨r, by rw [FileSystem.endsInSlash_of_route hroute hslash, hroute], rfl, hget,
          by simp [hslash]⟩
    have hread : fs.readText pointer = .ok (t ++ w) :=
      FileSystem.readText_eq_ok_iff.2
        ⟨c, (readFile_of_noLink hroute (by simp [hfile])).2 ⟨hslash, x, hfile⟩, htext⟩
    rw [targetText, hs]
    simp only [hread, trimmedEnd_append hend hblank]

/-- Whatever is read from a pointer is what it says; where nothing is read, either the pointer is
not there or it cannot be read. -/
theorem targetText_cases (fs : FileSystem) (pointer : Path) :
    (∃ t, Says fs pointer t ∧ targetText fs pointer = .ok t) ∨
      (fs.linkStatus pointer = .error .noEntry ∧
        targetText fs pointer = .error (.noPreviousResults pointer)) ∨
      (fs.linkStatus pointer ≠ .error .noEntry ∧ ∃ e, targetText fs pointer = .error (.io e)) := by
  unfold targetText
  split
  · next e hs =>
    by_cases he : e = .noEntry
    · exact .inr (.inl ⟨by rw [hs, he], by simp [he]⟩)
    · exact .inr (.inr ⟨by simpa [hs] using he, e, by simp [he]⟩)
  · next loc target hs =>
    obtain ⟨r, hr, hslash, hlink⟩ := FileSystem.readLink_eq_ok_iff.1
      (FileSystem.readLink_eq_ok_iff_linkStatus.2 ⟨loc, hs⟩)
    exact .inl ⟨target, .link hr hslash hlink, rfl⟩
  · next found hnot hs =>
    obtain ⟨loc, node⟩ := found
    split
    · next text hread =>
      obtain ⟨c, hc, htext⟩ := FileSystem.readText_eq_ok_iff.1 hread
      obtain ⟨r, x, hr, hslash, hfile⟩ := FileSystem.readFile_eq_ok_iff.1 hc
      obtain ⟨r', hr', rfl, hget, -⟩ := FileSystem.linkStatus_eq_ok_iff.1 hs
      rw [FileSystem.endsInSlash_of_route hr hslash] at hr'
      have hnotLink : ∀ t, fs.root.kind? r'.spot.location ≠ some (.link t) := by
        intro t hk
        rw [Entries.kind?_eq_link, Entries.item?_of_get? hget, Option.some.injEq,
          Node.entry_eq_link] at hk
        exact hnot r'.spot.location t (by rw [hk])
      rw [FileSystem.route_true_of_false hr' hnotLink] at hr
      cases hr
      exact .inl ⟨_, .of_file hr' hslash hfile htext, rfl⟩
    · next e _ => exact .inr (.inr ⟨by simp [hs], e, rfl⟩)

theorem says_of_targetText {t : String} (h : targetText fs pointer = .ok t) :
    Says fs pointer t := by
  rcases targetText_cases fs pointer with ⟨t', hsaid, ht⟩ | ⟨-, he⟩ | ⟨-, e, he⟩
  · obtain rfl := Except.ok.inj (h.symm.trans ht)
    exact hsaid
  · rw [he] at h
    cases h
  · rw [he] at h
    cases h

/-- A pointer that says something is a file or a link at the end of its path. -/
theorem Says.route {t : String} (h : Says fs pointer t) :
    ∃ r e, fs.route false pointer = .ok r ∧ r.slash = false ∧
      fs.root.item? r.spot.location = some e ∧ e ≠ .directory := by
  cases h with
  | link hroute hslash hlink => exact ⟨_, _, hroute, hslash, hlink, by simp⟩
  | file hroute hslash hfile => exact ⟨_, _, hroute, hslash, hfile, by simp⟩

theorem Says.extends {t : String} (h : Says fs pointer t) (hfs : Extends fs fs') :
    Says fs' pointer t := by
  cases h with
  | link hroute hslash hlink =>
    exact .link (FileSystem.route_within hfs.within hroute (by simp)) hslash
      (hfs.items _ _ hlink)
  | file hroute hslash hfile htext hend hblank =>
    exact .file (FileSystem.route_within hfs.within hroute (by simp)) hslash
      (hfs.items _ _ hfile) htext hend hblank

theorem targetText_extends (h : Extends fs fs') {t : String}
    (ht : targetText fs pointer = .ok t) : targetText fs' pointer = .ok t :=
  targetText_of_said ((says_of_targetText ht).extends h)

theorem resolve_extends (h : Extends fs fs') (hr : resolve fs pointer = .ok s) :
    resolve fs' pointer = .ok s := by
  obtain ⟨t, ht, hr⟩ := bind_eq_ok.1 hr
  refine bind_eq_ok.2 ⟨t, targetText_extends h ht, ?_⟩
  simp only at hr ⊢
  split at hr
  · next hdir => rw [if_pos (FileSystem.isDirectory_within h.within hdir), hr]
  · cases hr

/-- A pointer that was moved, and whose path leads where it led before, is a link to the result
set. -/
theorem IsMoved.readLink (h : IsMoved pid s pointer dir name fs fs')
    (hsteady : fs'.route false pointer = fs.route false pointer) :
    fs'.readLink pointer = .ok s.root.text := by
  rw [h.route] at hsteady
  exact FileSystem.readLink_eq_ok_iff.2 ⟨_, hsteady, rfl, (h.items _).trans (if_pos rfl)⟩

/-- A pointer never takes the place of a directory. -/
theorem IsMoved.directory (h : IsMoved pid s pointer dir name fs fs') {loc : Location}
    (hdir : fs.root.item? loc = some .directory) : fs'.root.item? loc = some .directory := by
  rw [h.items, if_neg, if_neg, hdir]
  · rintro rfl
    exact h.noDirectoryBeside hdir
  · rintro rfl
    exact h.noDirectory hdir

/-- A pointer outside a result set is moved without a change in it. -/
theorem IsMoved.holds {other : ResultSet} {text : Bucket → String}
    (h : IsMoved pid s pointer dir name fs fs') (hholds : other.Holds text fs)
    (houtside : ¬ other.location <+: dir ++ [name]) : other.Holds text fs' := by
  have hbeside : ¬ other.location <+: dir ++ [stagingName pid name] := by
    intro hp
    rcases List.prefix_concat_iff.1 hp with he | hp
    · exact h.noDirectoryBeside (he ▸ Entries.kind?_eq_directory.1 hholds.directory)
    · exact houtside (hp.trans (List.prefix_append _ _))
  have hsame : ∀ loc, other.location <+: loc → fs'.root.item? loc = fs.root.item? loc := by
    intro loc hp
    rw [h.items, if_neg, if_neg]
    · rintro rfl
      exact hbeside hp
    · rintro rfl
      exact houtside hp
  exact hholds.of_items hsame

/-- A pointer that is followed to a result set is a file or a link at the end of its path. -/
theorem route_of_resolve (h : resolve fs pointer = .ok s) :
    ∃ r e, fs.route false pointer = .ok r ∧ fs.root.item? r.spot.location = some e ∧
      e ≠ .directory := by
  obtain ⟨t, ht, -⟩ := bind_eq_ok.1 h
  obtain ⟨r, e, hr, -, hitem, hne⟩ := (says_of_targetText ht).route
  exact ⟨r, e, hr, hitem, hne⟩

/-- Where a pointer is followed to a result set, its staging path leads somewhere if it leads
somewhere elsewhere. -/
theorem route_staging_of_resolve {d : Location} {n : String}
    (hresolve : resolve fs pointer = .ok s)
    (helse : fs'.route false (staging pid pointer) = .ok ⟨.named d n, false⟩) :
    ∃ d', fs.route false (staging pid pointer) = .ok ⟨.named d' n, false⟩ := by
  obtain ⟨r, e, hr, hitem, hnot⟩ := route_of_resolve hresolve
  obtain ⟨haccepted, helse⟩ := FileSystem.route_eq_ok_iff.1 helse
  obtain ⟨hn, front, hfront⟩ := helse.last_of_named
  obtain ⟨hp, hwalk⟩ := FileSystem.route_eq_ok_iff.1 hr
  obtain ⟨spot, slash⟩ := r
  cases spot with
  | named dir name =>
    obtain ⟨hname, ns, hns⟩ := hwalk.last_of_named
    obtain ⟨ms, hms, -⟩ := staging_spec pid hns hname
    rw [hfront] at hms
    obtain rfl : n = stagingName pid name := by simpa using List.append_inj_right' hms rfl
    exact ⟨dir, route_staging hr haccepted hn⟩
  | inside l =>
    have hnone : fs.root.item? l ≠ some .directory := by
      intro hdir
      rw [Spot.location, hdir] at hitem
      exact hnot (Option.some.inj hitem).symm
    exact ⟨l, route_staging_of_inside hr hnone haccepted hfront hn⟩

/-- A pointer that is followed to a result set whatever was left at the staging path is followed to
it also where more has come. -/
theorem resolve_swept (h : Extends fs fs') (hr : resolve (swept pid pointer fs) pointer = .ok s) :
    resolve (swept pid pointer fs') pointer = .ok s := by
  have hgrown := (swept_extends pid pointer fs).trans h
  rcases swept_cases pid pointer fs' with hs | ⟨d, n, hroute', hnot, -, hs⟩
  · rw [hs]
    exact resolve_extends hgrown hr
  · -- what is taken out now was taken out before, or was not there
    obtain ⟨d', hd'⟩ := route_staging_of_resolve hr hroute'
    have hroute := FileSystem.route_within (swept_extends pid pointer fs).within hd' (by simp)
    have hsame := FileSystem.route_within h.within hroute (by simp)
    rw [hroute'] at hsame
    cases hsame
    have hnone : (swept pid pointer fs).root.item? (d ++ [n]) = none := by
      cases hitem : fs.root.item? (d ++ [n]) with
      | none =>
        cases hleft : (swept pid pointer fs).root.item? (d ++ [n]) with
        | none => rfl
        | some e =>
          rw [(swept_extends pid pointer fs).items _ _ hleft] at hitem
          cases hitem
      | some e =>
        have hne : e ≠ .directory := by
          rintro rfl
          exact hnot (h.items _ _ hitem)
        have hremoved := FileSystem.removeFile_of_item hroute hitem hne
        rw [swept_of_removeFile hremoved]
        exact (FileSystem.item?_without_leaf (by rw [hitem]; simpa using hne) _).trans (if_pos rfl)
    refine resolve_extends ⟨?_, fun loc e he => ?_⟩ hr
    · rw [hs, FileSystem.without_cwd, hgrown.cwd]
    · rw [hs, FileSystem.item?_without_leaf hnot, if_neg, hgrown.items loc e he]
      rintro rfl
      rw [hnone] at he
      cases he

end LatestPointer

end Fleet

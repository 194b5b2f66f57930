import Fleet.Proofs.Files.Beside
import Fleet.Settings.Load

namespace Fleet

/-! # Settings that are meant from a directory

The paths among the settings are meant from the directory of the campaign (`Settings.anchor`): an
absolute one stays as it is, and a relative one takes its steps behind those of the directory
(`Path.components_join_relative`).  Then each of them is absolute, so that they are meant from
anywhere (`Settings.resolve_eq_self`): `Settings.resolve_anchors` says so of all settings, and of
those that are loaded.
-/

namespace Path

variable {d p q : Path}

/-- The steps behind a leading `.`. -/
def behindHere : List Component → List Component
  | .here :: rest => rest
  | steps => steps

theorem inner?_ne_here (segment : List Char) : inner? segment ≠ some .here := by
  unfold inner?
  split
  · simp
  · split <;> simp

theorem components_of_absolute (h : p.isAbsolute = true) :
    p.components = .root :: p.segments.filterMap inner? := by
  obtain ⟨second, rest, hsegments⟩ := segments_root.1 h
  have hidle : inner? [] = none := rfl
  simp [components, leadAndBody, hsegments, hidle]

/-- A relative path begins with a `.` or at once with its segments. -/
theorem leadAndBody_of_relative (h : p.isAbsolute = false) :
    (∃ rest, p.segments = ['.'] :: rest ∧ p.leadAndBody = (.here, rest)) ∨
      p.leadAndBody = (.plain, p.segments) := by
  rw [leadAndBody]
  split
  · next second rest hs =>
    have hroot : p.isAbsolute = true := segments_root.2 ⟨second, rest, hs⟩
    rw [h] at hroot
    cases hroot
  · next rest hs => exact .inl ⟨rest, hs, rfl⟩
  · exact .inr rfl

theorem behindHere_filterMap (body : List (List Char)) :
    behindHere (body.filterMap inner?) = body.filterMap inner? := by
  cases hs : body.filterMap inner? with
  | nil => rfl
  | cons step steps =>
    have hne : step ≠ .here := by
      rintro rfl
      obtain ⟨segment, -, hstep⟩ := List.mem_filterMap.1 (hs ▸ List.mem_cons_self)
      exact inner?_ne_here segment hstep
    cases step with
    | here => exact absurd rfl hne
    | root | up | name => rfl

theorem behindHere_components (h : p.isAbsolute = false) :
    behindHere p.components = p.segments.filterMap inner? := by
  have hdot : inner? ['.'] = none := rfl
  rcases leadAndBody_of_relative h with ⟨rest, hsegments, hbody⟩ | hbody
  · simp [components, hbody, behindHere, hsegments, hdot]
  · simp [components, hbody, behindHere_filterMap]

/-- A relative path that is joined to an absolute one takes its steps behind those of the other. -/
theorem components_join_relative (hd : d.isAbsolute = true) (hp : p.isAbsolute = false) :
    (d / p.text).components = d.components ++ behindHere p.components := by
  have hjoin : (d / p.text).isAbsolute = true :=
    (FileSystem.startsAtRoot_join (p := d) hp).trans hd
  have hidle : inner? [] = none := rfl
  have hsteps : (d / p.text).segments.filterMap inner? =
      d.segments.filterMap inner? ++ p.segments.filterMap inner? := by
    rcases FileSystem.join_text (p := d) hp with ⟨he, -⟩ | ⟨front, hfront, ht⟩ | ⟨-, ht⟩
    · have hempty : d.text = "" := by simpa using he
      simp [isAbsolute, hempty] at hd
    · -- the slash at the end of the directory is the one between the two
      rw [segments, ht, Text.splitOn_append_cons, segments, hfront, Text.splitOn_append_cons]
      simp [hidle, segments]
    · rw [segments, ht, Text.splitOn_append_cons, List.filterMap_append, segments, segments]
  rw [components_of_absolute hjoin, components_of_absolute hd, behindHere_components hp, hsteps]
  rfl

end Path

namespace Settings

variable {s : Settings} {d p q : Path} {fs : FileSystem}

/-- What is meant by a path in a directory: a path from the root, which is the path itself if it is
one already, and else has the steps of the directory and then those of the path. -/
structure IsAnchored (d p q : Path) : Prop where
  absolute : q.isAbsolute = true
  kept : p.isAbsolute = true → q = p
  below : p.isAbsolute = false → q.components = d.components ++ Path.behindHere p.components

theorem isAnchored_anchor (hd : d.isAbsolute = true) (p : Path) : IsAnchored d p (anchor d p) := by
  unfold anchor
  split
  · next hp => exact ⟨hp, fun _ => rfl, fun hrel => by simp [hrel] at hp⟩
  · next hp =>
    have hrel : p.isAbsolute = false := by simpa using hp
    exact ⟨(FileSystem.startsAtRoot_join (p := d) hrel).trans hd, fun h => absurd h hp,
      Path.components_join_relative hd⟩

/-- The path that a setting says, if it is a setting with a path and is given. -/
def path? (s : Settings) : Field → Option Path
  | .reposFile => some s.reposFile
  | .descriptionFile => some s.descriptionFile
  | .workDir => some s.workDir
  | .resultsDir => s.resultsDir
  | .latestResults => some s.latestResults
  | .cloneHost => none

@[simp] theorem path?_resolve (s : Settings) (d : Path) (field : Field) :
    (s.resolve d).path? field = (s.path? field).map (anchor d) := by
  cases field <;> rfl

/-- Where every path is absolute, there is nothing left to resolve. -/
theorem resolve_eq_self (h : ∀ field p, s.path? field = some p → p.isAbsolute = true) (d : Path) :
    s.resolve d = s := by
  have hkept : ∀ field p, s.path? field = some p → anchor d p = p := fun field p hp =>
    if_pos (h field p hp)
  have hresults : s.resultsDir.map (anchor d) = s.resultsDir := by
    cases hdir : s.resultsDir with
    | none => rfl
    | some dir => exact congrArg some (hkept .resultsDir dir hdir)
  rw [resolve, hkept .reposFile _ rfl, hkept .descriptionFile _ rfl, hkept .workDir _ rfl,
    hkept .latestResults _ rfl, hresults]

theorem resolve_resolve (s : Settings) (hd : d.isAbsolute = true) (d' : Path) :
    (s.resolve d).resolve d' = s.resolve d := by
  refine resolve_eq_self (fun field q hq => ?_) d'
  rw [path?_resolve, Option.map_eq_some_iff] at hq
  obtain ⟨p, -, rfl⟩ := hq
  exact (isAnchored_anchor hd p).absolute

/-- Whatever is loaded has been resolved. -/
theorem exists_of_load {loaded : Settings} (h : load fs d = .ok loaded) :
    ∃ s, loaded = resolve s d := by
  unfold load at h
  split at h
  · split at h
    · exact ⟨_, (Except.ok.inj h).symm⟩
    · cases h
  · split at h
    · exact ⟨_, (Except.ok.inj h).symm⟩
    · cases h

theorem load_of_missing (h : fs.readText (fileOf d) = .error .noEntry) :
    load fs d = .ok (resolve {} d) := by
  simp [load, h]

theorem load_of_parse {text : String} (htext : fs.readText (fileOf d) = .ok text)
    (hparse : parse text = .ok s) : load fs d = .ok (s.resolve d) := by
  simp [load, htext, hparse]

/-- Settings that are resolved in an absolute directory say what they said, but for their paths:
each of these that is given is given still, and is the path that was meant in this directory.  To
resolve them again, wherever, makes no difference.

So it is with the settings that are loaded, which are the defaults if there is no settings file, and
else what the file says. -/
theorem resolve_anchors (hd : d.isAbsolute = true) (s : Settings) (fs : FileSystem) :
    ((∀ field, (s.path? field = none → (s.resolve d).path? field = none) ∧
        ∀ p, s.path? field = some p →
          ∃ q, (s.resolve d).path? field = some q ∧ IsAnchored d p q) ∧
      (s.resolve d).cloneHost = s.cloneHost ∧
      ∀ d', (s.resolve d).resolve d' = s.resolve d) ∧
    (fs.readText (fileOf d) = .error .noEntry → load fs d = .ok (resolve {} d)) ∧
      (∀ text, fs.readText (fileOf d) = .ok text → parse text = .ok s →
        load fs d = .ok (s.resolve d)) ∧
      ∀ loaded, load fs d = .ok loaded → ∀ d', loaded.resolve d' = loaded := by
  refine ⟨⟨fun field => ⟨fun h => ?_, fun p hp => ?_⟩, rfl, resolve_resolve s hd⟩,
    load_of_missing, fun text htext hparse => load_of_parse htext hparse,
    fun loaded hloaded d' => ?_⟩
  · rw [path?_resolve, h]
    rfl
  · exact ⟨anchor d p, by rw [path?_resolve, hp]; rfl, isAnchored_anchor hd p⟩
  · obtain ⟨s', rfl⟩ := exists_of_load hloaded
    exact resolve_resolve s' hd d'

/-- Paths of many shapes in a directory with a slash at its end, where the settings file gives one
of them. -/
theorem resolve_anchors_sample :
    let d : Path := ⟨"/c/"⟩
    let s : Settings := { workDir := ⟨"./a/../b/"⟩, resultsDir := some ⟨""⟩,
                          latestResults := ⟨"/srv/./x"⟩ }
    let fs : FileSystem := { root := [("c", .directory
      [(settingsFile, .file "work_dir: ./a/../b/\nresults_dir: ''\nlatest_results: /srv/./x".toUTF8
        false)])] }
    d.isAbsolute = true ∧
      (∃ q, (s.resolve d).path? .workDir = some q ∧ IsAnchored d ⟨"./a/../b/"⟩ q) ∧
      (∃ q, (s.resolve d).path? .resultsDir = some q ∧ IsAnchored d ⟨""⟩ q) ∧
      (s.resolve d).path? .latestResults = some ⟨"/srv/./x"⟩ ∧
      load fs d = .ok (s.resolve d) ∧ (s.resolve d).resolve ⟨"elsewhere"⟩ = s.resolve d ∧
      load {} d = .ok (resolve {} d) := by
  intro d s fs
  have hd : d.isAbsolute = true := by decide
  obtain ⟨⟨hpaths, -, -⟩, -, hgiven, hagain⟩ := resolve_anchors hd s fs
  have hloaded : load fs d = .ok (s.resolve d) :=
    hgiven "work_dir: ./a/../b/\nresults_dir: ''\nlatest_results: /srv/./x" (by decide +kernel)
      (by decide +kernel)
  refine ⟨hd, (hpaths .workDir).2 _ rfl, (hpaths .resultsDir).2 _ rfl, ?_, hloaded,
    hagain _ hloaded _, (resolve_anchors hd {} {}).2.1 (by decide +kernel)⟩
  obtain ⟨q, hq, hanchored⟩ := (hpaths .latestResults).2 _ rfl
  rw [hq, hanchored.kept (by decide)]

end Settings

end Fleet

import Fleet.Proofs.Files.Kinds
import Fleet.Proofs.Files.Parents
import Fleet.Proofs.ResultSet
import Fleet.Run

namespace Fleet

/-! # Recording in any state of the files

A result is recorded by two writes, one to the list of its bucket and one to its log, and a result
set may be in such a state that either of them fails, or both.  `ResultSet.CanList` and
`ResultSet.CanLog` say of the files before it what each of them needs.  Main statements:
`ResultSet.record_isRecorded`, which says what has become of the files, and
`Recorder.record_independently`, which adds the warnings.
-/

open FileSystem (IsAlong IsMadeFor IsProper LeadsTo NoLinksIn Reaches SameKinds under)

namespace ResultSet

/-- No link stands in the directory of the result set. -/
def HasNoLinks (s : ResultSet) (fs : FileSystem) : Prop :=
  ∀ base, LeadsTo fs s.root base → NoLinksIn fs base

/-- The list of the bucket is a file. -/
def CanList (s : ResultSet) (b : Bucket) (fs : FileSystem) : Prop :=
  ∃ text, fs.readFile (s.bucketList b) = .ok text

/-- The directory of the log can be made, and then the log can be written. -/
def CanLog (s : ResultSet) (b : Bucket) (result : Result) (fs : FileSystem) : Prop :=
  ∃ made written, fs.makeDirectories (result.repo.workDir (s.bucketDir b)) = (made, .ok ()) ∧
    made.writeText (s.bucketLog b result.repo) result.log = .ok written

variable {s : ResultSet} {b : Bucket} {result : Result} {repo : Repository}
  {fs fs' made : FileSystem} {base loc : Location} {entry : List Char}

/-! ## The paths in a bucket -/

theorem bucket_isProper (b : Bucket) : IsProper b.name :=
  ⟨bucket_isSegment b, (bucket_ne_dots b).1, (bucket_ne_dots b).2⟩

theorem listFile_isProper : IsProper listFile := ⟨listFile_isSegment, by decide, by decide⟩

theorem logFile_isProper : IsProper logFile := ⟨logFile_isSegment, by decide, by decide⟩

/-- The names that lead from a result set to the directory of a log. -/
def logNames (b : Bucket) (repo : Repository) : List String := [b.name, repo.org, repo.name]

theorem workDir_eq_under (s : ResultSet) (b : Bucket) (repo : Repository) :
    repo.workDir (s.bucketDir b) = under s.root (logNames b repo) := rfl

theorem bucketLog_eq_under (s : ResultSet) (b : Bucket) (repo : Repository) :
    s.bucketLog b repo = under s.root (logNames b repo) / logFile := rfl

theorem bucketList_eq_under (s : ResultSet) (b : Bucket) :
    s.bucketList b = under s.root [b.name] / listFile := rfl

theorem logNames_isProper (h : Repository.parse? entry = some repo) (b : Bucket) :
    ∀ m ∈ logNames b repo, IsProper m := by
  have horg := Repository.org_isSegment_of_parse? h
  have hname := Repository.name_isSegment_of_parse? h
  have hproper : IsProper repo.org ∧ IsProper repo.name :=
    ⟨⟨horg.1, horg.2.1, horg.2.2⟩, ⟨hname.1, hname.2.1, hname.2.2⟩⟩
  simp [logNames, bucket_isProper b, hproper]

/-- The directory of a log ends with the name of the repository. -/
theorem workDir_endsWell (h : Repository.parse? entry = some repo) (b : Bucket) :
    (repo.workDir (s.bucketDir b)).EndsWell ∧ (repo.workDir (s.bucketDir b)).text ≠ "" := by
  obtain ⟨hname, hhere, -⟩ := Repository.name_isSegment_of_parse? h
  exact ⟨.inr ⟨_, _, hname.names_join, hhere⟩, hname.join_ne_empty⟩

/-! ## The list -/

/-- A list that is a file has one line more, and nothing else has changed. -/
theorem addToList_of_canList (h : s.CanList b fs) (repo : Repository) :
    ∃ g r text x, s.addToList b repo fs = (g, .ok ()) ∧
      fs.route true (s.bucketList b) = .ok r ∧ r.slash = false ∧
      fs.root.item? r.spot.location = some (.file text x) ∧ g.cwd = fs.cwd ∧
      ∀ l, g.root.item? l = if l = r.spot.location
        then some (.file (text ++ (repo.fullName ++ "\n").toUTF8) x) else fs.root.item? l := by
  obtain ⟨text, htext⟩ := h
  obtain ⟨r, x, hr, hslash, hfile⟩ := FileSystem.readFile_eq_ok_iff.1 htext
  obtain ⟨g, happend, hcwd, hitems⟩ :=
    FileSystem.appendText_of_file (repo.fullName ++ "\n") hr hslash hfile
  refine ⟨g, r, text, x, ?_, hr, hslash, hfile, hcwd, hitems⟩
  unfold addToList
  rw [happend]

theorem addToList_of_not (h : ¬ s.CanList b fs) (repo : Repository) :
    ∃ e, s.addToList b repo fs = (fs, .error (.recorder (s.bucketList b) e)) := by
  unfold addToList
  split
  · next g happend =>
    obtain ⟨⟨loc, node⟩, hs, hput⟩ := bind_eq_ok.1 happend
    cases node with
    | file text x => exact absurd ⟨text, by simp [FileSystem.readFile, hs, bind, Except.bind]⟩ h
    | link t => cases hput
    | directory inside => cases hput
  · exact ⟨_, rfl⟩

theorem addToList_sameKinds (s : ResultSet) (b : Bucket) (repo : Repository) (fs : FileSystem) :
    SameKinds fs (s.addToList b repo fs).1 := by
  by_cases h : s.CanList b fs
  · obtain ⟨g, r, text, x, hadd, -, -, hfile, hcwd, hitems⟩ := addToList_of_canList h repo
    rw [hadd]
    exact .of_file hcwd hfile hitems
  · obtain ⟨e, he⟩ := addToList_of_not h repo
    rw [he]
    exact .refl fs

/-- Whatever is different is the list. -/
theorem addToList_changed {l : Location}
    (hl : (s.addToList b repo fs).1.root.item? l ≠ fs.root.item? l) :
    s.CanList b fs ∧ Reaches fs (s.bucketList b) l ∧ fs.root.kind? l = some .file := by
  by_cases h : s.CanList b fs
  · obtain ⟨g, r, text, x, hadd, hr, -, hfile, -, hitems⟩ := addToList_of_canList h repo
    rw [hadd] at hl
    obtain rfl : l = r.spot.location := by
      by_contra hne
      exact hl ((hitems l).trans (if_neg hne))
    exact ⟨h, ⟨r, hr, rfl⟩, by simp [Entries.kind?, hfile]⟩
  · obtain ⟨e, he⟩ := addToList_of_not h repo
    rw [he] at hl
    exact absurd rfl hl

/-- A result set with a list is there. -/
theorem leadsTo_root_of_reaches {l : Location} (hreach : Reaches fs (s.bucketList b) l)
    (hfile : fs.root.kind? l = some .file) : ∃ base, LeadsTo fs s.root base := by
  obtain ⟨r, hr, rfl⟩ := hreach
  obtain ⟨d, hlead, -⟩ := LeadsTo.of_route listFile_isProper hr (by simp [hfile])
  exact (hlead.of_below (bucket_isProper b)).imp fun _ h => h.1

/-- Where there are no links, a list stands in its bucket. -/
theorem location_of_bucketList (hbase : LeadsTo fs s.root base) (hlinks : NoLinksIn fs base)
    {l : Location} (hreach : Reaches fs (s.bucketList b) l)
    (hfile : fs.root.kind? l = some .file) : l = base ++ [b.name] ++ [listFile] := by
  have hbucket : ∀ m ∈ [b.name], IsProper m := by simpa using bucket_isProper b
  rw [bucketList_eq_under] at hreach
  refine hbase.eq_of_reaches hlinks hbucket listFile_isProper hreach fun hnone => ?_
  simp [Entries.kind?, hnone] at hfile

/-! ## The log -/

/-- Whether a log can be written does not depend on what files hold. -/
theorem CanLog.of_sameKinds (h : s.CanLog b result fs) (hsame : SameKinds fs fs') :
    s.CanLog b result fs' := by
  obtain ⟨made, written, hmade, hwritten⟩ := h
  obtain ⟨hend, hkinds⟩ := hsame.makeDirectories (result.repo.workDir (s.bucketDir b))
  rw [hmade] at hend hkinds
  obtain ⟨written', hwritten'⟩ := hkinds.writeFile ⟨written, hwritten⟩
  exact ⟨_, written', Prod.ext rfl hend, hwritten'⟩

theorem canLog_congr (s : ResultSet) (b : Bucket) (result : Result) (hsame : SameKinds fs fs') :
    s.CanLog b result fs' ↔ s.CanLog b result fs :=
  ⟨fun h => h.of_sameKinds hsame.symm, fun h => h.of_sameKinds hsame⟩

theorem writeLog_of_canLog (h : s.CanLog b result fs) :
    ∃ made written, fs.makeDirectories (result.repo.workDir (s.bucketDir b)) = (made, .ok ()) ∧
      made.writeText (s.bucketLog b result.repo) result.log = .ok written ∧
      s.writeLog b result.repo result.log fs = (written, .ok ()) := by
  obtain ⟨made, written, hmade, hwritten⟩ := h
  exact ⟨made, written, hmade, hwritten, by simp [writeLog, hmade, hwritten]⟩

/-- What cannot be written leaves the directories that were made for it. -/
theorem writeLog_of_not (h : ¬ s.CanLog b result fs) :
    ∃ e, s.writeLog b result.repo result.log fs =
      ((fs.makeDirectories (result.repo.workDir (s.bucketDir b))).1,
        .error (.recorder (s.bucketLog b result.repo) e)) := by
  unfold writeLog
  rcases hmade : fs.makeDirectories (result.repo.workDir (s.bucketDir b)) with ⟨made, e | ⟨⟨⟩⟩⟩
  · exact ⟨e, rfl⟩
  · cases hwritten : made.writeText (s.bucketLog b result.repo) result.log with
    | ok written => exact absurd ⟨made, written, hmade, hwritten⟩ h
    | error e => exact ⟨e, by simp [hwritten]⟩

/-- A log that cannot be written is not there, whichever directories were made for it. -/
theorem readFile_bucketLog_of_not (hrepo : Repository.parse? entry = some result.repo)
    (h : ¬ s.CanLog b result fs) {content : ByteArray} :
    (fs.makeDirectories (result.repo.workDir (s.bucketDir b))).1.readFile
      (s.bucketLog b result.repo) ≠ .ok content := by
  intro hread
  obtain ⟨hend, hne⟩ := workDir_endsWell (s := s) hrepo b
  obtain ⟨r, x, hr, -, hitem⟩ := FileSystem.readFile_eq_ok_iff.1 hread
  -- the file stands in the directory of the log, so that was made
  obtain ⟨d, hlead, -, hfits⟩ :=
    LeadsTo.of_route logFile_isProper hr (by simp [Entries.kind?, hitem])
  have hdir := hlead.isDirectory (logFile_isSegment.not_refused hne hfits.not_refused)
  have hmade := (FileSystem.isDirectory_makeDirectories_iff hend hne).1 hdir
  have hdots : ¬ ∀ m ∈ FileSystem.names (s.bucketLog b result.repo).text, m = "." ∨ m = ".." := by
    rw [bucketLog, logFile_isSegment.names_join]
    exact fun hdots => absurd (hdots logFile (by simp)) (by decide)
  obtain ⟨written, hwritten⟩ := FileSystem.writeFile_isOk_of_readFile hread hdots
  exact h ⟨_, written, Prod.ext rfl hmade, hwritten⟩

theorem readFile_bucketLog_iff (hrepo : Repository.parse? entry = some result.repo) :
    (s.writeLog b result.repo result.log fs).1.readFile (s.bucketLog b result.repo) =
      .ok result.log.toUTF8 ↔ s.CanLog b result fs := by
  by_cases h : s.CanLog b result fs
  · obtain ⟨made, written, -, hwritten, hlog⟩ := writeLog_of_canLog h
    rw [hlog]
    exact iff_of_true (FileSystem.readFile_of_writeFile hwritten) h
  · obtain ⟨e, he⟩ := writeLog_of_not h
    rw [he]
    exact iff_of_false (readFile_bucketLog_of_not hrepo h) h

/-- Whatever is different is the log, or a directory that was made for it. -/
theorem writeLog_changed {l : Location}
    (hl : (s.writeLog b result.repo result.log fs).1.root.item? l ≠ fs.root.item? l) :
    (s.CanLog b result fs ∧
        Reaches (s.writeLog b result.repo result.log fs).1 (s.bucketLog b result.repo) l ∧
        (s.writeLog b result.repo result.log fs).1.root.kind? l = some .file) ∨
      (fs.makeDirectories (result.repo.workDir (s.bucketDir b))).1.root.item? l ≠ fs.root.item? l ∧
        IsMadeFor (result.repo.workDir (s.bucketDir b)) fs
          (s.writeLog b result.repo result.log fs).1 l := by
  have hnew : (fs.makeDirectories (result.repo.workDir (s.bucketDir b))).1.root.item? l ≠
      fs.root.item? l → IsMadeFor _ fs _ l := FileSystem.isMadeFor_of_makeDirectories
  by_cases h : s.CanLog b result fs
  · obtain ⟨made, written, hmade, hwritten, hlog⟩ := writeLog_of_canLog h
    rw [hlog] at hl ⊢
    rw [hmade] at hnew ⊢
    have hwithin := FileSystem.writeFile_within hwritten
    obtain ⟨d, x, exec, hr, -, -, hitems⟩ := FileSystem.writeFile_eq_ok hwritten
    by_cases hplace : l = d ++ [x]
    · subst hplace
      have hitem := (hitems (d ++ [x])).trans (if_pos rfl)
      rw [FileSystem.endsInSlash_of_route hr rfl] at hr
      exact .inl ⟨h, Reaches.within ⟨_, hr, rfl⟩ hwithin fun t => by simp [hitem],
        by simp [Entries.kind?, hitem]⟩
    · have hsame := (hitems l).trans (if_neg hplace)
      rw [hsame] at hl
      exact .inr ⟨hl, (hnew hl).within hwithin hsame⟩
  · obtain ⟨e, he⟩ := writeLog_of_not h
    rw [he] at hl ⊢
    exact .inr ⟨hl, hnew hl⟩

/-- No link comes with a log. -/
theorem writeLog_links (l : Location) (t : String)
    (ht : (s.writeLog b result.repo result.log fs).1.root.item? l = some (.link t)) :
    fs.root.item? l = some (.link t) := by
  by_contra hne
  rcases writeLog_changed fun hsame => hne (hsame ▸ ht) with ⟨-, -, hfile⟩ | ⟨-, hnew⟩
  · simp [Entries.kind?, ht] at hfile
  · cases ht.symm.trans hnew.directory

/-- Where there are no links, a log stands where its names say. -/
theorem location_of_bucketLog (hrepo : Repository.parse? entry = some result.repo)
    (hbase : LeadsTo fs s.root base) (hlinks : NoLinksIn fs base) {l : Location}
    (hreach : Reaches (s.writeLog b result.repo result.log fs).1 (s.bucketLog b result.repo) l)
    (hfile : (s.writeLog b result.repo result.log fs).1.root.kind? l = some .file) :
    l = base ++ logNames b result.repo ++ [logFile] := by
  have hbase' := hbase.within (writeLog_within s b result.repo result.log fs)
  rw [bucketLog_eq_under] at hreach
  refine hbase'.eq_of_reaches (hlinks.of_links writeLog_links) (logNames_isProper hrepo b)
    logFile_isProper hreach fun hnone => ?_
  simp [Entries.kind?, hnone] at hfile

/-- Where there are no links, the list stays as it is, unless a directory takes a free place. -/
theorem item?_list_of_writeLog (hrepo : Repository.parse? entry = some result.repo)
    (hbase : LeadsTo fs s.root base) (hlinks : NoLinksIn fs base)
    (hnot : fs.root.item? (base ++ [b.name] ++ [listFile]) ≠ none ∨
      (s.writeLog b result.repo result.log fs).1.root.item? (base ++ [b.name] ++ [listFile]) ≠
        some .directory) :
    (s.writeLog b result.repo result.log fs).1.root.item? (base ++ [b.name] ++ [listFile]) =
      fs.root.item? (base ++ [b.name] ++ [listFile]) := by
  by_contra hl
  rcases writeLog_changed hl with ⟨-, hreach, hlog⟩ | ⟨-, hnew⟩
  · -- a log is two names deeper than a list
    have hdeep := location_of_bucketLog hrepo hbase hlinks hreach hlog
    simpa [logNames] using congrArg List.length hdeep
  · exact hnot.elim (fun h => h hnew.free) fun h => h hnew.directory

/-- What is no list does not become one when a log is written. -/
theorem canList_of_writeLog (hrepo : Repository.parse? entry = some result.repo)
    (hbase : LeadsTo fs s.root base) (hlinks : NoLinksIn fs base)
    (h : s.CanList b (s.writeLog b result.repo result.log fs).1) : s.CanList b fs := by
  obtain ⟨text, htext⟩ := h
  obtain ⟨r, x, hr, -, hfile⟩ := FileSystem.readFile_eq_ok_iff.1 htext
  have hbase' := hbase.within (writeLog_within s b result.repo result.log fs)
  have hplace := location_of_bucketList hbase' (hlinks.of_links writeLog_links) ⟨r, hr, rfl⟩
    (by simp [Entries.kind?, hfile])
  rw [hplace] at hfile
  rw [item?_list_of_writeLog hrepo hbase hlinks
    (.inr fun hdir => by cases hfile.symm.trans hdir)] at hfile
  -- the file was there before, so its path led to it
  have hbucket := hbase.below (bucket_isProper b) (bucket_isName b)
    (FileSystem.item?_directory_above hfile)
  have hroute := hbucket.route_eq listFile_isProper (.of_route listFile_isProper hr)
  refine ⟨text, FileSystem.readFile_eq_ok_iff.2 ⟨_, x, FileSystem.route_true_of_false hroute ?_,
    rfl, hfile⟩⟩
  intro t ht
  cases hfile.symm.trans (Entries.kind?_eq_link.1 ht)

/-- Where there are no links, whatever is different is the log, or a directory on the way to it. -/
theorem writeLog_along (hrepo : Repository.parse? entry = some result.repo)
    (hbase : LeadsTo fs s.root base) (hlinks : NoLinksIn fs base) {l : Location}
    (hl : (s.writeLog b result.repo result.log fs).1.root.item? l ≠ fs.root.item? l) :
    (l = base ++ logNames b result.repo ++ [logFile] ∧
        (s.writeLog b result.repo result.log fs).1.root.kind? l = some .file) ∨
      (IsAlong base (logNames b result.repo) l ∧
        (s.writeLog b result.repo result.log fs).1.root.kind? l = some .directory) := by
  rcases writeLog_changed hl with ⟨-, hreach, hfile⟩ | ⟨hmade, hnew⟩
  · exact .inl ⟨location_of_bucketLog hrepo hbase hlinks hreach hfile, hfile⟩
  · have hend := (workDir_endsWell (s := s) hrepo b).1
    rw [workDir_eq_under] at hmade hend
    exact .inr ⟨hbase.makeDirectories_under hlinks (logNames_isProper hrepo b) hend hmade,
      Entries.kind?_eq_directory.2 hnew.directory⟩

/-- Where there are no links, a log and its directories are in the bucket. -/
theorem writeLog_inBucket (hrepo : Repository.parse? entry = some result.repo)
    (hbase : LeadsTo fs s.root base) (hlinks : NoLinksIn fs base) {l : Location}
    (hl : (s.writeLog b result.repo result.log fs).1.root.item? l ≠ fs.root.item? l) :
    base ++ [b.name] <+: l := by
  rcases writeLog_along hrepo hbase hlinks hl with ⟨rfl, -⟩ | ⟨⟨ks, hne, hks, rfl⟩, -⟩
  · simp [logNames]
  · cases ks with
    | nil => exact absurd rfl hne
    | cons k ks =>
      obtain ⟨rfl, -⟩ := List.cons_prefix_cons.1 hks
      simp

/-! ## Both -/

theorem record_eq (hb : result.outcome.bucket? = some b) (s : ResultSet) (fs : FileSystem) :
    s.record result fs =
      ((s.writeLog b result.repo result.log (s.addToList b result.repo fs).1).1,
        match (s.addToList b result.repo fs).2 with
        | .error e => .error e
        | .ok () =>
          (s.writeLog b result.repo result.log (s.addToList b result.repo fs).1).2) := by
  unfold record
  split
  · next hnone =>
    rw [hb] at hnone
    cases hnone
  · next b' hb' =>
    obtain rfl : b = b' := Option.some.inj (hb.symm.trans hb')
    rfl

/-- Recording goes wrong if the list or the log does; if both do, the error is that of the list. -/
theorem record_error (hb : result.outcome.bucket? = some b) (s : ResultSet) (fs : FileSystem) :
    (s.CanList b fs → s.CanLog b result fs → (s.record result fs).2 = .ok ()) ∧
      (¬ s.CanList b fs →
        ∃ e, (s.record result fs).2 = .error (.recorder (s.bucketList b) e)) ∧
      (s.CanList b fs → ¬ s.CanLog b result fs →
        ∃ e, (s.record result fs).2 = .error (.recorder (s.bucketLog b result.repo) e)) := by
  have hlog := canLog_congr s b result (addToList_sameKinds s b result.repo fs)
  rw [record_eq hb]
  refine ⟨fun hlist hcan => ?_, fun hlist => ?_, fun hlist hcan => ?_⟩
  · obtain ⟨g, -, -, -, hadd, -⟩ := addToList_of_canList hlist result.repo
    obtain ⟨_, _, -, -, hwritten⟩ := writeLog_of_canLog (hlog.2 hcan)
    rw [hwritten, hadd]
  · obtain ⟨e, he⟩ := addToList_of_not hlist result.repo
    rw [he]
    exact ⟨e, rfl⟩
  · obtain ⟨g, -, -, -, hadd, -⟩ := addToList_of_canList hlist result.repo
    obtain ⟨e, he⟩ := writeLog_of_not fun h => hcan (hlog.1 h)
    rw [he, hadd]
    exact ⟨e, rfl⟩

/-- What recording a result in a bucket makes of the files.  The list has one line more if it is a
file, and the log is the text of the result if it can be written, each whatever becomes of the
other; and there is nothing else but directories that are made for the log.  Where the result set
is there, no list comes to be, and all of it happens in the bucket. -/
structure IsRecorded (s : ResultSet) (b : Bucket) (result : Result) (fs fs' : FileSystem) :
    Prop where
  cwd : fs'.cwd = fs.cwd
  listed : (∃ text, fs.readFile (s.bucketList b) = .ok text ∧ fs'.readFile (s.bucketList b) =
    .ok (text ++ (result.repo.fullName ++ "\n").toUTF8)) ↔ s.CanList b fs
  remains : ∀ base, LeadsTo fs s.root base → (s.CanList b fs' ↔ s.CanList b fs)
  logged : fs'.readFile (s.bucketLog b result.repo) = .ok result.log.toUTF8 ↔
    s.CanLog b result fs
  changed : ∀ l, fs'.root.item? l ≠ fs.root.item? l →
    (s.CanList b fs ∧ Reaches fs' (s.bucketList b) l) ∨
      (s.CanLog b result fs ∧ Reaches fs' (s.bucketLog b result.repo) l) ∨
      IsMadeFor (result.repo.workDir (s.bucketDir b)) fs fs' l
  inBucket : ∀ base, LeadsTo fs s.root base →
    ∀ l, fs'.root.item? l ≠ fs.root.item? l → base ++ [b.name] <+: l

/-- A list that is a file has one line more, whatever becomes of the log. -/
theorem record_listed (hb : result.outcome.bucket? = some b)
    (hrepo : Repository.parse? entry = some result.repo) (hlinks : s.HasNoLinks fs)
    (h : s.CanList b fs) :
    ∃ text, fs.readFile (s.bucketList b) = .ok text ∧
      (s.record result fs).1.readFile (s.bucketList b) =
        .ok (text ++ (result.repo.fullName ++ "\n").toUTF8) := by
  obtain ⟨g, r, text, x, hadd, hr, hslash, hfile, -, hitems⟩ := addToList_of_canList h result.repo
  have hwithin := record_within s result fs
  have hsame := addToList_sameKinds s b result.repo fs
  rw [record_eq hb, hadd] at hwithin
  rw [hadd] at hsame
  rw [record_eq hb, hadd]
  have hkind : fs.root.kind? r.spot.location = some .file := by simp [Entries.kind?, hfile]
  obtain ⟨base, hbase⟩ := leadsTo_root_of_reaches ⟨r, hr, rfl⟩ hkind
  have hplace := location_of_bucketList hbase (hlinks base hbase) ⟨r, hr, rfl⟩ hkind
  -- the line that was added is there when the log has been written
  have hitem := (hitems r.spot.location).trans (if_pos rfl)
  have hstays := item?_list_of_writeLog hrepo (hbase.within hsame.within)
    ((hlinks base hbase).of_links hsame.links)
    (.inl fun hnone => by cases hitem.symm.trans (hplace ▸ hnone))
  rw [← hplace, hitem] at hstays
  have hr' := FileSystem.route_within hwithin hr fun _ t ht => by
    simp [Entries.kind?, hstays] at ht
  exact ⟨text, FileSystem.readFile_eq_ok_iff.2 ⟨r, x, hr, hslash, hfile⟩,
    FileSystem.readFile_eq_ok_iff.2 ⟨r, x, hr', hslash, hstays⟩⟩

/-- What is no list does not become one, whatever becomes of the log. -/
theorem record_canList_iff (hb : result.outcome.bucket? = some b)
    (hrepo : Repository.parse? entry = some result.repo) (hlinks : s.HasNoLinks fs)
    (hbase : LeadsTo fs s.root base) :
    s.CanList b (s.record result fs).1 ↔ s.CanList b fs := by
  constructor
  · intro hafter
    by_contra hnot
    obtain ⟨e, he⟩ := addToList_of_not hnot result.repo
    rw [record_eq hb, he] at hafter
    exact hnot (canList_of_writeLog hrepo hbase (hlinks base hbase) hafter)
  · intro h
    obtain ⟨text, -, htext⟩ := record_listed hb hrepo hlinks h
    exact ⟨_, htext⟩

/-- Whatever is different is the list, the log, or a directory that was made for the log. -/
theorem record_changed (hb : result.outcome.bucket? = some b) {l : Location}
    (hl : (s.record result fs).1.root.item? l ≠ fs.root.item? l) :
    (s.CanList b fs ∧ Reaches (s.record result fs).1 (s.bucketList b) l) ∨
      (s.CanLog b result fs ∧ Reaches (s.record result fs).1 (s.bucketLog b result.repo) l) ∨
      IsMadeFor (result.repo.workDir (s.bucketDir b)) fs (s.record result fs).1 l := by
  have hwithin := record_within s result fs
  by_cases hg : (s.addToList b result.repo fs).1.root.item? l = fs.root.item? l
  · rw [record_eq hb] at hl ⊢
    rw [← hg] at hl
    rcases writeLog_changed hl with ⟨hcan, hreach, -⟩ | ⟨-, hnew⟩
    · exact .inr (.inl ⟨hcan.of_sameKinds (addToList_sameKinds s b result.repo fs).symm, hreach⟩)
    · exact .inr (.inr ⟨hg.symm.trans hnew.free, hnew.directory, hnew.reached⟩)
  · obtain ⟨hcan, hreach, hfile⟩ := addToList_changed hg
    refine .inl ⟨hcan, hreach.within hwithin fun t ht => ?_⟩
    simpa [Entries.kind?, ht] using hwithin.kinds l _ hfile

/-- Where there are no links, all of it is in the bucket. -/
theorem record_inBucket (hb : result.outcome.bucket? = some b)
    (hrepo : Repository.parse? entry = some result.repo) (hlinks : s.HasNoLinks fs)
    (hbase : LeadsTo fs s.root base) {l : Location}
    (hl : (s.record result fs).1.root.item? l ≠ fs.root.item? l) : base ++ [b.name] <+: l := by
  have hsame := addToList_sameKinds s b result.repo fs
  rw [record_eq hb] at hl
  by_cases hg : (s.addToList b result.repo fs).1.root.item? l = fs.root.item? l
  · rw [← hg] at hl
    exact writeLog_inBucket hrepo (hbase.within hsame.within)
      ((hlinks base hbase).of_links hsame.links) hl
  · obtain ⟨-, hreach, hfile⟩ := addToList_changed hg
    rw [location_of_bucketList hbase (hlinks base hbase) hreach hfile, List.append_assoc]
    simp

theorem record_isRecorded (hb : result.outcome.bucket? = some b)
    (hrepo : Repository.parse? entry = some result.repo) (hlinks : s.HasNoLinks fs) :
    s.IsRecorded b result fs (s.record result fs).1 where
  cwd := (record_within s result fs).cwd
  listed := ⟨fun ⟨text, htext, _⟩ => ⟨text, htext⟩, record_listed hb hrepo hlinks⟩
  remains := fun base hbase => record_canList_iff hb hrepo hlinks hbase
  logged := by
    rw [record_eq hb, readFile_bucketLog_iff hrepo]
    exact canLog_congr s b result (addToList_sameKinds s b result.repo fs)
  changed := fun l => record_changed hb
  inBucket := fun base hbase l => record_inBucket hb hrepo hlinks hbase

end ResultSet

namespace Recorder

open ResultSet (warning)

variable {s : ResultSet} {result : Result} {fs : FileSystem} {entry : List Char}

/-- A result that is not kept changes nothing.  One that is kept is written to its list and to its
log, each whatever becomes of the other, and there is one warning if either of them fails. -/
theorem record_independently (hrepo : Repository.parse? entry = some result.repo)
    (hlinks : s.HasNoLinks fs) (warnings : List String) :
    (result.outcome = .skipped → (toSet s).record result warnings fs = (warnings, fs)) ∧
      ∀ b, result.outcome.bucket? = some b →
        ∃ new fs', (toSet s).record result warnings fs = (new ++ warnings, fs') ∧
          s.IsRecorded b result fs fs' ∧
          (s.CanList b fs → s.CanLog b result fs → new = []) ∧
          (¬ s.CanList b fs →
            ∃ e, new = [warning result.repo (.recorder (s.bucketList b) e)]) ∧
          (s.CanList b fs → ¬ s.CanLog b result fs →
            ∃ e, new = [warning result.repo (.recorder (s.bucketLog b result.repo) e)]) := by
  constructor
  · intro hskipped
    have hrecord : s.record result fs = (fs, .ok ()) := by
      rw [ResultSet.record, hskipped]
      rfl
    simp only [toSet, hrecord]
  · intro b hb
    have hfiles := ResultSet.record_isRecorded hb hrepo hlinks
    obtain ⟨hwell, hlist, hlog⟩ := ResultSet.record_error hb s fs
    rcases hrecord : s.record result fs with ⟨fs', e | ⟨⟨⟩⟩⟩
    · rw [hrecord] at hfiles hwell hlist hlog
      refine ⟨[warning result.repo e], fs', by simp only [toSet, hrecord]; rfl, hfiles, ?_, ?_, ?_⟩
      · exact fun h h' => absurd (hwell h h') (by simp)
      · intro h
        obtain ⟨e', he'⟩ := hlist h
        exact ⟨e', by rw [Except.error.inj he']⟩
      · intro h h'
        obtain ⟨e', he'⟩ := hlog h h'
        exact ⟨e', by rw [Except.error.inj he']⟩
    · rw [hrecord] at hfiles hlist hlog
      refine ⟨[], fs', by simp only [toSet, hrecord]; rfl, hfiles, fun _ _ => rfl, ?_, ?_⟩
      · intro h
        obtain ⟨e', he'⟩ := hlist h
        cases he'
      · intro h h'
        obtain ⟨e', he'⟩ := hlog h h'
        cases he'

/-- A file stands in the place of the directory of an organisation: the list is kept, and there is
one warning about the log. -/
theorem record_independently_sample :
    let s : ResultSet := ⟨⟨"/set"⟩⟩
    let result : Result := ⟨⟨none, "org", "a"⟩, .failed, "no"⟩
    let fs : FileSystem := { root := [("set", .directory [("failed", .directory
      [("repos.txt", .file "# failed\n".toUTF8 false), ("org", .file "".toUTF8 false)])])] }
    s.HasNoLinks fs ∧ ∃ e fs', (toSet s).record result ["first"] fs =
      ([warning result.repo (.recorder (s.bucketLog .failed result.repo) e), "first"], fs') ∧
      s.IsRecorded .failed result fs fs' := by
  intro s result fs
  have hparse : Repository.parse? "org/a".toList = some result.repo := by decide +kernel
  have hnone : fs.root.NoLinks :=
    .cons_directory (.cons_directory (.cons_file (.cons_file .nil _ _ _) _ _ _) .nil _) .nil _
  have hlinks : s.HasNoLinks fs := fun _ _ loc t _ => hnone loc t
  have hlist : s.CanList .failed fs := by
    have hread : (fs.readFile (s.bucketList .failed)).isOk = true := by decide +kernel
    cases htext : fs.readFile (s.bucketList .failed) with
    | ok text => exact ⟨text, htext⟩
    | error e => simp [htext, Except.isOk, Except.toBool] at hread
  have hlog : ¬ s.CanLog .failed result fs := by
    rintro ⟨made, written, hmade, -⟩
    have hend : (fs.makeDirectories (result.repo.workDir (s.bucketDir .failed))).2 =
      .error .notDirectory := by decide +kernel
    rw [hmade] at hend
    cases hend
  obtain ⟨new, fs', hrecord, hfiles, -, -, hone⟩ :=
    (record_independently hparse hlinks ["first"]).2 .failed rfl
  obtain ⟨e, rfl⟩ := hone hlist hlog
  exact ⟨hlinks, e, fs', hrecord, hfiles⟩

end Recorder

end Fleet

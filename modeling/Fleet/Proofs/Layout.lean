import Fleet.Proofs.Creation
import Fleet.Proofs.Files.Making

namespace Fleet

/-! # A result set that only recording changes

In a new result set there are the two buckets with their lists, and recording adds to them
organisations with repositories with logs, and nothing else (`ResultSet.IsLaidOut`).  So whatever
was recorded, each list is a file, and no file but a list can be in the way of a log.  A list is in
the way if the organisation has its name; then there is no place for the log, and otherwise there is
one.  Main statement: `Recorder.record_on_created`.
-/

open FileSystem (IsAlong IsClear IsName IsProper LeadsTo NoLinksIn SameKinds under)

namespace ResultSet

variable {s : ResultSet} {b : Bucket} {result : Result} {repo : Repository}
  {fs fs' : FileSystem} {entry : List Char}

/-! ## The parts -/

/-- What may stand in a result set, by the names that lead there from its directory. -/
inductive IsPart : Location → Kind → Prop where
  | bucket (b : Bucket) : IsPart [b.name] .directory
  | list (b : Bucket) : IsPart [b.name, listFile] .file
  | org (b : Bucket) (org : String) : IsPart [b.name, org] .directory
  | repo (b : Bucket) (org name : String) : IsPart [b.name, org, name] .directory
  | log (b : Bucket) (org name : String) : IsPart [b.name, org, name, logFile] .file

/-- The directories on the way to a log are parts. -/
theorem isPart_of_isPrefix {ks : List String} (hne : ks ≠ []) (hks : ks <+: logNames b repo) :
    IsPart ks .directory := by
  obtain ⟨more, hmore⟩ := hks
  match ks, hne with
  | [k], _ =>
    obtain rfl : k = b.name := (List.cons.inj hmore).1
    exact .bucket b
  | [k, l], _ =>
    obtain rfl : k = b.name := (List.cons.inj hmore).1
    exact .org b l
  | [k, l, m], _ =>
    obtain rfl : k = b.name := (List.cons.inj hmore).1
    exact .repo b l m
  | k :: l :: m :: n :: rest, _ => simp [logNames] at hmore

/-- On the way to a log there are directories, and no file but the list. -/
theorem IsPart.on_the_way {ks : List String} {k : Kind} (h : IsPart ks k)
    (hks : ks <+: logNames b repo) :
    k = .directory ∨ (k = .file ∧ ks = [b.name, listFile] ∧ repo.org = listFile) := by
  cases h with
  | bucket => exact .inl rfl
  | list b' =>
    obtain ⟨hb, horg⟩ : b'.name = b.name ∧ listFile = repo.org := by simpa [logNames] using hks
    exact .inr ⟨rfl, by rw [hb], horg.symm⟩
  | org => exact .inl rfl
  | repo => exact .inl rfl
  | log => simpa [logNames] using hks.length_le

/-- Only a log stands in the place of a log. -/
theorem IsPart.eq_file {k : Kind} (h : IsPart (logNames b repo ++ [logFile]) k) : k = .file := by
  generalize hks : logNames b repo ++ [logFile] = ks at h
  cases h with
  | log => rfl
  | _ => simp [logNames] at hks

/-- A result set with its lists, in which there is nothing that does not belong there. -/
structure IsLaidOut (s : ResultSet) (fs : FileSystem) : Prop where
  root : LeadsTo fs s.root s.location
  lists : ∀ b, fs.root.kind? (s.listLocation b) = some .file
  parts : ∀ more k, more ≠ [] → fs.root.kind? (s.location ++ more) = some k → IsPart more k

theorem IsLaidOut.noLinksIn (h : s.IsLaidOut fs) : NoLinksIn fs s.location := by
  rintro _ t ⟨more, rfl⟩ ht
  by_cases hmore : more = []
  · rw [hmore, List.append_nil, h.root.directory] at ht
    cases ht
  · cases h.parts more _ hmore (Entries.kind?_eq_link.2 ht)

theorem IsLaidOut.hasNoLinks (h : s.IsLaidOut fs) : s.HasNoLinks fs := by
  intro base hbase
  rw [hbase.unique h.root]
  exact h.noLinksIn

theorem IsLaidOut.of_sameKinds (h : s.IsLaidOut fs) (hsame : SameKinds fs fs') :
    s.IsLaidOut fs' := by
  refine ⟨h.root.within hsame.within, fun b => ?_, fun more k hmore hk => ?_⟩
  · rw [hsame.kinds, h.lists]
  · exact h.parts more k hmore ((hsame.kinds _).symm.trans hk)

/-! ## Making it, and recording in it -/

theorem isPart_of_skeleton {command : String} {more : Location} {k : Kind} (hmore : more ≠ [])
    (hk : (skeleton command).kind? more = some k) : IsPart more k := by
  rw [Entries.kind?, item?_skeleton] at hk
  split at hk
  · next he =>
    cases hk
    exact he ▸ .list .failed
  split at hk
  · next he =>
    cases hk
    exact he ▸ .bucket .failed
  split at hk
  · next he =>
    cases hk
    exact he ▸ .list .successful
  split at hk
  · next he =>
    cases hk
    exact he ▸ .bucket .successful
  · cases hk

/-- A new result set has nothing in it but the buckets and the lists. -/
theorem isLaidOut_of_create {here : Surroundings} {parent : Path} {campaign command : String}
    (h : create here parent campaign command fs = (fs', .ok s)) : s.IsLaidOut fs' := by
  obtain ⟨hplaced, hholds⟩ := create_ok h
  obtain ⟨base, suffix, -, -, hloc, hconfined⟩ := isConfined_of_create h
  refine ⟨.of_names hplaced.absolute hplaced.names (Entries.kind?_eq_directory.1 hholds.directory),
    fun b => ?_, fun more k hmore hk => ?_⟩
  · obtain ⟨x, hx⟩ := hholds.lists b
    simp [Entries.kind?, hx]
  · rw [Entries.kind?, hloc, hconfined.contents] at hk
    exact isPart_of_skeleton hmore hk

/-- Writing a log adds directories on the way to it, and the log. -/
theorem IsLaidOut.writeLog (h : s.IsLaidOut fs)
    (hrepo : Repository.parse? entry = some result.repo) :
    s.IsLaidOut (s.writeLog b result.repo result.log fs).1 := by
  have hwithin := writeLog_within s b result.repo result.log fs
  refine ⟨h.root.within hwithin, fun b => hwithin.kinds _ _ (h.lists b), fun more k hmore hk => ?_⟩
  by_cases hsame : (s.writeLog b result.repo result.log fs).1.root.item? (s.location ++ more) =
      fs.root.item? (s.location ++ more)
  · exact h.parts more k hmore (by rwa [Entries.kind?, ← hsame])
  · rcases writeLog_along hrepo h.root h.noLinksIn hsame with
      ⟨hl, hfile⟩ | ⟨⟨ks, hne, hks, hl⟩, hdir⟩
    · obtain rfl : more = logNames b result.repo ++ [logFile] := by simpa using hl
      obtain rfl : k = .file := Option.some.inj (hk.symm.trans hfile)
      exact .log b _ _
    · obtain rfl : more = ks := by simpa using hl
      obtain rfl : k = .directory := Option.some.inj (hk.symm.trans hdir)
      exact isPart_of_isPrefix hne hks

theorem IsLaidOut.record (h : s.IsLaidOut fs) (hrepo : Repository.parse? entry = some result.repo) :
    s.IsLaidOut (s.record result fs).1 := by
  cases hb : result.outcome.bucket? with
  | none =>
    have hsame : s.record result fs = (fs, .ok ()) := by
      unfold ResultSet.record
      rw [hb]
    rwa [hsame]
  | some b =>
    have hlisted := h.of_sameKinds (addToList_sameKinds s b result.repo fs)
    have hlogged := hlisted.writeLog (b := b) hrepo
    rw [record_eq hb]
    exact hlogged

/-- The files after results have been recorded, one after the other. -/
def recordAll (s : ResultSet) (results : List Result) (fs : FileSystem) : FileSystem :=
  results.foldl (fun fs result => (s.record result fs).1) fs

theorem IsLaidOut.recordAll {results : List Result} (h : s.IsLaidOut fs)
    (hrepos : ∀ r ∈ results, ∃ entry, Repository.parse? entry = some r.repo) :
    s.IsLaidOut (s.recordAll results fs) := by
  induction results generalizing fs with
  | nil => exact h
  | cons result results ih =>
    obtain ⟨entry, hentry⟩ := hrepos result (by simp)
    exact ih (h.record hentry) fun r hr => hrepos r (by simp [hr])

/-! ## The list and the log -/

theorem IsLaidOut.canList (h : s.IsLaidOut fs) (hplaced : s.IsPlaced) (b : Bucket) :
    s.CanList b fs := by
  obtain ⟨e, he, hkind⟩ := Option.map_eq_some_iff.1 (h.lists b)
  cases e with
  | link t => cases hkind
  | directory => cases hkind
  | file text x =>
    have hbucket := h.root.below (bucket_isProper b) (bucket_isName b)
      (FileSystem.item?_directory_above he)
    have hroute := hbucket.route_eq listFile_isProper ⟨listFile_isName.fits, hplaced.accepted b⟩
    refine ⟨text, FileSystem.readFile_eq_ok_iff.2 ⟨_, x, FileSystem.route_true_of_false hroute ?_,
      rfl, he⟩⟩
    intro t ht
    cases (h.lists b).symm.trans ht

/-- The names of a repository can stand in the path of its log, and the path can be followed: none
of them is too long, and there is no letter in them that a path may not have. -/
structure IsNameable (s : ResultSet) (b : Bucket) (repo : Repository) : Prop where
  org : repo.org.utf8ByteSize ≤ FileSystem.maxName
  name : repo.name.utf8ByteSize ≤ FileSystem.maxName
  path : FileSystem.refused? (s.bucketLog b repo) = none

/-- There is a place for the log of a repository: its names can stand in a path, and the list does
not stand where its organisation belongs. -/
def HasPlace (s : ResultSet) (b : Bucket) (repo : Repository) : Prop :=
  s.IsNameable b repo ∧ repo.org ≠ listFile

theorem IsNameable.logNames (h : s.IsNameable b repo)
    (hrepo : Repository.parse? entry = some repo) :
    ∀ m ∈ logNames b repo, IsProper m ∧ IsName m := by
  intro m hm
  have hproper := logNames_isProper hrepo b m hm
  refine ⟨hproper, hproper.ne_here, hproper.ne_up, ?_⟩
  obtain rfl | rfl | rfl : m = b.name ∨ m = repo.org ∨ m = repo.name := by
    simpa [ResultSet.logNames] using hm
  · exact (bucket_isName b).fits
  · exact h.org
  · exact h.name

theorem IsNameable.workDir (h : s.IsNameable b repo)
    (hrepo : Repository.parse? entry = some repo) :
    FileSystem.refused? (repo.workDir (s.bucketDir b)) = none :=
  logFile_isSegment.not_refused (workDir_endsWell hrepo b).2 h.path

/-- On the way to a log there are directories, or nothing yet, and no file but the list. -/
theorem IsLaidOut.on_the_way (h : s.IsLaidOut fs) {ks : List String}
    (hks : ks <+: logNames b repo) :
    fs.root.kind? (s.location ++ ks) = none ∨
      fs.root.kind? (s.location ++ ks) = some .directory ∨
      ks = [b.name, listFile] ∧ repo.org = listFile := by
  by_cases hne : ks = []
  · exact .inr (.inl (by simpa [hne, Entries.kind?_eq_directory] using h.root.directory))
  cases hk : fs.root.kind? (s.location ++ ks) with
  | none => exact .inl rfl
  | some k =>
    rcases (h.parts ks k hne hk).on_the_way hks with rfl | ⟨-, hlist⟩
    · exact .inr (.inl rfl)
    · exact .inr (.inr hlist)

/-- Nothing is in the way of a log, unless the organisation has the name of the list. -/
theorem IsLaidOut.isClear (h : s.IsLaidOut fs) (hrepo : Repository.parse? entry = some repo)
    (hplace : s.HasPlace b repo) : IsClear fs s.location (logNames b repo) := by
  refine ⟨fun m hm => (hplace.1.logNames hrepo m hm).2, fun ks hks => ?_⟩
  rcases h.on_the_way hks with hnone | hdir | ⟨-, hlist⟩
  · exact .inl hnone
  · exact .inr hdir
  · exact absurd hlist hplace.2

/-- Where nothing is in the way, the directory of the log is made, and nothing but a log stands in
the place of the log. -/
theorem IsLaidOut.makeWorkDir (h : s.IsLaidOut fs) (hrepo : Repository.parse? entry = some repo)
    (hplace : s.HasPlace b repo) :
    ∃ made, fs.makeDirectories (repo.workDir (s.bucketDir b)) = (made, .ok ()) ∧
      LeadsTo made (repo.workDir (s.bucketDir b)) (s.location ++ logNames b repo) ∧
      ∀ k, made.root.kind? (s.location ++ logNames b repo ++ [logFile]) = some k → k = .file := by
  have hproper := logNames_isProper hrepo b
  obtain ⟨hend, hne⟩ := workDir_endsWell (s := s) hrepo b
  have haccepted := hplace.1.workDir hrepo
  have hclear := h.isClear hrepo hplace
  rw [workDir_eq_under] at hend hne haccepted ⊢
  have hok := h.root.makeDirectories_ok h.noLinksIn hproper hend hclear haccepted
  rcases hmade : fs.makeDirectories (under s.root (logNames b repo)) with ⟨made, out⟩
  obtain rfl : out = .ok () := by simpa [hmade] using hok
  have hadds := FileSystem.makeDirectories_eq_adds hmade
  refine ⟨made, rfl, ?_, fun k hk => ?_⟩
  · exact (FileSystem.isUnder_under hproper hend).leadsTo_of_isDirectory
      (h.root.within hadds.extends.within) (h.noLinksIn.of_links hadds.links)
      (FileSystem.isDirectory_of_makeDirectories hne hmade)
  · have hsame : made.root.item? (s.location ++ logNames b repo ++ [logFile]) =
        fs.root.item? (s.location ++ logNames b repo ++ [logFile]) := by
      by_contra hnew
      -- what is new ends in front of the log
      have halong := h.root.makeDirectories_under h.noLinksIn hproper hend
        (by rw [hmade]; exact hnew)
      obtain ⟨ks, -, hks, hl⟩ := halong
      obtain rfl : logNames b repo ++ [logFile] = ks := by simpa using hl
      exact absurd hks.length_le (by simp)
    rw [Entries.kind?, hsame, ← Entries.kind?, List.append_assoc] at hk
    exact (h.parts _ k (by simp) hk).eq_file

/-- Then the log is written. -/
theorem IsLaidOut.canLog (h : s.IsLaidOut fs) (hrepo : Repository.parse? entry = some result.repo)
    (hplace : s.HasPlace b result.repo) : s.CanLog b result fs := by
  obtain ⟨made, hmade, hlead, hkind⟩ := h.makeWorkDir hrepo hplace
  have hplain := hlead.route_eq logFile_isProper ⟨logFile_isName.fits, hplace.1.path⟩
  have hroute := FileSystem.route_true_of_false hplain fun t ht => by cases hkind _ ht
  have hwhere : FileSystem.endsInSlash (s.bucketLog b result.repo).text = false :=
    logFile_isSegment.endsInSlash_join
  have hfree : made.root.kind? (s.location ++ logNames b result.repo ++ [logFile]) = none ∨
      made.root.kind? (s.location ++ logNames b result.repo ++ [logFile]) = some .file := by
    cases hk : made.root.kind? (s.location ++ logNames b result.repo ++ [logFile]) with
    | none => exact .inl rfl
    | some k => exact .inr (by rw [hkind k hk])
  obtain ⟨written, hwritten⟩ := FileSystem.writeFile_isOk_iff.2
    ⟨_, _, by rw [hwhere]; exact hroute, Entries.kind?_eq_directory.2 hlead.directory, hfree⟩
  exact ⟨made, written, hmade, hwritten⟩

/-- An organisation with the name of the list has no place for a log: what should be its directory
is the list. -/
theorem IsLaidOut.writeLog_of_listFile (h : s.IsLaidOut fs)
    (hrepo : Repository.parse? entry = some repo) (hname : s.IsNameable b repo)
    (horg : repo.org = listFile) (log : String) :
    s.writeLog b repo log fs = (fs, .error (.recorder (s.bucketLog b repo) .notDirectory)) := by
  have hnames : logNames b repo = [b.name] ++ listFile :: [repo.name] := by
    rw [logNames, horg, List.singleton_append]
  have hall := hname.logNames hrepo
  have hend := (workDir_endsWell (s := s) hrepo b).1
  have haccepted := hname.workDir hrepo
  have hlist := h.lists b
  obtain ⟨e, he, -⟩ := Option.map_eq_some_iff.1 hlist
  rw [workDir_eq_under, hnames] at hend haccepted
  rw [hnames] at hall
  have hmade := h.root.makeDirectories_of_file hall (by simp) hend
    (FileSystem.item?_directory_above he) hlist haccepted
  unfold ResultSet.writeLog
  rw [workDir_eq_under, hnames, hmade]

theorem IsLaidOut.canLog_iff (h : s.IsLaidOut fs)
    (hrepo : Repository.parse? entry = some result.repo) :
    s.CanLog b result fs ↔ s.HasPlace b result.repo := by
  refine ⟨fun hcan => ?_, h.canLog hrepo⟩
  -- the log is there when it has been written, so its path could be followed
  obtain ⟨r, x, hr, -, hitem⟩ :=
    FileSystem.readFile_eq_ok_iff.1 ((readFile_bucketLog_iff hrepo).2 hcan)
  obtain ⟨hpath, hwalk⟩ := FileSystem.route_eq_ok_iff.1 hr
  have hfits : ∀ m ∈ logNames b result.repo, m.utf8ByteSize ≤ FileSystem.maxName := by
    intro m hm
    have hproper := logNames_isProper hrepo b m hm
    refine (hwalk.isName_of_mem ?_ hproper.ne_here hproper.ne_up).fits
    rw [bucketLog_eq_under, logFile_isSegment.names_join,
      (FileSystem.under_names (logNames_isProper hrepo b)).1]
    simp [hm]
  have hname : s.IsNameable b result.repo :=
    ⟨hfits _ (by simp [logNames]), hfits _ (by simp [logNames]), hpath⟩
  refine ⟨hname, fun horg => ?_⟩
  obtain ⟨made, written, -, -, hlog⟩ := writeLog_of_canLog hcan
  rw [h.writeLog_of_listFile hrepo hname horg] at hlog
  cases hlog

theorem IsLaidOut.record_of_listFile (h : s.IsLaidOut fs) (hb : result.outcome.bucket? = some b)
    (hrepo : Repository.parse? entry = some result.repo) (hname : s.IsNameable b result.repo)
    (horg : result.repo.org = listFile) (hlist : s.CanList b fs) :
    (s.record result fs).2 = .error (.recorder (s.bucketLog b result.repo) .notDirectory) := by
  obtain ⟨g, -, -, -, hadd, -⟩ := addToList_of_canList hlist result.repo
  have hsame := addToList_sameKinds s b result.repo fs
  rw [hadd] at hsame
  rw [record_eq hb, hadd]
  simp only [(h.of_sameKinds hsame).writeLog_of_listFile hrepo hname horg]

end ResultSet

namespace Recorder

open ResultSet (listFile logFile logNames warning)

variable {s : ResultSet} {b : Bucket} {result : Result} {fs created : FileSystem}
  {here : Surroundings} {parent : Path} {campaign command : String} {earlier : List Result}
  {entry : List Char}

/-- The warning of a result, if its list can be written: there is one exactly if there is no place
for the log. -/
theorem warning_of_isLaidOut (h : s.IsLaidOut fs) (hlist : s.CanList b fs)
    (hrepo : Repository.parse? entry = some result.repo) (hb : result.outcome.bucket? = some b)
    (warnings : List String) :
    ∃ new, (toSet s).record result warnings fs = (new ++ warnings, (s.record result fs).1) ∧
      (new = [] ↔ s.HasPlace b result.repo) ∧
      (s.IsNameable b result.repo → result.repo.org = listFile →
        new = [warning result.repo (.recorder (s.bucketLog b result.repo) .notDirectory)]) := by
  obtain ⟨hwell, -, hnot⟩ := ResultSet.record_error hb s fs
  rw [h.canLog_iff hrepo] at hwell hnot
  have hlisted := fun hname horg => h.record_of_listFile hb hrepo hname horg hlist
  rcases hrecord : s.record result fs with ⟨after, e | ⟨⟨⟩⟩⟩
  · rw [hrecord] at hwell hlisted
    refine ⟨[warning result.repo e], by simp only [toSet, hrecord]; rfl, ?_, fun hname horg => ?_⟩
    · exact iff_of_false (by simp) fun hplace => by cases hwell hlist hplace
    · rw [Except.error.inj (hlisted hname horg)]
  · rw [hrecord] at hnot hlisted
    refine ⟨[], by simp only [toSet, hrecord]; rfl, iff_of_true rfl ?_, fun hname horg => ?_⟩
    · by_contra hplace
      obtain ⟨e, he⟩ := hnot hlist hplace
      cases he
    · cases hlisted hname horg

/-- In a result set that was made, and in which any results were recorded since, one more is added
to its list.  Its log is written and there is no warning, if the names of its repository can stand in
a path and the organisation has not the name of the list; and if it has, that is what the warning
says.  No other file is in the way of a log, and no log is a list. -/
theorem record_on_created
    (hcreate : ResultSet.create here parent campaign command fs = (created, .ok s))
    (hearlier : ∀ r ∈ earlier, ∃ entry, Repository.parse? entry = some r.repo)
    (hrepo : Repository.parse? entry = some result.repo) (hb : result.outcome.bucket? = some b)
    (warnings : List String) :
    ∃ new after text, (toSet s).record result warnings (s.recordAll earlier created) =
        (new ++ warnings, after) ∧
      (s.recordAll earlier created).readFile (s.bucketList b) = .ok text ∧
      after.readFile (s.bucketList b) = .ok (text ++ (result.repo.fullName ++ "\n").toUTF8) ∧
      (new = [] ↔ s.HasPlace b result.repo) ∧
      (after.readFile (s.bucketLog b result.repo) = .ok result.log.toUTF8 ↔
        s.HasPlace b result.repo) ∧
      (s.IsNameable b result.repo → result.repo.org = listFile →
        new = [warning result.repo (.recorder (s.bucketLog b result.repo) .notDirectory)]) ∧
      (∀ ks, ks <+: logNames b result.repo →
        (s.recordAll earlier created).root.kind? (s.location ++ ks) = some .file →
          ks = [b.name, listFile] ∧ result.repo.org = listFile) ∧
      ∀ b', s.listLocation b' ≠ s.location ++ logNames b result.repo ++ [logFile] := by
  have hlaid := (ResultSet.isLaidOut_of_create hcreate).recordAll hearlier
  have hlist := hlaid.canList (ResultSet.create_ok hcreate).1 b
  have hfiles := ResultSet.record_isRecorded hb hrepo hlaid.hasNoLinks
  obtain ⟨new, hrecord, hnew, hlisted⟩ := warning_of_isLaidOut hlaid hlist hrepo hb warnings
  obtain ⟨text, hbefore, hafter⟩ := hfiles.listed.2 hlist
  refine ⟨new, _, text, hrecord, hbefore, hafter, hnew, ?_, hlisted, fun ks hks hfile => ?_,
    fun b' => ?_⟩
  · rw [hfiles.logged, hlaid.canLog_iff hrepo]
  · rcases hlaid.on_the_way hks with hk | hk | hway
    · cases hk.symm.trans hfile
    · cases hk.symm.trans hfile
    · exact hway
  · simp [ResultSet.listLocation, logNames]

/-- There are results in the set already, also of the same bucket, and the next one is of an
organisation with the name of the list. -/
theorem record_on_created_sample :
    let s : ResultSet := ⟨⟨"/results/fleetrun-foreach-c-a1"⟩⟩
    let here : Surroundings := ⟨1, ⟨"/tmp"⟩, [⟨"a1", by decide⟩]⟩
    let earlier : List Result :=
      [⟨⟨none, "org", "a"⟩, .failed, "no"⟩, ⟨⟨none, "org", "b"⟩, .succeeded, "yes"⟩]
    let result : Result := ⟨⟨none, "repos.txt", "a"⟩, .failed, "no"⟩
    ∃ created after, ResultSet.create here ⟨"results"⟩ "c" "true" {} = (created, .ok s) ∧
      (toSet s).record result [] (s.recordAll earlier created) = ([warning result.repo
        (.recorder ⟨"/results/fleetrun-foreach-c-a1/failed/repos.txt/a/logs.txt"⟩ .notDirectory)],
        after) ∧
      after.readFile (s.bucketLog .failed result.repo) ≠ .ok result.log.toUTF8 := by
  intro s here earlier result
  have hok : (ResultSet.create here ⟨"results"⟩ "c" "true" {}).2 = .ok s := by decide +kernel
  have hcreate := Prod.snd_eq_iff.1 hok
  have hearlier : ∀ r ∈ earlier, ∃ entry, Repository.parse? entry = some r.repo := by
    intro r hr
    obtain rfl | rfl : r = ⟨⟨none, "org", "a"⟩, .failed, "no"⟩ ∨
        r = ⟨⟨none, "org", "b"⟩, .succeeded, "yes"⟩ := by simpa [earlier] using hr
    · exact ⟨"org/a".toList, by decide +kernel⟩
    · exact ⟨"org/b".toList, by decide +kernel⟩
  have hrepo : Repository.parse? "repos.txt/a".toList = some result.repo := by decide +kernel
  have hname : s.IsNameable .failed result.repo :=
    ⟨by decide, by decide, by decide +kernel⟩
  obtain ⟨new, after, -, hrecord, -, -, -, hlog, hwarning, -⟩ :=
    record_on_created hcreate hearlier hrepo (b := .failed) rfl []
  have hpath : s.bucketLog .failed result.repo =
      ⟨"/results/fleetrun-foreach-c-a1/failed/repos.txt/a/logs.txt"⟩ := by decide +kernel
  rw [hwarning hname rfl, hpath, List.append_nil] at hrecord
  exact ⟨_, after, hcreate, hrecord, fun hread => (hlog.1 hread).2 rfl⟩

end Recorder

end Fleet

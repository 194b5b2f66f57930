import Fleet.Campaign
import Fleet.Proofs.Files.Change
import Fleet.Proofs.Files.Names
import Fleet.Proofs.RepositoryList
import Fleet.ResultSet

namespace Fleet

/-! # What a result set holds

A result set is placed (`ResultSet.IsPlaced`) if its path names its directory from the root, and it
holds two texts (`ResultSet.Holds`) if these are in its lists and no link is in it.  Then its lists
can be read (`load_bucketList`), and recording a result adds a line to one of them
(`record_holds`) and changes nothing outside the result set (`record_outside`).  Wherever its path
leads, recording takes nothing away (`record_within`).
-/

open FileSystem (IsName IsSegment Within Extends AddsDirectories)

namespace ResultSet

/-- Where the directory of a result set is. -/
def location (s : ResultSet) : Location := FileSystem.names s.root.text

/-- Where the list of a bucket is. -/
def listLocation (s : ResultSet) (b : Bucket) : Location := s.location ++ [b.name] ++ [listFile]

theorem location_isPrefix (s : ResultSet) (b : Bucket) : s.location <+: s.listLocation b :=
  (List.prefix_append _ _).trans (List.prefix_append _ _)

/-- The path of a result set is that of a location, and short enough for paths below it. -/
structure IsPlaced (s : ResultSet) : Prop where
  absolute : FileSystem.startsAtRoot s.root.text = true
  names : ∀ m ∈ s.location, IsName m
  accepted : ∀ b, FileSystem.refused? (s.bucketList b) = none

/-- A result set without links whose lists hold the given texts. -/
structure Holds (s : ResultSet) (text : Bucket → String) (fs : FileSystem) : Prop where
  noLinks : ∀ loc t, s.location <+: loc → fs.root.kind? loc ≠ some (.link t)
  lists : ∀ b, ∃ x, fs.root.item? (s.listLocation b) = some (.file (text b).toUTF8 x)

theorem bucket_isSegment (b : Bucket) : IsSegment b.name := by
  cases b <;> exact ⟨by decide, by decide⟩

theorem bucket_isName (b : Bucket) : IsName b.name := by
  cases b <;> exact ⟨by decide, by decide, by decide⟩

theorem listFile_isSegment : IsSegment listFile := ⟨by decide, by decide⟩

theorem listFile_isName : IsName listFile := ⟨by decide, by decide, by decide⟩

theorem logFile_isSegment : IsSegment logFile := ⟨by decide, by decide⟩

theorem logFile_isName : IsName logFile := ⟨by decide, by decide, by decide⟩

theorem Bucket.name_injective {b b' : Bucket} (h : b.name = b'.name) : b = b' := by
  cases b <;> cases b' <;> first | rfl | exact absurd h (by decide)

variable {s : ResultSet} {text : Bucket → String} {fs fs' : FileSystem}

theorem IsPlaced.root_ne_empty (h : s.IsPlaced) : s.root.text ≠ "" :=
  FileSystem.ne_empty_of_startsAtRoot h.absolute

theorem names_bucketDir (s : ResultSet) (b : Bucket) :
    FileSystem.names (s.bucketDir b).text = s.location ++ [b.name] :=
  (bucket_isSegment b).names_join

theorem names_bucketList (s : ResultSet) (b : Bucket) :
    FileSystem.names (s.bucketList b).text = s.listLocation b := by
  rw [bucketList, listFile_isSegment.names_join, names_bucketDir, listLocation]

theorem names_bucketLog (s : ResultSet) (b : Bucket) {repo : Repository} (h : repo.IsEntry) :
    FileSystem.names (s.bucketLog b repo).text =
      s.location ++ [b.name, repo.org, repo.name, logFile] := by
  rw [bucketLog, logFile_isSegment.names_join, Repository.workDir, h.name_isSegment.1.names_join,
    h.org_isSegment.1.names_join, names_bucketDir]
  simp

theorem start_of_startsAtRoot {p : Path} (h : FileSystem.startsAtRoot p.text = true)
    (fs : FileSystem) : fs.start p = [] := by
  rw [FileSystem.start, h]
  rfl

theorem IsPlaced.bucketDir_absolute (h : s.IsPlaced) (b : Bucket) :
    FileSystem.startsAtRoot (s.bucketDir b).text = true :=
  (bucket_isSegment b).startsAtRoot_join h.absolute

theorem IsPlaced.bucketList_absolute (h : s.IsPlaced) (b : Bucket) :
    FileSystem.startsAtRoot (s.bucketList b).text = true :=
  listFile_isSegment.startsAtRoot_join (h.bucketDir_absolute b)

theorem IsPlaced.bucketLog_absolute (h : s.IsPlaced) (b : Bucket) {repo : Repository}
    (hrepo : repo.IsEntry) : FileSystem.startsAtRoot (s.bucketLog b repo).text = true :=
  logFile_isSegment.startsAtRoot_join <| hrepo.name_isSegment.1.startsAtRoot_join <|
    hrepo.org_isSegment.1.startsAtRoot_join (h.bucketDir_absolute b)

/-- Where there is no link in a result set, a path into it leads to where its names say. -/
theorem location_of_route {p : Path} {followLast slash : Bool} {dir : Location} {name x : String}
    {ms : List String} (habs : FileSystem.startsAtRoot p.text = true)
    (hp : FileSystem.names p.text = s.location ++ (ms ++ [x]))
    (hnamed : ∀ m ∈ s.location, IsName m) (hplain : ∀ m ∈ ms ++ [x], m ≠ "." ∧ m ≠ "..")
    (hdir : fs.root.kind? s.location = some .directory)
    (hlinks : ∀ loc t, s.location <+: loc → fs.root.kind? loc ≠ some (.link t))
    (hroute : fs.route followLast p = .ok ⟨.named dir name, slash⟩) :
    dir ++ [name] = s.location ++ (ms ++ [x]) := by
  obtain ⟨-, hwalk⟩ := FileSystem.route_eq_ok_iff.1 hroute
  rw [start_of_startsAtRoot habs, hp, FileSystem.Walk.from_root_iff hnamed hdir (by simp)] at hwalk
  have hend := FileSystem.Walk.inside ms x hlinks hplain hwalk
  simp only [Route.mk.injEq, Spot.named.injEq] at hend
  rw [hend.1.1, hend.1.2, List.append_assoc]

theorem bucket_ne_dots (b : Bucket) : b.name ≠ "." ∧ b.name ≠ ".." :=
  ⟨(bucket_isName b).ne_here, (bucket_isName b).ne_up⟩

/-! ## Reading -/

theorem Holds.bucket_directory (h : s.Holds text fs) (b : Bucket) :
    fs.root.kind? (s.location ++ [b.name]) = some .directory := by
  obtain ⟨x, hx⟩ := h.lists b
  exact Entries.kind?_eq_directory.2 (FileSystem.item?_directory_above hx)

theorem Holds.directory (h : s.Holds text fs) : fs.root.kind? s.location = some .directory :=
  Entries.kind?_directory_of_prefix (h.bucket_directory .failed) (List.prefix_append _ _)

/-- The path of a list leads to it. -/
theorem Holds.route_bucketList (h : s.Holds text fs) (hp : s.IsPlaced) (b : Bucket) :
    fs.route true (s.bucketList b) = .ok ⟨.named (s.location ++ [b.name]) listFile, false⟩ := by
  refine FileSystem.route_eq_ok_iff.2 ⟨hp.accepted b, ?_⟩
  rw [start_of_startsAtRoot (hp.bucketList_absolute b), names_bucketList, listLocation, bucketList,
    listFile_isSegment.endsInSlash_join]
  have hnames : ∀ m ∈ s.location ++ [b.name], IsName m := by
    intro m hm
    rcases List.mem_append.1 hm with hm | hm
    · exact hp.names m hm
    · rw [List.mem_singleton.1 hm]
      exact bucket_isName b
  refine (FileSystem.Walk.from_root_iff hnames (h.bucket_directory b) (by simp)).2 ?_
  refine .stop listFile_isName fun _ t => h.noLinks _ t ?_
  exact (List.prefix_append _ _).trans (List.prefix_append _ _)

theorem decode?_toUTF8 (text : String) : Text.decode? text.toUTF8 = some text := by
  rw [Text.decode?, String.fromUTF8?, String.toUTF8_eq_toByteArray, dif_pos text.isValidUTF8]
  rfl

/-- The list of a bucket is read as the text in it. -/
theorem Holds.load_bucketList (h : s.Holds text fs) (hp : s.IsPlaced) {b : Bucket}
    {repos : List Repository} :
    RepositoryList.load fs (s.bucketList b) = .ok repos ↔
      RepositoryList.parse (text b) = .ok repos := by
  obtain ⟨x, hx⟩ := h.lists b
  have hfile : fs.readFile (s.bucketList b) = .ok (text b).toUTF8 :=
    FileSystem.readFile_eq_ok_iff.2 ⟨_, x, h.route_bucketList hp b, rfl, hx⟩
  have htext : fs.readText (s.bucketList b) = .ok (text b) :=
    FileSystem.readText_eq_ok_iff.2 ⟨_, hfile, decode?_toUTF8 _⟩
  simp only [RepositoryList.load, FileSystem.openText, htext, bind, Except.bind]
  cases RepositoryList.parse (text b) <;> simp

/-- The path of a result set leads to its directory. -/
theorem IsPlaced.route_root (hp : s.IsPlaced) (hdir : fs.root.kind? s.location = some .directory) :
    ∃ r, fs.route true s.root = .ok r ∧ r.spot.location = s.location := by
  have hb := bucket_isSegment .failed
  have haccepted : FileSystem.refused? s.root = none :=
    hb.not_refused hp.root_ne_empty
      (listFile_isSegment.not_refused hb.join_ne_empty (hp.accepted .failed))
  obtain ⟨r, hw, hloc⟩ : ∃ r, FileSystem.Walk fs.root true FileSystem.maxLinks [] s.location
      (FileSystem.endsInSlash s.root.text) r ∧ r.spot.location = s.location := by
    rcases List.eq_nil_or_concat s.location with hnil | ⟨front, name, hl⟩
    · -- the root directory has no name, so the walk to it is over at once
      rw [hnil]
      exact ⟨_, .done, rfl⟩
    · have hl : s.location = front ++ [name] := by simpa using hl
      have hnames := hp.names
      rw [hl] at hdir hnames ⊢
      have hfront : fs.root.kind? front = some .directory :=
        Entries.kind?_directory_of_prefix hdir (List.prefix_append _ _)
      refine ⟨⟨.named front name, FileSystem.endsInSlash s.root.text⟩, ?_, rfl⟩
      refine (FileSystem.Walk.from_root_iff (fun m hm => hnames m (by simp [hm])) hfront
        (by simp)).2 ?_
      exact .stop (hnames name (by simp)) fun _ t => by simp [hdir]
  refine ⟨r, FileSystem.route_eq_ok_iff.2 ⟨haccepted, ?_⟩, hloc⟩
  rwa [start_of_startsAtRoot hp.absolute]

/-- The path of a result set is one of a directory, whatever its lists hold. -/
theorem IsPlaced.isDirectory_root (hp : s.IsPlaced)
    (hdir : fs.root.kind? s.location = some .directory) : fs.isDirectory s.root = true := by
  obtain ⟨r, hr, hloc⟩ := hp.route_root hdir
  exact FileSystem.isDirectory_iff.2 ⟨r, hr, hloc ▸ hdir⟩

/-! ## Recording -/

/-- The texts of the lists when a result has been recorded. -/
def added (text : Bucket → String) (result : Result) (b : Bucket) : String :=
  if result.outcome.bucket? = some b then text b ++ (result.repo.fullName ++ "\n") else text b

theorem listLocation_injective {b b' : Bucket} (h : s.listLocation b = s.listLocation b') :
    b = b' := by
  have hnames : [b.name] = [b'.name] := List.append_cancel_left (List.append_cancel_right h)
  exact Bucket.name_injective (List.cons.inj hnames).1

/-- A repository is added at the end of its list, and nothing else is changed. -/
theorem addToList_items (hp : s.IsPlaced) (h : s.Holds text fs) (b : Bucket) (repo : Repository) :
    ∃ fs' x, s.addToList b repo fs = (fs', .ok ()) ∧ fs'.cwd = fs.cwd ∧
      fs.root.item? (s.listLocation b) = some (.file (text b).toUTF8 x) ∧
      ∀ loc, fs'.root.item? loc = if loc = s.listLocation b then
        some (.file ((text b).toUTF8 ++ (repo.fullName ++ "\n").toUTF8) x)
        else fs.root.item? loc := by
  obtain ⟨x, hx⟩ := h.lists b
  obtain ⟨fs', hfs', hcwd, hitems⟩ :=
    FileSystem.appendText_of_file (repo.fullName ++ "\n") (h.route_bucketList hp b) rfl hx
  refine ⟨fs', x, ?_, hcwd, hx, hitems⟩
  unfold addToList
  rw [hfs']

theorem addToList_holds (hp : s.IsPlaced) (h : s.Holds text fs) (b : Bucket) (repo : Repository) :
    (s.addToList b repo fs).2 = .ok () ∧
      s.Holds (fun b' => if b = b' then text b' ++ (repo.fullName ++ "\n") else text b')
        (s.addToList b repo fs).1 := by
  obtain ⟨fs', x, hadded, hcwd, hx, hitems⟩ := addToList_items hp h b repo
  rw [hadded]
  refine ⟨rfl, fun loc t hl hk => ?_, fun b' => ?_⟩
  · rw [Entries.kind?, hitems] at hk
    split at hk
    · cases hk
    · exact h.noLinks loc t hl hk
  · rw [hitems]
    by_cases hb : b = b'
    · subst hb
      refine ⟨x, ?_⟩
      simp
    · obtain ⟨x', hx'⟩ := h.lists b'
      refine ⟨x', ?_⟩
      rw [if_neg fun he => hb (listLocation_injective he).symm, if_neg hb, hx']

/-- What a result set holds depends only on what is in it. -/
theorem Holds.of_items (h : s.Holds text fs)
    (hsame : ∀ loc, s.location <+: loc → fs'.root.item? loc = fs.root.item? loc) :
    s.Holds text fs' := by
  constructor
  · intro loc t hl
    rw [Entries.kind?, hsame loc hl]
    exact h.noLinks loc t hl
  · intro b
    rw [hsame _ (location_isPrefix s b)]
    exact h.lists b

theorem Holds.adds (h : s.Holds text fs) (ha : AddsDirectories fs fs') : s.Holds text fs' := by
  constructor
  · intro loc t hl hk
    have := ha.item?_of_ne (Entries.kind?_eq_link.1 hk) (by simp)
    exact h.noLinks loc t hl (Entries.kind?_eq_link.2 this)
  · intro b
    obtain ⟨x, hx⟩ := h.lists b
    exact ⟨x, ha.extends.items _ _ hx⟩

/-- A file that is none of the lists may be written. -/
theorem Holds.write {loc : Location} {content : ByteArray} {x : Bool} (h : s.Holds text fs)
    (hitems : ∀ l, fs'.root.item? l = if l = loc then some (.file content x) else fs.root.item? l)
    (hne : ∀ b, s.listLocation b ≠ loc) : s.Holds text fs' := by
  constructor
  · intro l t hl hk
    rw [Entries.kind?, hitems] at hk
    split at hk
    · cases hk
    · exact h.noLinks l t hl hk
  · intro b
    rw [hitems, if_neg (hne b)]
    exact h.lists b

/-- The path of a log leads to its place in the bucket. -/
theorem Holds.location_bucketLog (h : s.Holds text fs) (hp : s.IsPlaced) (b : Bucket)
    {repo : Repository} (hrepo : repo.IsEntry) {followLast slash : Bool} {dir : Location}
    {name : String}
    (hroute : fs.route followLast (s.bucketLog b repo) = .ok ⟨.named dir name, slash⟩) :
    dir ++ [name] = s.location ++ [b.name, repo.org, repo.name, logFile] := by
  have hplain : ∀ m ∈ [b.name, repo.org, repo.name] ++ [logFile], m ≠ "." ∧ m ≠ ".." := by
    simp [bucket_ne_dots b, hrepo.org_isSegment.2, hrepo.name_isSegment.2]
    decide
  exact location_of_route (hp.bucketLog_absolute b hrepo) (names_bucketLog s b hrepo)
    hp.names hplain h.directory h.noLinks hroute

theorem writeLog_holds (hp : s.IsPlaced) (h : s.Holds text fs) (b : Bucket) {repo : Repository}
    (hrepo : repo.IsEntry) (log : String) : s.Holds text (s.writeLog b repo log fs).1 := by
  have hmade := h.adds (FileSystem.makeDirectories_adds fs (repo.workDir (s.bucketDir b)))
  unfold writeLog
  simp only
  split
  · next made e heq =>
    rw [heq] at hmade
    exact hmade
  next made heq =>
  rw [heq] at hmade
  split
  · next written hw =>
    obtain ⟨dir, name, x, hroute, -, -, hitems⟩ := FileSystem.writeFile_eq_ok hw
    have hloc := hmade.location_bucketLog hp b hrepo hroute
    refine hmade.write hitems fun b' he => ?_
    -- the log is three names below the directory of the result set, the lists are two
    have hlength := congrArg List.length (he.trans hloc)
    simp [listLocation] at hlength
  · exact hmade

/-- Recording a result adds its repository to the list of its bucket, if it is kept. -/
theorem record_holds (hp : s.IsPlaced) (h : s.Holds text fs) {result : Result}
    (hentry : result.repo.IsEntry) : s.Holds (added text result) (s.record result fs).1 := by
  unfold record
  cases hb : result.outcome.bucket? with
  | none =>
    have : added text result = text := by
      funext b
      simp [added, hb]
    rw [this]
    exact h
  | some b =>
    have hlisted := (addToList_holds hp h b result.repo).2
    have : added text result =
        fun b' => if b = b' then text b' ++ (result.repo.fullName ++ "\n") else text b' := by
      funext b'
      simp [added, hb]
    rw [this]
    exact writeLog_holds hp hlisted b hentry result.log

/-! ## Nothing is taken away -/

theorem addToList_within (s : ResultSet) (b : Bucket) (repo : Repository) (fs : FileSystem) :
    Within fs (s.addToList b repo fs).1 := by
  unfold addToList
  split
  · next happend => exact FileSystem.appendText_within happend
  · exact .refl fs

theorem writeLog_within (s : ResultSet) (b : Bucket) (repo : Repository) (log : String)
    (fs : FileSystem) : Within fs (s.writeLog b repo log fs).1 := by
  have hadds := FileSystem.makeDirectories_adds fs (repo.workDir (s.bucketDir b))
  unfold writeLog
  simp only
  split
  · next made e heq =>
    rw [heq] at hadds
    exact hadds.extends.within
  next made heq =>
  rw [heq] at hadds
  split
  · next hw => exact hadds.extends.within.trans (FileSystem.writeFile_within hw)
  · exact hadds.extends.within

/-- Recording a result takes nothing away, wherever the path of the result set leads. -/
theorem record_within (s : ResultSet) (result : Result) (fs : FileSystem) :
    Within fs (s.record result fs).1 := by
  unfold record
  cases result.outcome.bucket? with
  | none => exact .refl fs
  | some b =>
    simp only
    exact (addToList_within s b _ fs).trans (writeLog_within s b _ _ _)

/-! ## What is outside -/

/-- Whatever stood outside a result set stands there as it did. -/
def KeepsOutside (s : ResultSet) (fs fs' : FileSystem) : Prop :=
  ∀ loc e, ¬ s.location <+: loc → fs.root.item? loc = some e → fs'.root.item? loc = some e

theorem KeepsOutside.of_extends (s : ResultSet) (h : Extends fs fs') : s.KeepsOutside fs fs' :=
  fun loc e _ he => h.items loc e he

theorem KeepsOutside.trans {fs'' : FileSystem} (h : s.KeepsOutside fs fs')
    (h' : s.KeepsOutside fs' fs'') : s.KeepsOutside fs fs'' :=
  fun loc e hout he => h' loc e hout (h loc e hout he)

/-- A list is inside its result set. -/
theorem addToList_outside (hp : s.IsPlaced) (h : s.Holds text fs) (b : Bucket)
    (repo : Repository) : s.KeepsOutside fs (s.addToList b repo fs).1 := by
  obtain ⟨fs', x, hadded, -, -, hitems⟩ := addToList_items hp h b repo
  rw [hadded]
  intro loc e hout he
  have hne : loc ≠ s.listLocation b := by
    rintro rfl
    exact hout (location_isPrefix s b)
  rw [hitems, if_neg hne, he]

/-- A log is inside its result set, and the directories above it are new or were there. -/
theorem writeLog_outside (hp : s.IsPlaced) (h : s.Holds text fs) (b : Bucket) {repo : Repository}
    (hrepo : repo.IsEntry) (log : String) : s.KeepsOutside fs (s.writeLog b repo log fs).1 := by
  have hadds := FileSystem.makeDirectories_adds fs (repo.workDir (s.bucketDir b))
  unfold writeLog
  simp only
  split
  · next made e heq =>
    rw [heq] at hadds
    exact .of_extends s hadds.extends
  next made heq =>
  rw [heq] at hadds
  split
  · next written hw =>
    obtain ⟨dir, name, x, hroute, -, -, hitems⟩ := FileSystem.writeFile_eq_ok hw
    have hloc := (h.adds hadds).location_bucketLog hp b hrepo hroute
    intro loc e hout he
    have hne : loc ≠ dir ++ [name] := by
      rintro rfl
      rw [hloc] at hout
      exact hout (List.prefix_append _ _)
    rw [hitems, if_neg hne]
    exact hadds.extends.items loc e he
  · exact .of_extends s hadds.extends

/-- Recording a result changes nothing that is outside the result set. -/
theorem record_outside (hp : s.IsPlaced) (h : s.Holds text fs) {result : Result}
    (hentry : result.repo.IsEntry) : s.KeepsOutside fs (s.record result fs).1 := by
  unfold record
  cases result.outcome.bucket? with
  | none => exact fun loc e _ he => he
  | some b =>
    have hlisted := (addToList_holds hp h b result.repo).2
    have hadded := addToList_outside hp h b result.repo
    have hlogged := writeLog_outside hp hlisted b hentry result.log
    exact hadded.trans hlogged

end ResultSet

end Fleet

import Fleet.Proofs.Description
import Fleet.Proofs.Files.Parents
import Fleet.Proofs.Files.Parts
import Fleet.Proofs.Loading
import Fleet.Proofs.NewCampaign
import Fleet.Proofs.Settings.Anchoring

namespace Fleet

/-! # What a new campaign is loaded as

The files of a new campaign are written one after the other, and what is read afterwards is what was
written last: its own text for each file, unless links make one file of two (`FileSystem.Apart`,
`NewCampaign.readText_of_create`).  Then the settings are the defaults and there are no
repositories.

The name that was asked for comes back in two ways, and each has its own rules.  The title is what
the line `# name` is titled (`NewCampaign.isTitle_readme`), and the campaign is named after its
directory, wherever the name leads as a path (`Campaign.nameOf_join`).
`CommandLine.init_then_load` says when each of them is the name.
-/

open Description (IsTitle)
open FileSystem (IsProper LeadsTo Reaches Within)

/-! ## Texts in files -/

namespace FileSystem

variable {fs fs' made : FileSystem} {p q : Path} {r : Route} {loc : Location}
  {name text : String} {x : Bool}

/-- The two paths do not end at the same place. -/
def Apart (fs : FileSystem) (p q : Path) : Prop := ∀ l, Reaches fs p l → ¬ Reaches fs q l

theorem readText_of_item (hr : fs.route true p = .ok r) (hslash : r.slash = false)
    (hitem : fs.root.item? r.spot.location = some (.file text.toUTF8 x)) :
    fs.readText p = .ok text :=
  readText_eq_ok_iff.2
    ⟨_, readFile_eq_ok_iff.2 ⟨r, x, hr, hslash, hitem⟩, ResultSet.decode?_toUTF8 text⟩

/-- A path that a text was written to ends at a file with the text, and nothing else is changed. -/
theorem writeText_eq_ok (h : fs.writeText p text = .ok fs') :
    ∃ r x, fs'.route true p = .ok r ∧ r.slash = false ∧ ∀ l, fs'.root.item? l =
      if l = r.spot.location then some (.file text.toUTF8 x) else fs.root.item? l := by
  obtain ⟨dir, name, x, hr, -, -, hitems⟩ := writeFile_eq_ok h
  rw [endsInSlash_of_route hr rfl] at hr
  have hfile : fs'.root.item? (dir ++ [name]) = some (.file text.toUTF8 x) := by
    rw [hitems, if_pos rfl]
  refine ⟨_, x, route_within (writeFile_within h) hr fun _ t => ?_, rfl, hitems⟩
  simp [Spot.location, Entries.kind?, hfile, Entry.kind]

theorem readText_of_writeText (h : fs.writeText p text = .ok fs') : fs'.readText p = .ok text := by
  obtain ⟨r, x, hr, hslash, hitems⟩ := writeText_eq_ok h
  exact readText_of_item hr hslash (by rw [hitems, if_pos rfl])

/-- What can be read is not changed by writing to a path that does not end at the same place, be it
that this is only seen later. -/
theorem readText_of_apart {other : String} (hread : fs.readText p = .ok text)
    (hwrite : fs.writeText q other = .ok fs') (hmade : Within fs' made)
    (hapart : made.Apart p q) : fs'.readText p = .ok text := by
  obtain ⟨c, hc, htext⟩ := readText_eq_ok_iff.1 hread
  obtain ⟨r, x, hr, hslash, hitem⟩ := readFile_eq_ok_iff.1 hc
  obtain ⟨r', x', hr', -, hitems⟩ := writeText_eq_ok hwrite
  have hr := route_stays (writeFile_within hwrite) hr (by simp [Entries.kind?, hitem])
  have hne : r.spot.location ≠ r'.spot.location := by
    intro he
    have hthere : fs'.root.kind? r'.spot.location ≠ none := by simp [Entries.kind?, hitems]
    exact hapart r.spot.location ⟨r, route_stays hmade hr (by rwa [he]), rfl⟩
      ⟨r', route_stays hmade hr' hthere, he.symm⟩
  have hsame : fs'.root.item? r.spot.location = some (.file c x) := by
    rw [hitems, if_neg hne, hitem]
  exact readText_eq_ok_iff.2 ⟨c, readFile_eq_ok_iff.2 ⟨r, x, hr, hslash, hsame⟩, htext⟩

/-- What can be read has a path that is not refused. -/
theorem not_refused_of_readText (h : fs.readText p = .ok text) : refused? p = none := by
  obtain ⟨c, hc, -⟩ := readText_eq_ok_iff.1 h
  obtain ⟨r, -, hr, -⟩ := readFile_eq_ok_iff.1 hc
  exact (route_eq_ok_iff.1 hr).1

/-- What a name leads to is a matter of the directory that the path in front of it leads to. -/
theorem LeadsTo.walk_of_route (h : LeadsTo fs p loc) (hname : IsProper name)
    (hr : fs.route true (p / name) = .ok r) : ∃ n, Walk fs.root true n loc [name] false r := by
  obtain ⟨-, hw⟩ := route_eq_ok_iff.1 hr
  rw [hname.segment.names_join, start_join hname, hname.segment.endsInSlash_join] at hw
  obtain ⟨d, n, hd, honward⟩ := (h.walk "a" isName_a).walk_onward rfl (by decide) (by decide)
  obtain rfl : loc = d := by simpa using hd
  refine ⟨n, walk_eq_ok_iff.1 ?_⟩
  rw [← honward fs.root (fun _ _ _ hk => hk) _ [name] true false rfl (by simp)]
  exact hw.walk_eq

/-- So it can be read from wherever the name can be followed, by every path to the directory. -/
theorem LeadsTo.readText_congr (h : LeadsTo fs p loc) (h' : LeadsTo fs' q loc)
    (hroot : fs'.root = fs.root) (hname : IsProper name) (hreach : ∃ l, Reaches fs' (q / name) l)
    (hread : fs.readText (p / name) = .ok text) : fs'.readText (q / name) = .ok text := by
  obtain ⟨c, hc, htext⟩ := readText_eq_ok_iff.1 hread
  obtain ⟨r, x, hr, hslash, hitem⟩ := readFile_eq_ok_iff.1 hc
  obtain ⟨-, r', hr', -⟩ := hreach
  obtain ⟨n, hw⟩ := h.walk_of_route hname hr
  obtain ⟨m, hw'⟩ := h'.walk_of_route hname hr'
  rw [hroot] at hw'
  obtain rfl : r = r' :=
    (hw.links_le (Nat.le_max_left n m)).unique (hw'.links_le (Nat.le_max_right n m))
  exact readText_eq_ok_iff.2 ⟨c, readFile_eq_ok_iff.2 ⟨r, x, hr', hslash, hroot ▸ hitem⟩, htext⟩

/-- Names in one directory that are no links are apart. -/
theorem LeadsTo.apart (h : LeadsTo fs p loc) {other : String} (hname : IsProper name)
    (hother : IsProper other) (hne : name ≠ other)
    (hnot : ∀ t, fs.root.item? (loc ++ [name]) ≠ some (.link t))
    (hnot' : ∀ t, fs.root.item? (loc ++ [other]) ≠ some (.link t)) :
    fs.Apart (p / name) (p / other) := by
  rintro l ⟨r, hr, rfl⟩ ⟨r', hr', hsame⟩
  rw [h.route_eq_of_noLink hname hnot hr, h.route_eq_of_noLink hother hnot' hr'] at hsame
  exact hne (by simpa [Spot.location] using hsame.symm)

/-- A path that ends at a directory leads to it. -/
theorem LeadsTo.of_location (hr : (fs.route true p).map (·.spot.location) = .ok loc)
    (hdir : fs.root.kind? loc = some .directory) : LeadsTo fs p loc := by
  cases hroute : fs.route true p with
  | error e =>
    rw [hroute] at hr
    cases hr
  | ok r =>
    rw [hroute] at hr
    obtain rfl : r.spot.location = loc := Except.ok.inj hr
    exact .of_directory hroute hdir

/-- A name that is no link leads to a directory of that name in the current one. -/
theorem LeadsTo.eq_of_name (h : LeadsTo fs ⟨name⟩ loc) (hname : IsProper name)
    (hnot : ∀ t, fs.root.item? (fs.cwd ++ [name]) ≠ some (.link t)) : loc = fs.cwd ++ [name] := by
  have hjoin : (⟨""⟩ : Path) / name = ⟨name⟩ := by
    rcases join_text (p := ⟨""⟩) hname.segment.head_ne with ⟨-, ht⟩ | ⟨front, hp, -⟩ | ⟨hp, -⟩
    · exact congrArg Path.mk ht
    · simp at hp
    · cases hp
  rw [← hjoin] at h
  obtain ⟨base, hbase, hloc⟩ := h.of_below hname
  -- the empty path leads to the current directory
  have hstop : Walk fs.root false maxLinks fs.cwd ["a"] false ⟨.named fs.cwd "a", false⟩ :=
    .stop isName_a (by simp)
  have hsame := (hbase.walk "a" isName_a).walk_eq.symm.trans hstop.walk_eq
  obtain rfl : base = fs.cwd := by simpa using hsame
  exact hloc hnot

end FileSystem

/-! ## The last name of a directory -/

namespace Path

open FileSystem (names pathOf)

/-- The file name of the path of a location is the last name of the location. -/
theorem fileName?_pathOf (base : Location) {name : String} (h : IsProper name) :
    (pathOf (base ++ [name])).fileName? = some name := by
  obtain ⟨front, ht⟩ :
      ∃ front, (pathOf (base ++ [name])).text.toList = front ++ '/' :: name.toList := by
    rw [FileSystem.toList_pathOf, List.map_append]
    by_cases hbase : base = []
    · exact ⟨[], by simp [hbase, Text.joinWith]⟩
    · have hpieces : base.map String.toList ≠ [] := by simpa using hbase
      exact ⟨'/' :: Text.joinWith '/' (base.map String.toList),
        by simp [Text.joinWith_concat '/' hpieces]⟩
  have hnames := FileSystem.names_ofList_append_slash front name.toList
  rw [← ht, String.ofList_toList, String.ofList_toList, h.segment.names_eq] at hnames
  exact (withFileName_spec hnames h.ne_here h.ne_up h.segment).1

/-- A file name leads down. -/
theorem isProper_of_fileName? {p : Path} {name : String} (h : p.fileName? = some name) :
    IsProper name := by
  unfold fileName? at h
  split at h
  · cases h
  next segment hlast =>
  split at h
  · cases h
  next hup =>
  obtain rfl := Option.some.inj h
  obtain ⟨hmem, hidle⟩ := mem_of_getLast?_dropIdleEnd hlast
  have hidle : segment ≠ [] ∧ segment ≠ ['.'] := by simpa [isIdle] using hidle
  obtain ⟨-, -, hsuffix, -⟩ := leadAndBody_spec p
  have hslash : '/' ∉ segment := Text.notMem_of_mem_splitOn _ _ _ (hsuffix.subset hmem)
  refine ⟨⟨?_, by simpa using hslash⟩, ?_, ?_⟩
  · exact fun he => hidle.1 (by simpa using congrArg String.toList he)
  · exact fun he => hidle.2 (by simpa using congrArg String.toList he)
  · exact fun he => hup (by simpa using congrArg String.toList he)

end Path

namespace Campaign

variable {fs : FileSystem} {p : Path} {loc : Location} {file : String}

/-- A path leads to the same directory as that of a file in it. -/
theorem directoryOf_join (h : LeadsTo fs p loc) (hfile : IsProper file)
    (hrefused : FileSystem.refused? (p / file) = none) :
    LeadsTo fs (directoryOf (p / file)) loc ∧
      FileSystem.refused? (directoryOf (p / file)) = none := by
  obtain ⟨-, q, hparent, hsteps, hstart, -⟩ :=
    Path.parent?_spec (hfile.segment.names_join (p := p)) hfile.ne_here
  rw [FileSystem.startsAtRoot_join hfile.segment.head_ne] at hstart
  have hlead : LeadsTo fs q loc := h.of_steps hsteps.symm hstart.symm
  simp only [directoryOf, hparent]
  split
  · -- without a name in front of it the file is in the current directory
    next hempty =>
    have hempty : q.text = "" := by simpa using hempty
    refine ⟨hlead.of_steps ?_ ?_, by decide⟩ <;> rw [hempty] <;> decide
  · next hne =>
    have hne : q.text ≠ "" := by simpa using hne
    exact ⟨hlead, FileSystem.not_refused_of_prefix (Path.parent?_isPrefix hparent) hne hrefused⟩

theorem nameOf_of_canonical {dir : Path} (h : fs.canonical (directoryOf p) = .ok dir) :
    nameOf fs p = dir.fileName?.getD "campaign" := by
  delta nameOf
  rw [h]

/-- A campaign has the last name of the directory of its description, or is called `campaign`. -/
theorem nameOf_join (h : LeadsTo fs p loc) (hfile : IsProper file)
    (hrefused : FileSystem.refused? (p / file) = none) :
    nameOf fs (p / file) = (FileSystem.pathOf loc).fileName?.getD "campaign" := by
  obtain ⟨hlead, hdir⟩ := directoryOf_join h hfile hrefused
  exact nameOf_of_canonical (hlead.canonical_eq hdir)

end Campaign

/-! ## What is written -/

namespace NewCampaign

variable {fs made : FileSystem} {p : Path} {loc : Location} {name text : String}

/-- The files of a campaign that are read when it is loaded. -/
def readFiles : List String := [settingsFile, "README.md", "repos.txt"]

theorem readFiles_eq (name : String) : readFiles = (files name).tail.map Prod.fst := (rfl)

theorem isProper_of_mem_readFiles {file : String} (h : file ∈ readFiles) : IsProper file := by
  rw [readFiles_eq ""] at h
  obtain ⟨written, hwritten, rfl⟩ := List.mem_map.1 h
  exact isProper_of_mem_files (List.mem_of_mem_tail hwritten)

/-- No two of the files that are read are one. -/
def FilesApart (fs : FileSystem) (p : Path) : Prop :=
  readFiles.Pairwise fun f g => fs.Apart (p / f) (p / g)

/-- What is written is still there after the files behind it, if none of these is the same. -/
theorem readText_of_later {list : List (String × String)} {q : Path}
    (hread : fs.readText q = .ok text) (hmade : writeAll p list fs = (made, .ok ()))
    (hapart : ∀ file ∈ list, made.Apart q (p / file.1)) : made.readText q = .ok text := by
  induction list generalizing fs with
  | nil =>
    cases hmade
    exact hread
  | cons file rest ih =>
    rw [writeAll_cons] at hmade
    split at hmade
    · cases hmade
    next fs' hwrite =>
    rw [List.forall_mem_cons] at hapart
    have hwithin : Within fs' made := by simpa [hmade] using writeAll_within p rest fs'
    exact ih (FileSystem.readText_of_apart hread hwrite hwithin hapart.1) hmade hapart.2

/-- Files that are apart hold what was written to each of them. -/
theorem readText_of_writeAll {list : List (String × String)}
    (hmade : writeAll p list fs = (made, .ok ()))
    (hapart : list.Pairwise fun f g => made.Apart (p / f.1) (p / g.1)) :
    ∀ file ∈ list, made.readText (p / file.1) = .ok file.2 := by
  induction list generalizing fs with
  | nil => simp
  | cons file rest ih =>
    rw [writeAll_cons] at hmade
    split at hmade
    · cases hmade
    next fs' hwrite =>
    rw [List.pairwise_cons] at hapart
    exact List.forall_mem_cons.2
      ⟨readText_of_later (FileSystem.readText_of_writeText hwrite) hmade hapart.1,
        ih hmade hapart.2⟩

theorem create_eq_ok {force : Bool} (h : create name force fs = (made, .ok ())) :
    ∃ start, fs.makeDirectories ((⟨name⟩ : Path) / workName) = (start, .ok ()) ∧
      writeAll ⟨name⟩ (files name) start = (made, .ok ()) := by
  simp only [create] at h
  split at h
  · cases h
  rcases hmade : fs.makeDirectories ((⟨name⟩ : Path) / workName) with ⟨start, e | ⟨⟨⟩⟩⟩
  · simp [hmade] at h
  · exact ⟨start, rfl, by simpa [hmade] using h⟩

/-- Whatever links there are afterwards were there before. -/
theorem links_of_create {force : Bool} (h : create name force fs = (made, .ok ())) (l : Location)
    (t : String) (ht : made.root.item? l = some (.link t)) : fs.root.item? l = some (.link t) := by
  obtain ⟨start, hstart, hwritten⟩ := create_eq_ok h
  have hlinks : ∀ t, (writeAll ⟨name⟩ (files name) start).1.root.item? l = some (.link t) →
      start.root.item? l = some (.link t) := by
    refine writeAll_induction (P := fun now => ∀ t, now.root.item? l = some (.link t) →
      start.root.item? l = some (.link t)) (fun _ _ now now' hnow hwrite t ht => hnow t ?_)
      fun _ h => h
    obtain ⟨r, x, -, -, hitems⟩ := FileSystem.writeText_eq_ok hwrite
    rw [hitems] at ht
    split at ht
    · cases ht
    · exact ht
  rw [hwritten] at hlinks
  exact (FileSystem.makeDirectories_eq_adds hstart).links l t (hlinks t ht)

/-- A path with the name leads to a directory once the campaign is made. -/
theorem leadsTo_of_create {force : Bool} (h : create name force fs = (made, .ok ())) :
    made.cwd = fs.cwd ∧ ∃ loc, LeadsTo made ⟨name⟩ loc := by
  obtain ⟨start, hstart, hwritten⟩ := create_eq_ok h
  have hwithin : Within start made := by
    simpa [hwritten] using writeAll_within ⟨name⟩ (files name) start
  obtain ⟨loc, hlead⟩ := leadsTo_of_makeDirectories hstart
  exact ⟨hwithin.cwd.trans (FileSystem.makeDirectories_eq_adds hstart).cwd, loc,
    hlead.within hwithin⟩

/-- The files that are read hold what was written to them. -/
theorem readText_of_create {force : Bool} (h : create name force fs = (made, .ok ()))
    (hapart : FilesApart made ⟨name⟩) :
    ∀ file ∈ (files name).tail, made.readText ((⟨name⟩ : Path) / file.1) = .ok file.2 := by
  obtain ⟨start, -, hwritten⟩ := create_eq_ok h
  rw [FilesApart, readFiles_eq name, List.pairwise_map] at hapart
  rw [files, writeAll_cons] at hwritten
  split at hwritten
  · cases hwritten
  · exact readText_of_writeAll hwritten hapart

theorem filesApart_of_noLinks (h : LeadsTo fs p loc)
    (hnot : ∀ file ∈ readFiles, ∀ t, fs.root.item? (loc ++ [file]) ≠ some (.link t)) :
    FilesApart fs p := by
  have hne : readFiles.Nodup := by decide
  refine hne.imp_of_mem fun {f g} hf hg hfg => ?_
  exact h.apart (isProper_of_mem_readFiles hf) (isProper_of_mem_readFiles hg) hfg (hnot f hf)
    (hnot g hg)

/-! ## What is read -/

/-- The first line of a text and what is behind it. -/
theorem exists_firstLine (cs rest : List Char) :
    ∃ more, cs ++ '\n' :: rest = cs.takeWhile (· ≠ '\n') ++ '\n' :: more := by
  induction cs with
  | nil => exact ⟨rest, rfl⟩
  | cons c cs ih =>
    by_cases hc : c = '\n'
    · exact ⟨cs ++ '\n' :: rest, by simp [hc]⟩
    · obtain ⟨more, hmore⟩ := ih
      exact ⟨more, by simp [hc, hmore]⟩

/-- The title of a new campaign is that of the first line of its name. -/
theorem isTitle_readme (name : String) :
    IsTitle (name.toList.takeWhile (· ≠ '\n'))
      (Description.parse (readme name)).title.toList := by
  obtain ⟨about, habout⟩ : ∃ about, (readme name).toList =
      "# ".toList ++ (name.toList ++ '\n' :: about) := by
    simp only [readme, String.toList_append, List.append_assoc]
    exact ⟨'\n' :: _, rfl⟩
  obtain ⟨rest, hrest⟩ := exists_firstLine name.toList about
  have hfeed : '\n' ∉ name.toList.takeWhile (· ≠ '\n') := fun hmem => by
    simpa using List.mem_takeWhile_imp hmem
  have hmade : Description.IsMadeOf (readme name).toList []
      ("# ".toList ++ name.toList.takeWhile (· ≠ '\n')) ['\n'] rest :=
    ⟨by simp [habout, hrest], .inl rfl, by simp [Text.lines, Text.linesOfPieces],
      by simpa using hfeed, rfl, .inl rfl⟩
  have htitle := hmade.parse_eq.1.eq
  rw [htitle]
  exact Description.isTitle_trimEnd _

/-- It is the name exactly if the name is one line and a title of its own. -/
theorem title_readme_eq_iff (name : String) : (Description.parse (readme name)).title = name ↔
    '\n' ∉ name.toList ∧ IsTitle name.toList name.toList := by
  have htitle := isTitle_readme name
  constructor
  · intro he
    rw [he] at htitle
    refine ⟨fun hmem => ?_, htitle.self⟩
    simpa using List.mem_takeWhile_imp (htitle.mem hmem)
  · rintro ⟨hfeed, hown⟩
    have hline : name.toList.takeWhile (· ≠ '\n') = name.toList :=
      List.takeWhile_eq_self_iff.2 fun c hc => by
        simpa using fun he : c = '\n' => hfeed (he ▸ hc)
    rw [hline] at htitle
    exact String.toList_inj.1 (htitle.eq.trans hown.eq.symm)

/-- From the path of a directory the settings are the defaults, meant from there, and the campaign
is read as the given one. -/
structure LoadsAs (fs : FileSystem) (p : Path) (campaign : Campaign) : Prop where
  settings : Settings.load fs p = .ok (Settings.resolve {} p)
  campaign : Campaign.load fs (Settings.resolve {} p).reposFile
    (Settings.resolve {} p).descriptionFile = .ok campaign

/-- The campaign of a name in the directory at a location, as it is when it is new. -/
def campaignAt (loc : Location) (name : String) : Campaign where
  name := (FileSystem.pathOf loc).fileName?.getD "campaign"
  repos := []
  description := Description.parse (readme name)

theorem parse_template : Settings.parse Settings.template = .ok {} := by
  -- piece by piece, for the kernel takes long over the characters of a long text
  delta Settings.parse Settings.template
  simp only [String.toList_append, -String.reduceAppend]
  decide +kernel

theorem parse_emptyList : RepositoryList.parse emptyList = .ok [] := by
  delta RepositoryList.parse emptyList
  simp only [String.toList_append, -String.reduceAppend]
  decide +kernel

theorem loadsAs_of_readText (h : LeadsTo fs p loc)
    (hread : ∀ file ∈ (files name).tail, fs.readText (p / file.1) = .ok file.2) :
    LoadsAs fs p (campaignAt loc name) := by
  have hsettings : fs.readText (p / settingsFile) = .ok Settings.template :=
    hread (settingsFile, Settings.template) (by simp [files])
  have hdescription : fs.readText (p / "README.md") = .ok (readme name) :=
    hread ("README.md", readme name) (by simp [files])
  have hlist : fs.readText (p / "repos.txt") = .ok emptyList :=
    hread ("repos.txt", emptyList) (by simp [files])
  have hname : Campaign.nameOf fs (p / "README.md") = (campaignAt loc name).name :=
    Campaign.nameOf_join h (isProper_of_mem_readFiles (by simp [readFiles]))
      (FileSystem.not_refused_of_readText hdescription)
  have hload := Campaign.load_eq_ok hlist parse_emptyList hdescription
  rw [hname] at hload
  exact ⟨Settings.load_of_parse hsettings parse_template, hload⟩

theorem loadsAs_of_create {force : Bool} (h : create name force fs = (made, .ok ()))
    (hlead : LeadsTo made ⟨name⟩ loc) (hapart : FilesApart made ⟨name⟩) :
    LoadsAs made ⟨name⟩ (campaignAt loc name) :=
  loadsAs_of_readText hlead (readText_of_create h hapart)

/-- A campaign is called by a single name. -/
theorem isProper_campaignAt (loc : Location) (name : String) :
    IsProper (campaignAt loc name).name := by
  change IsProper ((FileSystem.pathOf loc).fileName?.getD "campaign")
  cases hlast : (FileSystem.pathOf loc).fileName? with
  | none => exact ⟨⟨by decide, by decide⟩, by decide, by decide⟩
  | some last => exact Path.isProper_of_fileName? hlast

end NewCampaign

namespace CommandLine

open NewCampaign (FilesApart LoadsAs campaignAt readFiles)

variable {m : Markers} {name : String} {force : Bool} {fs : FileSystem}

theorem create_of_init (h : (init m name force fs).failure = none) :
    NewCampaign.create name force fs = ((init m name force fs).files, .ok ()) := by
  rcases hcreate : NewCampaign.create name force fs with ⟨made, e | ⟨⟨⟩⟩⟩ <;>
    simp only [init, hcreate] at h ⊢
  · cases h
  · rfl

/-- Whatever campaign is made, its name leads to its directory, and that is the directory of this
name if this is a single one and no link.  There it has no repositories.  Its title is the title of
the first line of the name, and is the name exactly if this is one line and a title of its own.  It
is called by the last name of its directory, which is not the name unless this is a single one.

That is how it is loaded, and with the default settings, unless links make one file of two that are
read: by the name itself, and from everywhere by every path to the directory that lets the files be
reached. -/
theorem init_then_load (h : (init m name force fs).failure = none) :
    ∃ made loc campaign, (init m name force fs).files = made ∧ LeadsTo made ⟨name⟩ loc ∧
      campaign.repos = [] ∧
      (IsTitle (name.toList.takeWhile (· ≠ '\n')) campaign.description.title.toList ∧
        (campaign.description.title = name ↔
          '\n' ∉ name.toList ∧ IsTitle name.toList name.toList)) ∧
      (campaign.name = (FileSystem.pathOf loc).fileName?.getD "campaign" ∧
        (IsProper name → (∀ t, fs.root.item? (fs.cwd ++ [name]) ≠ some (.link t)) →
          loc = fs.cwd ++ [name] ∧ campaign.name = name) ∧
        (campaign.name = name → IsProper name)) ∧
      ((∀ file ∈ readFiles, ∀ t, made.root.item? (loc ++ [file]) ≠ some (.link t)) →
        FilesApart made ⟨name⟩) ∧
      (FilesApart made ⟨name⟩ → LoadsAs made ⟨name⟩ campaign ∧
        ∀ (now : FileSystem) (p : Path), now.root = made.root → LeadsTo now p loc →
          (∀ file ∈ readFiles, ∃ l, Reaches now (p / file) l) → LoadsAs now p campaign) := by
  have hmade := create_of_init h
  generalize (init m name force fs).files = made at hmade
  obtain ⟨hcwd, loc, hlead⟩ := NewCampaign.leadsTo_of_create hmade
  refine ⟨made, loc, campaignAt loc name, rfl, hlead, rfl,
    ⟨NewCampaign.isTitle_readme name, NewCampaign.title_readme_eq_iff name⟩,
    ⟨rfl, fun hname hnot => ?_, fun he => he ▸ NewCampaign.isProper_campaignAt loc name⟩,
    NewCampaign.filesApart_of_noLinks hlead, fun hapart => ?_⟩
  · -- no link has come, so the directory has the name
    have hloc := hlead.eq_of_name hname fun t ht =>
      hnot t (hcwd ▸ NewCampaign.links_of_create hmade _ t ht)
    rw [hcwd] at hloc
    refine ⟨hloc, ?_⟩
    rw [campaignAt, hloc, Path.fileName?_pathOf _ hname]
    rfl
  · refine ⟨NewCampaign.loadsAs_of_create hmade hlead hapart, fun now p hroot hnow hreach => ?_⟩
    have hread := NewCampaign.readText_of_create hmade hapart
    refine NewCampaign.loadsAs_of_readText hnow fun file hfile => ?_
    have hmem : file.1 ∈ readFiles := List.mem_map_of_mem hfile
    exact hlead.readText_congr hnow hroot (NewCampaign.isProper_of_mem_readFiles hmem)
      (hreach _ hmem) (hread file hfile)

/-- A plain name beside another campaign: it is the title and the name of the new one, also when
that is loaded from its own directory. -/
theorem init_then_load_sample :
    let fs : FileSystem := { root := [("w", .directory [("other", .directory [])])], cwd := ["w"] }
    (init ⟨false⟩ "bump-go" false fs).failure = none ∧
      ∃ made campaign, (init ⟨false⟩ "bump-go" false fs).files = made ∧
        campaign.name = "bump-go" ∧ campaign.description.title = "bump-go" ∧
        LoadsAs made ⟨"bump-go"⟩ campaign ∧
        LoadsAs { made with cwd := ["w", "bump-go"] } ⟨"/w/bump-go"⟩ campaign := by
  intro fs
  have hdone : (init ⟨false⟩ "bump-go" false fs).failure = none := by decide +kernel
  obtain ⟨made, loc, campaign, hmade, -, -, ⟨-, htitle⟩, ⟨-, hdirectory, -⟩, hfree, hloads⟩ :=
    init_then_load hdone
  have hproper : IsProper "bump-go" := ⟨⟨by decide, by decide⟩, by decide, by decide⟩
  have hnone : fs.root.item? ["w", "bump-go"] = none := by decide
  obtain ⟨rfl, hname⟩ := hdirectory hproper fun t ht => by cases hnone.symm.trans ht
  have hown : IsTitle "bump-go".toList "bump-go".toList := by
    have hkept : Text.trimEnd ("bump-go".toList.dropWhile Description.isHeading) =
        "bump-go".toList := by decide +kernel
    have htitle := Description.isTitle_trimEnd "bump-go".toList
    rwa [hkept] at htitle
  have hplain : ∀ file ∈ readFiles, ∀ t,
      made.root.item? (["w", "bump-go"] ++ [file]) ≠ some (.link t) := by
    have hkinds : ∀ file ∈ readFiles,
        made.root.kind? (["w", "bump-go"] ++ [file]) = some .file := by
      rw [← hmade]
      decide +kernel
    exact fun file hfile t ht => by
      cases (hkinds file hfile).symm.trans (Entries.kind?_eq_link.2 ht)
  obtain ⟨hhere, hinside⟩ := hloads (hfree hplain)
  have hlead : LeadsTo { made with cwd := ["w", "bump-go"] } ⟨"/w/bump-go"⟩ ["w", "bump-go"] := by
    rw [← hmade]
    exact .of_location (by decide +kernel) (by decide +kernel)
  have hreach : ∀ file ∈ readFiles,
      FileSystem.route { made with cwd := ["w", "bump-go"] } true ((⟨"/w/bump-go"⟩ : Path) / file) =
        .ok ⟨.named ["w", "bump-go"] file, false⟩ := by
    rw [← hmade]
    decide +kernel
  exact ⟨hdone, made, campaign, hmade, hname, htitle.2 ⟨by decide, hown⟩, hhere,
    hinside _ _ rfl hlead fun file hfile => ⟨_, _, hreach file hfile, rfl⟩⟩

/-- Names with where they lead, of which a campaign does not get its name or its title: the
directory has another last name, or a link leads to it, or the name is no title of its own.  And
settings that are no longer the defaults, because a link makes them one file with the description. -/
theorem init_names_otherwise :
    let fs : FileSystem :=
      { root := [("w", .directory [("real", .directory []), ("link", .link "real")])],
        cwd := ["w"] }
    let linked : FileSystem := { root := [("w", .directory [(settingsFile, .link "README.md")])] }
    (∀ given ∈ [(".", ["w"]), ("a/b", ["w", "a", "b"]), ("link", ["w", "real"]),
        ("#1", ["w", "#1"]), ("a\nb", ["w", "a\nb"])],
      (init ⟨false⟩ given.1 true fs).failure = none ∧ ∃ campaign,
        LoadsAs (init ⟨false⟩ given.1 true fs).files ⟨given.1⟩ campaign ∧
        (campaign.name, campaign.description.title) ≠ (given.1, given.1)) ∧
    (init ⟨false⟩ "w" true linked).failure = none ∧
      Settings.load (init ⟨false⟩ "w" true linked).files ⟨"w"⟩ ≠
        .ok (Settings.resolve {} ⟨"w"⟩) := by
  intro fs linked
  refine ⟨fun given hgiven => ?_, by decide +kernel, by decide +kernel⟩
  obtain ⟨hdone, hroute, hdir, hfiles, hother⟩ :
      (init ⟨false⟩ given.1 true fs).failure = none ∧
      ((init ⟨false⟩ given.1 true fs).files.route true ⟨given.1⟩).map (·.spot.location) =
        .ok given.2 ∧
      (init ⟨false⟩ given.1 true fs).files.root.kind? given.2 = some .directory ∧
      (∀ file ∈ readFiles, fs.root.item? (given.2 ++ [file]) = none) ∧
      ((campaignAt given.2 given.1).name, (campaignAt given.2 given.1).description.title) ≠
        (given.1, given.1) := by
    revert given
    decide +kernel
  have hlead := LeadsTo.of_location hroute hdir
  have hapart := NewCampaign.filesApart_of_noLinks hlead fun file hfile t ht => by
    cases (hfiles file hfile).symm.trans
      (NewCampaign.links_of_create (create_of_init hdone) _ t ht)
  exact ⟨hdone, _, NewCampaign.loadsAs_of_create (create_of_init hdone) hlead hapart, hother⟩

end CommandLine

end Fleet

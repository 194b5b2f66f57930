import Fleet.Proofs.Files.Directories
import Fleet.Proofs.ResultSet

namespace Fleet

/-! # A new result set

Making a result set changes nothing that was there (`create_extends`), and one that has been made is
placed and holds the header of each list (`create_ok`).  Its directory is new, so at first there is
nothing in it, and each bucket adds its directory and its list.
-/

open FileSystem (Admits IsName IsProper IsSegment LeadsTo Within Extends AddsDirectories)

namespace ResultSet

variable {s : ResultSet} {fs fs' : FileSystem} {here : Surroundings} {parent : Path}
  {campaign command : String}

/-! ## The name -/

theorem sanitizeChar_ne_slash (c : Char) : sanitizeChar c ≠ '/' := by
  unfold sanitizeChar
  split
  · next hkept =>
    rintro rfl
    exact absurd hkept (by decide)
  · decide

theorem sanitizeChar_sanitizeChar (c : Char) : sanitizeChar (sanitizeChar c) = sanitizeChar c := by
  by_cases hkept : (Text.isAlphanumeric c || c == '-' || c == '_' || c == '.') = true
  · have hsame : sanitizeChar c = c := if_pos hkept
    rw [hsame, hsame]
  · have hdash : sanitizeChar c = '-' := if_neg hkept
    rw [hdash]
    decide

theorem slash_notMem_sanitize (campaign : String) : '/' ∉ (sanitize campaign).toList := by
  intro hmem
  rw [sanitize, String.toList_ofList] at hmem
  obtain ⟨c, -, hc⟩ := List.mem_map.1 hmem
  exact sanitizeChar_ne_slash c hc

theorem sanitize_sanitize (campaign : String) :
    sanitize (sanitize campaign) = sanitize campaign := by
  simp [sanitize, Function.comp_def, sanitizeChar_sanitizeChar]

theorem length_sanitize (campaign : String) : (sanitize campaign).length = campaign.length := by
  rw [← String.length_toList, ← String.length_toList, sanitize, String.toList_ofList,
    List.length_map]

/-- The name of a result set. -/
def dirName (campaign : String) (suffix : Suffix) : String := stem campaign ++ suffix.text

theorem toList_dirName (campaign : String) (suffix : Suffix) :
    (dirName campaign suffix).toList = 'f' :: ("leetrun-foreach-".toList ++
      ((sanitize campaign).toList ++ ("-".toList ++ suffix.text.toList))) := by
  have happend : ∀ a b c d : String, (a ++ b ++ c ++ d).toList =
      a.toList ++ (b.toList ++ (c.toList ++ d.toList)) := by simp
  have hfront : "fleetrun-foreach-".toList = 'f' :: "leetrun-foreach-".toList := by decide +kernel
  have hall := happend "fleetrun-foreach-" (sanitize campaign) "-" suffix.text
  rw [hfront] at hall
  exact hall

theorem dirName_isProper (campaign : String) (suffix : Suffix) :
    IsProper (dirName campaign suffix) := by
  have hslash : '/' ∉ (dirName campaign suffix).toList := by
    have hfront : '/' ∉ 'f' :: "leetrun-foreach-".toList := by decide +kernel
    have hdash : '/' ∉ "-".toList := by decide
    have hsuffix : '/' ∉ suffix.text.toList := fun hmem =>
      absurd (List.all_eq_true.1 suffix.alphanumeric _ hmem) (by decide)
    rw [toList_dirName, ← List.cons_append]
    simp only [List.mem_append, not_or]
    exact ⟨hfront, slash_notMem_sanitize campaign, hdash, hsuffix⟩
  have hne : ∀ text : String, text.toList.head? ≠ some 'f' → dirName campaign suffix ≠ text := by
    rintro text htext rfl
    exact htext (by rw [toList_dirName, List.head?_cons])
  exact ⟨⟨hne _ (by decide), hslash⟩, hne _ (by decide), hne _ (by decide)⟩

/-! ## The directory -/

theorem makeFresh_ok {base dir : Path} {suffixes : List Suffix}
    (h : makeFresh fs base (stem campaign) suffixes = .ok (dir, fs')) :
    ∃ suffix ∈ suffixes, dir = base / dirName campaign suffix ∧
      fs.makeDirectory dir = .ok fs' := by
  induction suffixes with
  | nil => cases h
  | cons suffix rest ih =>
    unfold makeFresh at h
    simp only at h
    split at h
    · next made hmade =>
      cases h
      exact ⟨suffix, by simp, rfl, hmade⟩
    · next e _ =>
      split at h
      · obtain ⟨other, hmem, hother⟩ := ih h
        exact ⟨other, by simp [hmem], hother⟩
      · cases h

theorem startsAtRoot_fromRoot (fs : FileSystem) (p : Path) :
    FileSystem.startsAtRoot (fromRoot fs p).text = true := by
  unfold fromRoot
  cases hp : p.isAbsolute with
  | true => exact hp
  | false =>
    exact (FileSystem.startsAtRoot_join hp).trans (FileSystem.startsAtRoot_pathOf _)

/-- A directory that has just been made, with nothing in it. -/
structure IsFresh (s : ResultSet) (fs : FileSystem) : Prop where
  absolute : FileSystem.startsAtRoot s.root.text = true
  named : ∀ m ∈ s.location, IsName m
  directory : fs.root.item? s.location = some .directory
  empty : ∀ loc, s.location <+: loc → loc ≠ s.location → fs.root.item? loc = none

/-- What a new directory is: one in the directory that the path leads to, with nothing in it. -/
structure IsFreshIn (p : Path) (base : Location) (name : String) (fs fresh : FileSystem) :
    Prop where
  leadsTo : LeadsTo fs p base
  accepted : FileSystem.refused? p = none
  free : fs.root.item? (base ++ [name]) = none
  names : ∀ m ∈ base ++ [name], IsName m ∧ IsSegment m
  grown : Extends fs fresh
  others : ∀ l, l ≠ base ++ [name] → fresh.root.item? l = fs.root.item? l
  empty : ∀ more, more ≠ [] → fresh.root.item? (base ++ [name] ++ more) = none
  directory : LeadsTo fresh (FileSystem.pathOf (base ++ [name])) (base ++ [name])

/-- The path that is kept of a new directory is that of its location. -/
theorem isFreshIn_of_makeFresh {p dir root : Path} {suffixes : List Suffix}
    (hp : FileSystem.startsAtRoot p.text = true)
    (h : makeFresh fs p (stem campaign) suffixes = .ok (dir, fs'))
    (hroot : fs'.canonical dir = .ok root) :
    ∃ suffix ∈ suffixes, ∃ base, root = FileSystem.pathOf (base ++ [dirName campaign suffix]) ∧
      IsFreshIn p base (dirName campaign suffix) fs fs' := by
  obtain ⟨suffix, hmem, rfl, hmade⟩ := makeFresh_ok h
  have hname := dirName_isProper campaign suffix
  obtain ⟨base, n, slash, hr, hdir, hnone, rfl⟩ := FileSystem.makeDirectory_eq_ok hmade
  obtain ⟨rfl, hlead⟩ := LeadsTo.of_last (p := p) hr hdir hname.segment.names_join hname.ne_here
    hname.ne_up rfl (FileSystem.startsAtRoot_join hname.segment.head_ne).symm
  have hfits := Admits.of_route hname hr
  have hfree : fs.root.item? (base ++ [dirName campaign suffix]) ≠ some .directory := by
    simp [hnone]
  have hitems := FileSystem.item?_place (.directory []) rfl hdir hfree
  have hgrown := (FileSystem.makeDirectory_adds hmade).extends
  have hnames : ∀ m ∈ base ++ [dirName campaign suffix], IsName m ∧ IsSegment m := by
    have hwalk := hlead.walk _ (hfits.isName hname)
    rw [start_of_startsAtRoot hp] at hwalk
    refine hwalk.names_of_end (by simp) fun m hm => ?_
    rcases List.mem_append.1 hm with hm | hm
    · exact FileSystem.isSegment_of_mem_names hm
    · rw [List.mem_singleton.1 hm]
      exact hname.segment
  -- the new directory is where its path leads, so that is the path without links
  have hthere := (hitems _).trans (if_pos rfl)
  have hnew := (hlead.within hgrown.within).below hname (hfits.isName hname) hthere
  rw [hnew.canonical_eq hfits.not_refused, Except.ok.injEq] at hroot
  have hlocation := FileSystem.names_pathOf fun m hm => (hnames m hm).2
  have hset := LeadsTo.of_names (p := FileSystem.pathOf (base ++ [dirName campaign suffix]))
    (FileSystem.startsAtRoot_pathOf _) (by rw [hlocation]; exact fun m hm => (hnames m hm).1)
    (by rw [hlocation]; exact hthere)
  rw [hlocation] at hset
  refine ⟨suffix, hmem, base, hroot.symm, hlead, hname.segment.not_refused
    (FileSystem.ne_empty_of_startsAtRoot hp) hfits.not_refused, hnone, hnames, hgrown,
    fun l hl => (hitems l).trans (if_neg hl), fun more hmore => ?_, hset⟩
  rw [hitems, if_neg (by simpa using hmore)]
  exact Entries.item?_below_none (by simp [hnone]) (List.prefix_append _ _) (by simpa using hmore)

theorem fresh_of_makeFresh {p dir root : Path} {suffixes : List Suffix}
    (hp : FileSystem.startsAtRoot p.text = true)
    (h : makeFresh fs p (stem campaign) suffixes = .ok (dir, fs'))
    (hroot : fs'.canonical dir = .ok root) :
    (ResultSet.mk root).IsFresh fs' ∧ fs.root.item? (ResultSet.mk root).location = none := by
  obtain ⟨suffix, -, base, rfl, hfresh⟩ := isFreshIn_of_makeFresh hp h hroot
  have hloc : (ResultSet.mk (FileSystem.pathOf (base ++ [dirName campaign suffix]))).location =
      base ++ [dirName campaign suffix] :=
    FileSystem.names_pathOf fun m hm => (hfresh.names m hm).2
  refine ⟨⟨FileSystem.startsAtRoot_pathOf _, ?_, ?_, ?_⟩, ?_⟩
  · rw [hloc]
    exact fun m hm => (hfresh.names m hm).1
  · rw [hloc, hfresh.directory.directory]
  · rw [hloc]
    rintro _ ⟨more, rfl⟩ hne
    exact hfresh.empty more (by simpa using hne)
  · rw [hloc, hfresh.free]

/-! ## The buckets -/

/-- A result set in which the list of a bucket can be made. -/
structure IsReady (s : ResultSet) (b : Bucket) (fs : FileSystem) : Prop where
  absolute : FileSystem.startsAtRoot s.root.text = true
  named : ∀ m ∈ s.location, IsName m
  directory : fs.root.kind? s.location = some .directory
  noLinks : ∀ loc t, s.location <+: loc → fs.root.kind? loc ≠ some (.link t)
  free : ∀ c x, fs.root.item? (s.listLocation b) ≠ some (.file c x)

theorem IsFresh.isReady (h : s.IsFresh fs) (b : Bucket) : s.IsReady b fs := by
  have hnot : ∀ loc e, s.location <+: loc → fs.root.item? loc = some e → e = .directory := by
    intro loc e hl he
    by_cases hs : loc = s.location
    · rw [hs, h.directory] at he
      exact (Option.some.inj he).symm
    · rw [h.empty loc hl hs] at he
      cases he
  refine ⟨h.absolute, h.named, Entries.kind?_eq_directory.2 h.directory,
    fun loc t hl hk => ?_, fun c x hf => ?_⟩
  · cases hnot loc _ hl (Entries.kind?_eq_link.1 hk)
  · cases hnot _ _ (location_isPrefix s b) hf

/-- It still can be made when there are more directories. -/
theorem IsReady.adds {b : Bucket} (h : s.IsReady b fs) (ha : AddsDirectories fs fs') :
    s.IsReady b fs' := by
  refine ⟨h.absolute, h.named, ha.extends.within.kinds _ _ h.directory, fun loc t hl hk => ?_,
    fun c x hf => h.free c x (ha.item?_of_ne hf (by simp))⟩
  have hitem := ha.item?_of_ne (Entries.kind?_eq_link.1 hk) (by simp)
  exact h.noLinks loc t hl (Entries.kind?_eq_link.2 hitem)

/-- There is no link on the way to the list, so its path leads to its location. -/
theorem IsReady.listLocation_eq {b : Bucket} {followLast slash : Bool} {dir : Location}
    {name : String} (h : s.IsReady b fs)
    (hroute : fs.route followLast (s.bucketList b) = .ok ⟨.named dir name, slash⟩) :
    dir ++ [name] = s.listLocation b := by
  have hlist : FileSystem.startsAtRoot (s.bucketList b).text = true :=
    listFile_isSegment.startsAtRoot_join ((bucket_isSegment b).startsAtRoot_join h.absolute)
  have hnames : FileSystem.names (s.bucketList b).text =
      s.location ++ ([b.name] ++ [listFile]) := by
    rw [names_bucketList, listLocation, List.append_assoc]
  have hplain : ∀ m ∈ [b.name] ++ [listFile], m ≠ "." ∧ m ≠ ".." := by
    simp [bucket_ne_dots b]
    decide
  rw [location_of_route hlist hnames h.named hplain h.directory h.noLinks hroute, listLocation,
    List.append_assoc]

/-- What making a bucket leaves: nothing is changed, no link and no file but the list has come, and
if it succeeds the list holds its header. -/
structure MadeBucket (s : ResultSet) (command : String) (b : Bucket) (fs : FileSystem)
    (out : FileSystem × Except Error Unit) : Prop where
  grown : Extends fs out.1
  noLinks : ∀ loc t, s.location <+: loc → out.1.root.kind? loc ≠ some (.link t)
  files : ∀ loc c x, out.1.root.item? loc = some (.file c x) →
    fs.root.item? loc = some (.file c x) ∨ loc = s.listLocation b
  accepted : out.2 = .ok () → FileSystem.refused? (s.bucketList b) = none
  list : out.2 = .ok () →
    ∃ x, out.1.root.item? (s.listLocation b) = some (.file (header b command).toUTF8 x)

/-- It stops before the list is written. -/
theorem MadeBucket.of_error {b : Bucket} (h : s.IsReady b fs) (ha : AddsDirectories fs fs')
    (e : Error) : MadeBucket s command b fs (fs', .error e) where
  grown := ha.extends
  noLinks := (h.adds ha).noLinks
  files _ _ _ hf := .inl (ha.item?_of_ne hf (by simp))
  accepted hok := by cases hok
  list hok := by cases hok

/-- The list is written where nothing was. -/
theorem MadeBucket.of_write {b : Bucket} {made : FileSystem} (h : s.IsReady b fs)
    (ha : AddsDirectories fs made)
    (hw : made.writeText (s.bucketList b) (header b command) = .ok fs') :
    MadeBucket s command b fs (fs', .ok ()) := by
  obtain ⟨dir, name, x, hroute, hwas, hcwd, hitems⟩ := FileSystem.writeFile_eq_ok hw
  have hready := h.adds ha
  have hloc := hready.listLocation_eq hroute
  rw [hloc] at hwas hitems
  -- only a file could have been written over, and there is none
  have hnone : made.root.item? (s.listLocation b) = none :=
    hwas.resolve_right fun ⟨old, hold⟩ => hready.free _ _ hold
  refine ⟨ha.extends.trans ⟨hcwd, fun loc e he => ?_⟩, fun loc t hl hk => ?_, fun loc c y hf => ?_,
    fun _ => (FileSystem.route_eq_ok_iff.1 hroute).1, fun _ => ⟨x, ?_⟩⟩
  · rw [hitems, if_neg, he]
    rintro rfl
    rw [hnone] at he
    cases he
  · rw [Entries.kind?, hitems] at hk
    split at hk
    · cases hk
    · exact hready.noLinks loc t hl hk
  · by_cases hl : loc = s.listLocation b
    · exact .inr hl
    · rw [hitems, if_neg hl] at hf
      exact .inl (ha.item?_of_ne hf (by simp))
  · rw [hitems, if_pos rfl]

theorem makeBucket_made (command : String) {b : Bucket} (h : s.IsReady b fs) :
    MadeBucket s command b fs (s.makeBucket command b fs) := by
  have hadds := FileSystem.makeDirectories_adds fs (s.bucketDir b)
  unfold makeBucket
  split
  · next made e heq =>
    rw [heq] at hadds
    exact .of_error h hadds _
  · next made heq =>
    rw [heq] at hadds
    split
    · exact .of_error h hadds _
    · next written hw => exact .of_write h hadds hw

/-- After the one bucket the other can be made. -/
theorem MadeBucket.isReady {b c : Bucket} (h : MadeBucket s command b fs (fs', .ok ()))
    (hready : s.IsReady c fs) (hne : c ≠ b) : s.IsReady c fs' := by
  refine ⟨hready.absolute, hready.named, h.grown.within.kinds _ _ hready.directory, h.noLinks,
    fun content x hf => ?_⟩
  rcases h.files _ content x hf with hf | he
  · exact hready.free content x hf
  · exact hne (listLocation_injective he)

/-- A new directory with both buckets is a result set that holds the headers. -/
theorem IsFresh.placed_holds {first last : FileSystem} (h : s.IsFresh fs)
    (hsucc : MadeBucket s command .successful fs (first, .ok ()))
    (hfail : MadeBucket s command .failed first (last, .ok ())) :
    s.IsPlaced ∧ s.Holds (header · command) last := by
  refine ⟨⟨h.absolute, h.named, fun b => ?_⟩, ⟨hfail.noLinks, fun b => ?_⟩⟩
  · cases b with
    | successful => exact hsucc.accepted rfl
    | failed => exact hfail.accepted rfl
  · cases b with
    | successful =>
      obtain ⟨x, hx⟩ := hsucc.list rfl
      exact ⟨x, hfail.grown.items _ _ hx⟩
    | failed => exact hfail.list rfl

/-! ## The whole -/

/-- What making a result set leaves: nothing is changed, and if it succeeds the new set is placed
where nothing was and holds the headers. -/
theorem create_made (here : Surroundings) (parent : Path) (campaign command : String)
    (fs : FileSystem) :
    Extends fs (create here parent campaign command fs).1 ∧
      ∀ s, (create here parent campaign command fs).2 = .ok s →
        s.IsPlaced ∧ s.Holds (header · command) (create here parent campaign command fs).1 ∧
          fs.root.item? s.location = none := by
  have hparent := (FileSystem.makeDirectories_adds fs parent).extends
  -- nothing is taken back: wherever it stops, all that was there is there
  unfold create
  split
  · next made e heq =>
    rw [heq] at hparent
    exact ⟨hparent, fun s h => by cases h⟩
  next made heq =>
  rw [heq] at hparent
  split
  · exact ⟨hparent, fun s h => by cases h⟩
  next dir fresh hfresh =>
  obtain ⟨suffix, -, -, hmade⟩ := makeFresh_ok hfresh
  have hgrown := hparent.trans (FileSystem.makeDirectory_adds hmade).extends
  split
  · exact ⟨hgrown, fun s h => by cases h⟩
  next root hroot =>
  obtain ⟨hempty, hnone⟩ := fresh_of_makeFresh (startsAtRoot_fromRoot made parent) hfresh hroot
  have hsucc := makeBucket_made command (hempty.isReady .successful)
  simp only
  split
  · next files e heq =>
    rw [heq] at hsucc
    exact ⟨hgrown.trans hsucc.grown, fun s h => by cases h⟩
  next files heq =>
  rw [heq] at hsucc
  have hfail := makeBucket_made command (hsucc.isReady (hempty.isReady .failed) (by decide))
  split
  · next last e heq' =>
    rw [heq'] at hfail
    exact ⟨hgrown.trans (hsucc.grown.trans hfail.grown), fun s h => by cases h⟩
  next last heq' =>
  rw [heq'] at hfail
  refine ⟨hgrown.trans (hsucc.grown.trans hfail.grown), fun s h => ?_⟩
  cases h
  obtain ⟨hplaced, hholds⟩ := hempty.placed_holds hsucc hfail
  refine ⟨hplaced, hholds, ?_⟩
  -- what was there before is there still, so nothing was
  cases hitem : fs.root.item? (ResultSet.mk root).location with
  | none => rfl
  | some e =>
    rw [hparent.items _ _ hitem] at hnone
    cases hnone

theorem create_extends {out : Except Error ResultSet}
    (h : create here parent campaign command fs = (fs', out)) : Extends fs fs' := by
  have := (create_made here parent campaign command fs).1
  rwa [h] at this

theorem makeBucket_error {b : Bucket} {e : Error}
    (h : s.makeBucket command b fs = (fs', .error e)) : ∃ p io, e = .recorder p io := by
  unfold makeBucket at h
  split at h
  · cases h
    exact ⟨_, _, rfl⟩
  split at h
  · cases h
    exact ⟨_, _, rfl⟩
  · cases h

/-- A result set that could not be made is told by the path that could not be written. -/
theorem create_error {e : Error} (h : create here parent campaign command fs = (fs', .error e)) :
    ∃ p io, e = .recorder p io := by
  unfold create at h
  split at h
  · cases h
    exact ⟨_, _, rfl⟩
  split at h
  · cases h
    exact ⟨_, _, rfl⟩
  split at h
  · cases h
    exact ⟨_, _, rfl⟩
  simp only at h
  split at h
  · next heq =>
    cases h
    exact makeBucket_error heq
  split at h
  · next heq =>
    cases h
    exact makeBucket_error heq
  · cases h

theorem create_ok (h : create here parent campaign command fs = (fs', .ok s)) :
    s.IsPlaced ∧ s.Holds (header · command) fs' := by
  have := (create_made here parent campaign command fs).2 s
  rw [h] at this
  exact ⟨(this rfl).1, (this rfl).2.1⟩

/-- A new result set is where nothing was. -/
theorem create_new (h : create here parent campaign command fs = (fs', .ok s)) :
    fs.root.item? s.location = none := by
  have := (create_made here parent campaign command fs).2 s
  rw [h] at this
  exact (this rfl).2.2

theorem endsLine_header (b : Bucket) (command : String) :
    Text.EndsLine (header b command).toList := by
  unfold header
  exact .inr ⟨_, by rw [String.toList_append]; rfl⟩

end ResultSet

end Fleet

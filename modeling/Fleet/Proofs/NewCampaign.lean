import Fleet.CommandLine.Execution
import Fleet.Proofs.Files.Directories

namespace Fleet

/-! # What making a campaign overwrites

A campaign is made only if there is nothing of its name.  Its files then come into a directory that
is new (`NewCampaign.Fresh`), so that nothing that was there before is changed; unless the name is
astray (`NewCampaign.IsAstray`): the path of the name leads nowhere, but paths that go on behind it
lead to a directory that was there.  That takes an empty name, or one that goes up
(`NewCampaign.create_extends_or_astray`).
-/

open FileSystem (IsProper LeadsTo Within Extends AddsDirectories)

namespace FileSystem

variable {fs fs' : FileSystem} {p : Path} {loc : Location} {name : String}

/-- A file that is written under a name where there is no link stands in the directory that the path
leads to. -/
theorem LeadsTo.writeFile (h : LeadsTo fs p loc) (hname : IsProper name)
    (hnot : ∀ t, fs.root.item? (loc ++ [name]) ≠ some (.link t)) {content : ByteArray}
    (hwrite : fs.writeFile (p / name) content = .ok fs') :
    ∃ x, ∀ l, fs'.root.item? l =
      if l = loc ++ [name] then some (.file content x) else fs.root.item? l := by
  obtain ⟨dir, n, x, hr, -, -, hitems⟩ := writeFile_eq_ok hwrite
  obtain ⟨rfl, rfl⟩ : dir = loc ∧ n = name := by
    simpa using congrArg Route.spot (h.route_eq_of_noLink hname hnot hr)
  exact ⟨x, hitems⟩

end FileSystem

namespace NewCampaign

variable {fs now now' : FileSystem} {p : Path} {loc : Location} {name : String}

/-- The files of a new campaign have proper names. -/
theorem isProper_of_mem_files {file : String × String} (h : file ∈ files name) :
    IsProper file.1 := by
  have hname : file.1 ∈ (files name).map Prod.fst := List.mem_map_of_mem h
  simp only [files, List.map_cons, List.map_nil, List.mem_cons, List.not_mem_nil, or_false] at hname
  rcases hname with hname | hname | hname | hname <;> rw [hname] <;>
    exact ⟨⟨by decide, by decide⟩, by decide, by decide⟩

theorem workName_isProper : IsProper workName := ⟨⟨by decide, by decide⟩, by decide, by decide⟩

/-! ## A new directory -/

/-- The path leads to a directory that is new and has no links in it, and nothing that was there
before has changed. -/
structure Fresh (fs : FileSystem) (p : Path) (loc : Location) (now : FileSystem) : Prop where
  keeps : Extends fs now
  leads : LeadsTo now p loc
  free : fs.root.item? loc = none
  noLinks : ∀ l t, loc <+: l → now.root.item? l ≠ some (.link t)

theorem free_below (hfree : fs.root.item? loc = none) {l : Location} (hl : loc <+: l) :
    fs.root.item? l = none := by
  by_cases he : l = loc
  · rw [he, hfree]
  · exact Entries.item?_below_none (by simp [hfree]) hl he

/-- A file that is written in the new directory changes nothing else. -/
theorem Fresh.writeText (h : Fresh fs p loc now) {file text : String} (hfile : IsProper file)
    (hwrite : now.writeText (p / file) text = .ok now') : Fresh fs p loc now' := by
  have hwithin : Within now now' := FileSystem.writeFile_within hwrite
  have hbelow : loc <+: loc ++ [file] := List.prefix_append _ _
  obtain ⟨x, hitems⟩ := h.leads.writeFile hfile (fun t => h.noLinks _ t hbelow) hwrite
  refine ⟨⟨hwithin.cwd.trans h.keeps.cwd, fun l e he => ?_⟩, h.leads.within hwithin, h.free,
    fun l t hl ht => ?_⟩
  · have hne : l ≠ loc ++ [file] := by
      rintro rfl
      rw [free_below h.free hbelow] at he
      cases he
    rw [hitems, if_neg hne, h.keeps.items l e he]
  · rw [hitems] at ht
    split at ht
    · cases ht
    · exact h.noLinks l t hl ht

theorem writeAll_cons (p : Path) (file : String × String) (rest : List (String × String))
    (fs : FileSystem) :
    writeAll p (file :: rest) fs =
      match fs.writeText (p / file.1) file.2 with
      | .error e => (fs, .error (.cannotWrite (p / file.1) e))
      | .ok fs => writeAll p rest fs := (rfl)

/-- Files that are written one after the other keep whatever each of them keeps. -/
theorem writeAll_induction {P : FileSystem → Prop} {list : List (String × String)}
    (hstep : ∀ file ∈ list, ∀ now now', P now → now.writeText (p / file.1) file.2 = .ok now' →
      P now')
    (h : P now) : P (writeAll p list now).1 := by
  induction list generalizing now with
  | nil => exact h
  | cons file rest ih =>
    rw [writeAll_cons]
    split
    · exact h
    · next now' hwrite =>
      exact ih (fun f hf => hstep f (List.mem_cons_of_mem _ hf))
        (hstep file (by simp) now now' h hwrite)

/-! ## All that is done -/

/-- There is nothing of the name, but a path that goes on behind it leads to a directory that was
there: what is written behind the name may be written over something. -/
def IsAstray (name : String) (fs : FileSystem) : Prop :=
  fs.isPresent ⟨name⟩ = false ∧
    ∃ made loc, fs.makeDirectories ((⟨name⟩ : Path) / workName) = (made, .ok ()) ∧
      LeadsTo made ⟨name⟩ loc ∧ fs.root.item? loc = some .directory

/-- A name that is astray is empty or goes up. -/
theorem IsAstray.name_cases (h : IsAstray name fs) : name = "" ∨ ".." ∈ FileSystem.names name := by
  obtain ⟨habsent, made, loc, hmade, hlead, hold⟩ := h
  by_contra hcon
  simp only [not_or] at hcon
  obtain ⟨loc', hlead', hnew⟩ :=
    FileSystem.newAt_of_makeDirectories workName_isProper hcon.2 hcon.1 habsent hmade
  rw [hlead.unique hlead', hnew] at hold
  cases hold

/-- Without leave to overwrite there are three ways: nothing is done, or nothing but directories are
made, or the files are written. -/
theorem create_cases (name : String) (fs : FileSystem) :
    (create name false fs).1 = fs ∨
      (create name false fs).1 = (fs.makeDirectories ((⟨name⟩ : Path) / workName)).1 ∨
      ∃ made, fs.isPresent ⟨name⟩ = false ∧
        fs.makeDirectories ((⟨name⟩ : Path) / workName) = (made, .ok ()) ∧
        (create name false fs).1 = (writeAll ⟨name⟩ (files name) made).1 := by
  rw [create]
  cases hthere : fs.isPresent ⟨name⟩ with
  | true => exact .inl rfl
  | false =>
    refine .inr ?_
    rcases hmade : fs.makeDirectories ((⟨name⟩ : Path) / workName) with ⟨made, e | ⟨⟨⟩⟩⟩
    · exact .inl (by simp)
    · exact .inr ⟨made, rfl, rfl, by simp⟩

theorem writeAll_within (p : Path) (list : List (String × String)) (fs : FileSystem) :
    Within fs (writeAll p list fs).1 :=
  writeAll_induction (fun _ _ _ _ h hwrite => h.trans (FileSystem.writeFile_within hwrite))
    (.refl fs)

/-- The directory of working copies is there, so the path in front of it leads somewhere. -/
theorem leadsTo_of_makeDirectories (h : fs.makeDirectories (p / workName) = (now, .ok ())) :
    ∃ loc, LeadsTo now p loc := by
  have hdir := FileSystem.isDirectory_of_makeDirectories workName_isProper.segment.join_ne_empty h
  obtain ⟨r, hr, hkind⟩ := FileSystem.isDirectory_iff.1 hdir
  obtain ⟨loc, hlead, -, -⟩ := LeadsTo.of_route workName_isProper hr (by simp [hkind])
  exact ⟨loc, hlead⟩

/-- Making a campaign takes nothing away, and changes nothing that was there, unless the name is
astray. -/
theorem create_extends_or_astray (name : String) (fs : FileSystem) :
    Within fs (create name false fs).1 ∧
      (Extends fs (create name false fs).1 ∨ IsAstray name fs) := by
  have hadds := FileSystem.makeDirectories_adds fs ((⟨name⟩ : Path) / workName)
  rcases create_cases name fs with hsame | hsame | ⟨made, habsent, hmade, hsame⟩
  · rw [hsame]
    exact ⟨.refl fs, .inl (.refl fs)⟩
  · rw [hsame]
    exact ⟨hadds.extends.within, .inl hadds.extends⟩
  rw [hmade] at hadds
  rw [hsame]
  refine ⟨hadds.extends.within.trans (writeAll_within _ _ _), ?_⟩
  obtain ⟨loc, hlead⟩ := leadsTo_of_makeDirectories hmade
  rcases hadds.items loc with hold | ⟨hnone, -⟩
  · exact .inr ⟨habsent, made, loc, hmade, hlead, by rw [← hold, hlead.directory]⟩
  · have hfresh : Fresh fs ⟨name⟩ loc made := by
      refine ⟨hadds.extends, hlead, hnone, fun l t hl ht => ?_⟩
      have hold := hadds.item?_of_ne ht (by simp)
      rw [free_below hnone hl] at hold
      cases hold
    have hwritten : Fresh fs ⟨name⟩ loc (writeAll ⟨name⟩ (files name) made).1 :=
      writeAll_induction
        (fun _ hfile _ _ h hwrite => h.writeText (isProper_of_mem_files hfile) hwrite) hfresh
    exact .inl hwritten.keeps

end NewCampaign

namespace CommandLine

/-- What the order to make a campaign does to the files. -/
theorem carryOut_init (host : Host) (m : Markers) (name : String) (force : Bool)
    (fs : FileSystem) :
    (carryOut host m (.init name force) fs).files = (NewCampaign.create name force fs).1 := by
  change (init m name force fs).files = _
  rw [init]
  rcases NewCampaign.create name force fs with ⟨made, e | ⟨⟨⟩⟩⟩ <;> rfl

/-- Making a campaign without leave to overwrite, whether it succeeds or fails, takes nothing away.
It changes nothing that was there before, unless the name is astray, and then it is empty or goes
up. -/
theorem init_extends_or_astray (host : Host) (m : Markers) (name : String) (fs : FileSystem) :
    Within fs (carryOut host m (.init name false) fs).files ∧
      (Extends fs (carryOut host m (.init name false) fs).files ∨
        (NewCampaign.IsAstray name fs ∧ (name = "" ∨ ".." ∈ FileSystem.names name))) := by
  rw [carryOut_init]
  exact (NewCampaign.create_extends_or_astray name fs).imp_right
    (.imp_right fun h => ⟨h, h.name_cases⟩)

/-- A file of the current directory that does not hold afterwards what it held: the name is empty,
or leads back by way of a directory that is not there yet. -/
theorem init_overwrites (host : Host) (m : Markers) :
    let fs : FileSystem := { root := [("repos.txt", .file "org/kept\n".toUTF8 false)] }
    fs.readText ⟨"repos.txt"⟩ = .ok "org/kept\n" ∧
      ∀ name ∈ ["", "new/.."],
        (carryOut host m (.init name false) fs).files.readText ⟨"repos.txt"⟩ =
          .ok NewCampaign.emptyList := by
  intro fs
  refine ⟨by decide +kernel, fun name hname => ?_⟩
  rw [carryOut_init]
  have hread : ∀ name ∈ ["", "new/.."],
      (NewCampaign.create name false fs).1.readText ⟨"repos.txt"⟩ =
        .ok NewCampaign.emptyList := by
    decide +kernel
  exact hread name hname

end CommandLine

end Fleet

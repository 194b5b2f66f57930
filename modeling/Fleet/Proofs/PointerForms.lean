import Fleet.Proofs.Files.Parts
import Fleet.Proofs.PointerTarget

namespace Fleet

/-! # What a pointer says, and what it is followed to

A pointer says something if it is a link, or a file that holds a text (`LatestPointer.Says`).  What
it says is read as a path from where the pointer is, and if that is a directory, the pointer is
followed to it; every other end is one of two errors (`LatestPointer.resolve_answers`).

A link and a file that say the same are followed to the same (`LatestPointer.resolve_eq_of_forms`),
also if what they say leads through the pointer itself: for a path that comes back to a link can be
cut short, and one that comes to a file leads nowhere.
-/

open FileSystem (IsName IsExchanged LeadsTo names refused? startsAtRoot steps)

namespace FileSystem

variable {fs : FileSystem} {p : Path} {loc : Location}

theorem isDirectory_empty (fs : FileSystem) : fs.isDirectory ⟨""⟩ = false := rfl

/-- What is found without a link followed at the end is no link that a slash was put behind. -/
theorem linkStatus_of_leaf {node : Node} (h : fs.linkStatus p = .ok (loc, node))
    (hleaf : node.isDirectory = false) :
    ∃ r, fs.route false p = .ok r ∧ r.slash = false ∧ r.spot.location = loc ∧
      fs.root.item? loc = some node.entry := by
  obtain ⟨r, hr, rfl, hget, hslash⟩ := linkStatus_eq_ok_iff.1 h
  have hslash : r.slash = false := by
    cases hs : r.slash with
    | false => rfl
    | true => exact absurd (hslash hs) (by simp [hleaf])
  rw [endsInSlash_of_route hr hslash] at hr
  exact ⟨r, hr, hslash, rfl, Entries.item?_of_get? hget⟩

/-- From a directory, a path that ends at no directory ends with a name. -/
theorem named_of_route {r : Route} {e : Entry} (hcwd : fs.root.item? fs.cwd = some .directory)
    (hr : fs.route false p = .ok r) (hitem : fs.root.item? r.spot.location = some e)
    (hne : e ≠ .directory) : ∃ dir name, r.spot = .named dir name := by
  obtain ⟨spot, slash⟩ := r
  cases spot with
  | named dir name => exact ⟨dir, name, rfl⟩
  | inside l =>
    have hstart : fs.root.kind? (fs.start p) = some .directory := by
      rw [start, Entries.kind?_eq_directory]
      split
      · rfl
      · exact hcwd
    have hdir := (route_eq_ok_iff.1 hr).2.inside_directory hstart
    rw [Entries.kind?_eq_directory] at hdir
    exact absurd (Option.some.inj (hitem.symm.trans hdir)) hne

end FileSystem

namespace LatestPointer

variable {fs : FileSystem} {pointer : Path} {t : String} {s : ResultSet}

/-! ## What it is followed to -/

/-- A text as a path from where a pointer is, letter by letter. -/
inductive IsFrom (pointer : Path) (t : String) : Path → Prop where
  /-- it begins at the root -/
  | root (h : t.toList.head? = some '/') : IsFrom pointer t ⟨t⟩
  /-- the path of the pointer has no parent, or an empty one -/
  | alone (h : ∀ q, pointer.parent? = some q → q.text = "") : IsFrom pointer t ⟨t⟩
  /-- the parent ends in a slash -/
  | behindSlash {q : Path} (h : pointer.parent? = some q) (hslash : q.text.toList.getLast? = some '/')
      (hrel : t.toList.head? ≠ some '/') : IsFrom pointer t ⟨q.text ++ t⟩
  /-- the parent ends in anything else -/
  | behindName {q : Path} (h : pointer.parent? = some q) (hne : q.text ≠ "")
      (hname : q.text.toList.getLast? ≠ some '/') (hrel : t.toList.head? ≠ some '/') :
      IsFrom pointer t ⟨q.text ++ "/" ++ t⟩

/-- A text is a path from where a pointer is in just one way. -/
theorem isFrom_iff {target : Path} : IsFrom pointer t target ↔ target = anchored pointer t := by
  constructor
  · rintro (h | h | @⟨q, h, hslash, hrel⟩ | @⟨q, h, hne, hname, hrel⟩)
    · exact (anchored_of_startsAtRoot (by simpa [startsAtRoot] using h)).symm
    · unfold anchored
      split
      · next q hq => simp [HDiv.hDiv, Path.join, h q hq]
      · rfl
    · have hne : q.text ≠ "" := by
        rintro he
        simp [he] at hslash
      simp [anchored, h, HDiv.hDiv, Path.join, hslash, hrel, hne]
    · simp [anchored, h, HDiv.hDiv, Path.join, hname, hrel, hne]
  · rintro rfl
    by_cases hroot : t.toList.head? = some '/'
    · rw [anchored_of_startsAtRoot (by simpa [startsAtRoot] using hroot)]
      exact .root hroot
    cases hq : pointer.parent? with
    | none =>
      rw [anchored, hq]
      exact .alone (by simp [hq])
    | some q =>
      have hjoin : anchored pointer t = q / t := by rw [anchored, hq]
      by_cases hempty : q.text = ""
      · have hplain : q / t = ⟨t⟩ := by simp [HDiv.hDiv, Path.join, hempty]
        rw [hjoin, hplain]
        exact .alone (by simp [hq, hempty])
      by_cases hslash : q.text.toList.getLast? = some '/'
      · have hbehind : q / t = ⟨q.text ++ t⟩ := by
          simp [HDiv.hDiv, Path.join, hroot, hempty, hslash]
        rw [hjoin, hbehind]
        exact .behindSlash hq hslash hroot
      · have hbehind : q / t = ⟨q.text ++ "/" ++ t⟩ := by
          simp [HDiv.hDiv, Path.join, hroot, hempty, hslash]
        rw [hjoin, hbehind]
        exact .behindName hq hempty hslash hroot

theorem resolve_of_said (h : Says fs pointer t) :
    resolve fs pointer = if fs.isDirectory (anchored pointer t) then .ok ⟨anchored pointer t⟩
      else .error (.noPreviousResults pointer) := by
  simp [resolve, targetText_of_said h, bind, Except.bind]

theorem resolve_of_error {e : Error} (h : targetText fs pointer = .error e) :
    resolve fs pointer = .error e := by
  simp [resolve, h, bind, Except.bind]

/-- The parent of a path that ends with a name, with a slash behind it, is refused only if the path
is. -/
theorem not_refused_parent {q : Path} {ns : List String} {name : String}
    (hnames : names pointer.text = ns ++ [name]) (hq : pointer.parent? = some q)
    (hsteps : steps (names q.text) = steps ns) (hname : IsName name) (hne : q.text ≠ "")
    (hp : refused? pointer = none) : refused? (q / "") = none := by
  obtain ⟨hnul, -, hfits⟩ := FileSystem.refused?_eq_none_iff.1 hp
  obtain ⟨more, hmore⟩ := Path.parent?_isPrefix hq
  have htext : pointer.text = q.text ++ String.ofList more := String.toList_inj.1 (by simp [hmore])
  -- the path is longer than its parent, which has a name less, so there is room for the slash
  have hlonger : 1 ≤ (String.ofList more).utf8ByteSize := by
    rw [Nat.one_le_iff_ne_zero, ne_eq, String.utf8ByteSize_eq_zero_iff]
    intro hnil
    rw [hnil, String.append_empty] at htext
    rw [← htext, hnames, FileSystem.steps_append, FileSystem.steps_cons hname.ne_here] at hsteps
    simpa using congrArg List.length hsteps
  have hnulq : '\x00' ∉ q.text.toList := fun hmem => hnul (by simp [htext, hmem])
  rw [htext, String.utf8ByteSize_append] at hfits
  refine FileSystem.refused?_eq_none_iff.2 ?_
  rcases FileSystem.join_text (p := q) (q := "") rfl with ⟨he, -⟩ | ⟨front, hq', ht⟩ | ⟨-, ht⟩
  · exact absurd (by simpa using he) hne
  · have hsame : (q / "").text = q.text := String.toList_inj.1 (by simp [ht, hq'])
    rw [hsame]
    exact ⟨hnulq, hne, by omega⟩
  · have hslash : (q / "").text = q.text ++ "/" := String.toList_inj.1 (by simp [ht])
    have hone : "/".utf8ByteSize = 1 := by decide
    rw [hslash, String.utf8ByteSize_append]
    exact ⟨by simpa using hnulq, by simp, by omega⟩

/-- A pointer that says nothing, in a directory `dir`: it is followed to this very directory, unless
the parent of its path is empty. -/
theorem resolve_of_blank {dir : Location} {name : String} {slash : Bool} (h : Says fs pointer "")
    (hr : fs.route false pointer = .ok ⟨.named dir name, slash⟩) :
    ∃ q, pointer.parent? = some q ∧
      (q.text = "" → resolve fs pointer = .error (.noPreviousResults pointer)) ∧
      (q.text ≠ "" → resolve fs pointer = .ok ⟨q / ""⟩ ∧ fs.directory? (q / "") = some dir) := by
  obtain ⟨r, e, hr', -, hitem, -⟩ := h.route
  rw [hr] at hr'
  cases hr'
  have hdir := FileSystem.item?_directory_above hitem
  obtain ⟨hp, hwalk⟩ := FileSystem.route_eq_ok_iff.1 hr
  obtain ⟨hname, ns, hns⟩ := hwalk.last_of_named
  obtain ⟨-, q, hq, hsteps, hstart, -⟩ := Path.parent?_spec hns hname.ne_here
  have hanchored : anchored pointer "" = q / "" := by rw [anchored, hq]
  refine ⟨q, hq, fun he => ?_, fun hne => ?_⟩
  · have hempty : q / "" = ⟨""⟩ := by simp [HDiv.hDiv, Path.join, he]
    rw [resolve_of_said h, hanchored, hempty, FileSystem.isDirectory_empty]
    rfl
  · have hnames : names (q / "").text = names q.text := by
      rw [FileSystem.names_join rfl]
      exact List.append_nil _
    have hlead : LeadsTo fs (q / "") dir :=
      (LeadsTo.of_last hr hdir hns hname.ne_here hname.ne_up (hnames ▸ hsteps)
        ((FileSystem.startsAtRoot_join rfl).trans hstart)).2
    have hrefused := not_refused_parent hns hq hsteps hname hne hp
    rw [resolve_of_said h, hanchored, if_pos (hlead.isDirectory hrefused)]
    exact ⟨rfl, hlead.directory?_eq hrefused⟩

/-- What a pointer is followed to.  It is followed to a result set exactly if what it says is the path
of a directory from where the pointer is, and then to this.  There are no previous results exactly if
the pointer is not there, or what it says leads to no directory.  All else is an error of the files.

A pointer that says nothing is one that says the directory it stands in, for its text is joined to
the parent of its path; only where this parent is empty are there no previous results. -/
theorem resolve_answers (fs : FileSystem) (pointer : Path) :
    (∀ s, resolve fs pointer = .ok s ↔ ∃ t, Says fs pointer t ∧ IsFrom pointer t s.root ∧
      fs.isDirectory s.root = true) ∧
    (∀ p, resolve fs pointer = .error (.noPreviousResults p) ↔ p = pointer ∧
      (fs.linkStatus pointer = .error .noEntry ∨
        ∃ t target, Says fs pointer t ∧ IsFrom pointer t target ∧
          fs.isDirectory target = false)) ∧
    ((∃ s, resolve fs pointer = .ok s) ∨
      resolve fs pointer = .error (.noPreviousResults pointer) ∨
      ∃ e, resolve fs pointer = .error (.io e)) ∧
    ∀ dir name slash, Says fs pointer "" →
      fs.route false pointer = .ok ⟨.named dir name, slash⟩ →
      ∃ q, pointer.parent? = some q ∧
        (q.text = "" → resolve fs pointer = .error (.noPreviousResults pointer)) ∧
        (q.text ≠ "" → ∃ target, IsFrom pointer "" target ∧ resolve fs pointer = .ok ⟨target⟩ ∧
          fs.directory? target = some dir) := by
  simp only [isFrom_iff]
  refine ⟨fun s => ?_, fun p => ?_, ?_, fun dir name slash hsaid hr => ?_⟩
  · constructor
    · intro h
      obtain ⟨t, ht, -⟩ := bind_eq_ok.1 h
      have hsaid := says_of_targetText ht
      rw [resolve_of_said hsaid] at h
      split at h
      · next hdir =>
        cases h
        exact ⟨t, hsaid, rfl, hdir⟩
      · cases h
    · rintro ⟨t, hsaid, hroot, hdir⟩
      rw [resolve_of_said hsaid, ← hroot, if_pos hdir]
  · constructor
    · intro h
      rcases targetText_cases fs pointer with ⟨t, hsaid, -⟩ | ⟨hmissing, he⟩ | ⟨-, e, he⟩
      · rw [resolve_of_said hsaid] at h
        split at h
        · cases h
        · next hnot =>
          cases h
          exact ⟨rfl, .inr ⟨t, _, hsaid, rfl, by simpa using hnot⟩⟩
      · rw [resolve_of_error he] at h
        cases h
        exact ⟨rfl, .inl hmissing⟩
      · rw [resolve_of_error he] at h
        cases h
    · rintro ⟨rfl, hmissing | ⟨t, _, hsaid, rfl, hnot⟩⟩
      · exact resolve_of_error (by rw [targetText, hmissing]; rfl)
      · rw [resolve_of_said hsaid, hnot]
        rfl
  · rcases targetText_cases fs pointer with ⟨t, hsaid, -⟩ | ⟨-, he⟩ | ⟨-, e, he⟩
    · rw [resolve_of_said hsaid]
      split
      · exact .inl ⟨_, rfl⟩
      · exact .inr (.inl rfl)
    · exact .inr (.inl (resolve_of_error he))
    · exact .inr (.inr ⟨e, resolve_of_error he⟩)
  · obtain ⟨q, hq, hempty, hnamed⟩ := resolve_of_blank hsaid hr
    have hjoin : anchored pointer "" = q / "" := by rw [anchored, hq]
    exact ⟨q, hq, hempty, fun hne => ⟨q / "", hjoin.symm, hnamed hne⟩⟩

/-- A pointer with nothing but white space in it is followed to the directory it stands in. -/
theorem resolve_answers_blank :
    let fs := sampleFiles [("sub", .directory [("p", .file " \n".toUTF8 false)])]
    resolve fs ⟨"sub/p"⟩ = .ok ⟨⟨"sub/"⟩⟩ ∧ fs.directory? ⟨"sub/"⟩ = some ["sub"] := by
  intro fs
  have hroute : fs.route false ⟨"sub/p"⟩ = .ok ⟨.named ["sub"] "p", false⟩ := by decide +kernel
  have hsaid : Says fs ⟨"sub/p"⟩ "" :=
    .of_file hroute rfl rfl (ResultSet.decode?_toUTF8 " \n")
  obtain ⟨q, hq, -, hfollowed⟩ :=
    (resolve_answers fs ⟨"sub/p"⟩).2.2.2 ["sub"] "p" false hsaid hroute
  obtain rfl : q = ⟨"sub"⟩ := Option.some.inj (hq.symm.trans (by decide +kernel))
  obtain ⟨target, hfrom, hthere⟩ := hfollowed (by decide)
  obtain rfl : target = ⟨"sub/"⟩ := (isFrom_iff.1 hfrom).trans (by decide +kernel)
  exact hthere

/-! ## A link and a file that say the same -/

variable {linked plain : FileSystem} {dir loc : Location} {name w : String} {x : Bool}

/-- What a pointer says is followed from where it stands, or from the root; also in every other tree
in which no directory and no link is missing. -/
theorem walk_anchored {slash : Bool} (hr : plain.route false pointer = .ok ⟨.named dir name, slash⟩)
    (hne : t ≠ "") :
    ∃ k, ∀ root : Entries,
      (∀ l e, e ≠ .file → plain.root.kind? l = some e → root.kind? l = some e) → ∀ asked,
        FileSystem.walk root true FileSystem.maxLinks (plain.start (anchored pointer t))
            (names (anchored pointer t).text) asked =
          FileSystem.walk root true k (FileSystem.origin dir t) (names t) asked := by
  cases hroot : startsAtRoot t with
  | true =>
    refine ⟨FileSystem.maxLinks, fun root _ asked => ?_⟩
    rw [anchored_of_startsAtRoot hroot, FileSystem.origin, FileSystem.start]
    simp [hroot]
  | false =>
    obtain ⟨-, hwalk⟩ := FileSystem.route_eq_ok_iff.1 hr
    obtain ⟨hname, ns, hns⟩ := hwalk.last_of_named
    obtain ⟨-, q, hq, hsteps, hstart, -⟩ := Path.parent?_spec hns hname.ne_here
    obtain ⟨d, k, hd, honward⟩ := hwalk.walk_onward hns hname.ne_here hname.ne_up
    obtain rfl : dir = d := by simpa using congrArg Route.spot hd
    have hanchored : anchored pointer t = q / t := by rw [anchored, hq]
    have hsame : plain.start (q / t) = plain.start pointer := by
      rw [FileSystem.start, FileSystem.start, FileSystem.startsAtRoot_join hroot, hstart]
    refine ⟨k, fun root hle asked => ?_⟩
    rw [hanchored, FileSystem.names_join hroot, hsame,
      honward root hle _ _ true asked hsteps (FileSystem.names_ne_nil hne hroot), FileSystem.origin]
    simp [hroot]

/-- A target is a directory with the link exactly if it is one with the file. -/
theorem isDirectory_anchored {slash : Bool} (hcwd : linked.cwd = plain.cwd)
    (hex : IsExchanged dir name t plain.root linked.root)
    (hr : plain.route false pointer = .ok ⟨.named dir name, slash⟩) (hne : t ≠ "") :
    linked.isDirectory (anchored pointer t) = plain.isDirectory (anchored pointer t) := by
  have hstart : linked.start (anchored pointer t) = plain.start (anchored pointer t) := by
    rw [FileSystem.start, FileSystem.start, hcwd]
  obtain ⟨k, hanchored⟩ := walk_anchored hr hne
  have hlinked := hanchored linked.root fun l e => hex.kind?_of_plain
  have hplain := hanchored plain.root fun _ _ _ he => he
  rw [Bool.eq_iff_iff, FileSystem.isDirectory_iff, FileSystem.isDirectory_iff]
  constructor
  · rintro ⟨r, hroute, hkind⟩
    obtain ⟨hp, hwalk⟩ := FileSystem.route_eq_ok_iff.1 hroute
    rw [hstart, ← FileSystem.walk_eq_ok_iff, hlinked, FileSystem.walk_eq_ok_iff] at hwalk
    have hwalk := hex.along_target hwalk
    rw [← FileSystem.walk_eq_ok_iff, ← hplain, FileSystem.walk_eq_ok_iff] at hwalk
    refine ⟨r, FileSystem.route_eq_ok_iff.2 ⟨hp, hwalk⟩, ?_⟩
    rw [← hex.same, hkind]
    intro he
    simp [he, hex.link] at hkind
  · rintro ⟨r, hroute, hkind⟩
    obtain ⟨hp, hwalk⟩ := FileSystem.route_eq_ok_iff.1 hroute
    have hnot : r.spot.location ≠ dir ++ [name] := by
      intro he
      simp [he, hex.file] at hkind
    exact ⟨r, FileSystem.route_eq_ok_iff.2 ⟨hp, hstart ▸ hex.of_plain hwalk hnot⟩,
      hex.kind?_of_plain (by simp) hkind⟩

/-- The two forms of a pointer are worth the same.  In two states of the files that differ only in
what the pointer is, a link that says `t` in the one and a file that holds `t` and white space
behind it in the other, the pointer is followed to the same result set, or there are no previous
results in both. -/
theorem resolve_eq_of_forms (hcwd : linked.cwd = plain.cwd)
    (hhere : plain.root.item? plain.cwd = some .directory)
    (hsame : ∀ l, l ≠ loc → linked.root.item? l = plain.root.item? l)
    (hlink : linked.linkStatus pointer = .ok (loc, .link t))
    (hfile : plain.linkStatus pointer = .ok (loc, .file (t ++ w).toUTF8 x)) (hne : t ≠ "")
    (hend : ∀ c, t.toList.getLast? = some c → Text.isBlank c = false)
    (hblank : ∀ c ∈ w.toList, Text.isBlank c = true) :
    resolve plain pointer = resolve linked pointer ∧
      (resolve linked pointer = .ok ⟨anchored pointer t⟩ ∨
        resolve linked pointer = .error (.noPreviousResults pointer)) := by
  obtain ⟨r, hr, hslash, hloc, hitem⟩ := FileSystem.linkStatus_of_leaf hfile rfl
  obtain ⟨r', hr', hslash', hloc', hitem'⟩ := FileSystem.linkStatus_of_leaf hlink rfl
  obtain ⟨dir, name, hspot⟩ :=
    FileSystem.named_of_route hhere hr (hloc ▸ hitem) (by simp [Node.entry])
  have hat : loc = dir ++ [name] := by rw [← hloc, hspot, Spot.location]
  have hex : IsExchanged dir name t plain.root linked.root := by
    refine ⟨?_, ?_, fun l hl => ?_⟩
    · simp [← hat, Entries.kind?, hitem, Node.entry]
    · simp [← hat, Entries.kind?, hitem', Node.entry]
    · rw [Entries.kind?, hsame l (hat ▸ hl), Entries.kind?]
  -- both say the same, for the white space is cut off
  have hsaid : Says linked pointer t := .link hr' hslash' (by rw [hloc', hitem']; rfl)
  have hsaid' : Says plain pointer t :=
    .file hr hslash (by rw [hloc, hitem]; rfl) (ResultSet.decode?_toUTF8 (t ++ w)) hend hblank
  have hroute : plain.route false pointer = .ok ⟨.named dir name, r.slash⟩ := by rw [hr, ← hspot]
  rw [resolve_of_said hsaid, resolve_of_said hsaid', isDirectory_anchored hcwd hex hroute hne]
  refine ⟨rfl, ?_⟩
  split
  · exact .inl rfl
  · exact .inr rfl

/-- A relative path in a pointer that stands in another directory. -/
theorem resolve_eq_of_forms_sample :
    let linked := sampleFiles [("sub", .directory [("p", .link "../set/a")])]
    let plain := sampleFiles [("sub", .directory [("p", .file "../set/a \n".toUTF8 false)])]
    resolve linked ⟨"sub/p"⟩ = .ok ⟨⟨"sub/../set/a"⟩⟩ ∧
      resolve plain ⟨"sub/p"⟩ = resolve linked ⟨"sub/p"⟩ := by
  intro linked plain
  have hroute : linked.route false ⟨"sub/p"⟩ = .ok ⟨.named ["sub"] "p", false⟩ := by
    decide +kernel
  have hroute' : plain.route false ⟨"sub/p"⟩ = .ok ⟨.named ["sub"] "p", false⟩ := by
    decide +kernel
  have hlink : linked.linkStatus ⟨"sub/p"⟩ = .ok (["sub", "p"], .link "../set/a") :=
    FileSystem.linkStatus_eq_ok_iff.2 ⟨_, hroute, rfl, rfl, by simp⟩
  have hfile : plain.linkStatus ⟨"sub/p"⟩ =
      .ok (["sub", "p"], .file ("../set/a" ++ " \n").toUTF8 false) :=
    FileSystem.linkStatus_eq_ok_iff.2 ⟨_, hroute', rfl, rfl, by simp⟩
  have hplain : plain = linked.place (["sub"] ++ ["p"]) (.file "../set/a \n".toUTF8 false) := rfl
  have hsame : ∀ l, l ≠ ["sub", "p"] → linked.root.item? l = plain.root.item? l := by
    intro l hl
    have hnot : linked.root.item? (["sub"] ++ ["p"]) ≠ some .directory := by
      rw [show linked.root.item? (["sub"] ++ ["p"]) = some (.link "../set/a") from rfl]
      simp
    rw [hplain]
    exact ((FileSystem.item?_place _ rfl rfl hnot l).trans (if_neg hl)).symm
  have hcwd : linked.cwd = plain.cwd := rfl
  have hlast : "../set/a".toList.getLast? = some 'a' := by decide +kernel
  have hend : ∀ c, "../set/a".toList.getLast? = some c → Text.isBlank c = false := by
    intro c hc
    obtain rfl : 'a' = c := Option.some.inj (hlast.symm.trans hc)
    decide
  have hall : " \n".toList.all Text.isBlank = true := by decide +kernel
  obtain ⟨hforms, -⟩ := resolve_eq_of_forms hcwd rfl hsame hlink hfile (by decide) hend
    (List.all_eq_true.1 hall)
  exact ⟨by decide +kernel, hforms⟩

end LatestPointer

end Fleet

import Fleet.Proofs.ResultSet
import Fleet.Proofs.Run

namespace Fleet

/-! # The places of repositories

A working copy and a log are placed by the organisation and the name of their repository, and by
nothing else: `components_workDir` and `components_bucketLog` give the steps of their paths.  So
they stay below their roots, whatever is accepted as a repository (`goesDown_of_parse?`), and two
entries of a list have places of their own, unless they name the same organisation and the same
name on different hosts, and then they have every place in common (`entries_share_places`).
-/

open FileSystem (IsSegment)

namespace Path

variable {p : Path} {name : String}

theorem inner?_of_name (hne : name ≠ "") (hhere : name ≠ ".") (hup : name ≠ "..") :
    inner? name.toList = some (.name name) := by
  have hidle : isIdle name.toList = false := by
    have h₁ : name.toList ≠ [] := fun h => hne (String.toList_eq_nil_iff.1 h)
    have h₂ : name.toList ≠ ['.'] := fun h => hhere (String.toList_inj.1 (h.trans rfl))
    simp [isIdle, h₁, h₂]
  have hdots : (name.toList == ['.', '.']) = false := by
    simpa using fun h => hup (String.toList_inj.1 (h.trans rfl))
  simp [inner?, hidle, hdots]

/-- One segment more leaves the lead as it is, whether or not a slash was there to put it behind. -/
theorem leadAndBody_of_segments {p q : Path} {front : List (List Char)} {last : List Char}
    (hfront : front ≠ []) (hq : q.segments = front ++ [last])
    (hp : p.segments = front ++ [[]] ∨ (p.segments = front ∧ front ≠ [[]])) :
    ∃ lead body, q.leadAndBody = (lead, body ++ [last]) ∧
      (p.leadAndBody = (lead, body) ∨ p.leadAndBody = (lead, body ++ [[]])) := by
  obtain ⟨first, rest, rfl⟩ := List.exists_cons_of_ne_nil hfront
  by_cases hroot : first = []
  · refine ⟨.root, rest, ?_, ?_⟩
    · cases rest <;> simp [leadAndBody, hq, hroot]
    · rcases hp with hp | ⟨hp, hne⟩
      · cases rest <;> simp [leadAndBody, hp, hroot]
      · cases rest with
        | nil => exact absurd (by rw [hroot]) hne
        | cons second rest => simp [leadAndBody, hp, hroot]
  · by_cases hdot : first = ['.']
    · refine ⟨.here, rest, by simp [leadAndBody, hq, hdot], ?_⟩
      rcases hp with hp | ⟨hp, -⟩ <;> simp [leadAndBody, hp, hdot]
    · refine ⟨.plain, first :: rest, by simp [leadAndBody, hq, hroot, hdot], ?_⟩
      rcases hp with hp | ⟨hp, -⟩ <;> simp [leadAndBody, hp, hroot, hdot]

theorem components_of_segments {p q : Path} {front : List (List Char)} (hname : IsSegment name)
    (hhere : name ≠ ".") (hup : name ≠ "..") (hfront : front ≠ [])
    (hq : q.segments = front ++ [name.toList])
    (hp : p.segments = front ++ [[]] ∨ (p.segments = front ∧ front ≠ [[]])) :
    q.components = p.components ++ [.name name] := by
  have hstep : inner? name.toList = some (.name name) := inner?_of_name hname.ne_empty hhere hup
  have hidle : inner? [] = none := rfl
  obtain ⟨lead, body, hq, hp⟩ := leadAndBody_of_segments hfront hq hp
  rcases hp with hp | hp <;> cases lead <;>
    simp [components, hp, hq, List.filterMap_append, hstep, hidle]

/-- A name that is joined to a path is its last step, and the steps in front are those of the
path. -/
theorem components_join (hname : IsSegment name) (hhere : name ≠ ".") (hup : name ≠ "..") :
    (p / name).components = p.components ++ [.name name] := by
  have hone := Text.splitOn_of_notMem hname.no_slash
  rcases FileSystem.join_text (p := p) hname.head_ne with ⟨he, ht⟩ | ⟨front, hp, ht⟩ | ⟨he, ht⟩
  · -- the empty path has no steps
    have hp : p.text = "" := by simpa using he
    have hpath : p / name = ⟨name⟩ := congrArg Path.mk ht
    rw [hpath]
    have hne : name.toList ≠ [] := fun h => hname.ne_empty (String.toList_eq_nil_iff.1 h)
    have hdot : name.toList ≠ ['.'] := fun h => hhere (String.toList_inj.1 (h.trans rfl))
    have hidle : inner? [] = none := rfl
    simp [components, leadAndBody, segments, hp, hone, hne, hdot, hidle,
      inner?_of_name hname.ne_empty hhere hup]
  · refine components_of_segments hname hhere hup (Text.splitOn_ne_nil '/' front) ?_ (.inl ?_)
    · rw [segments, ht, Text.splitOn_append_cons, hone]
    · rw [segments, hp, Text.splitOn_append_cons]
      rfl
  · have hne : p.text.toList ≠ [] := by simpa using he
    refine components_of_segments hname hhere hup (Text.splitOn_ne_nil '/' p.text.toList) ?_
      (.inr ⟨rfl, fun h => hne ?_⟩)
    · rw [segments, ht, Text.splitOn_append_cons, hone]
    · have := Text.joinWith_splitOn '/' p.text.toList
      rw [h] at this
      exact this.symm

theorem sameSteps_iff {p q : Path} : p.sameSteps q = true ↔ p.components = q.components := by
  simp [sameSteps]

/-- A path that goes on from a root by names alone: it takes the steps of the root and then the
names, so it starts where the root starts, goes up only where the root does, and is neither the
root nor above it. -/
structure GoesDown (p root : Path) (names : List String) : Prop where
  components : p.components = root.components ++ names.map .name
  absolute : p.isAbsolute = root.isAbsolute
  up : ∀ k : Nat, p.components[k]? = some .up → root.components[k]? = some .up
  below : ¬ p.components <+: root.components

theorem GoesDown.of_components {root : Path} {names : List String} (hne : names ≠ [])
    (hcomponents : p.components = root.components ++ names.map .name)
    (habsolute : p.isAbsolute = root.isAbsolute) : p.GoesDown root names := by
  refine ⟨hcomponents, habsolute, ?_, ?_⟩
  · intro k hk
    rw [hcomponents, List.getElem?_append] at hk
    split at hk
    · exact hk
    · -- behind the root there are only names
      rw [List.getElem?_map, Option.map_eq_some_iff] at hk
      obtain ⟨name, -, hup⟩ := hk
      cases hup
  · intro hprefix
    have hlength := hprefix.length_le
    rw [hcomponents, List.length_append, List.length_map] at hlength
    have hpos : 0 < names.length := List.length_pos_iff.2 hne
    omega

theorem isAbsolute_join (hname : IsSegment name) : (p / name).isAbsolute = p.isAbsolute :=
  FileSystem.startsAtRoot_join hname.head_ne

end Path

namespace Repository

variable {r r' : Repository}

/-- The steps to a working copy are those to the root of all, the organisation and the name. -/
theorem components_workDir {entry : List Char} (h : parse? entry = some r) (root : Path) :
    (r.workDir root).components = root.components ++ [.name r.org, .name r.name] := by
  obtain ⟨horg, horg₁, horg₂⟩ := org_isSegment_of_parse? h
  obtain ⟨hname, hname₁, hname₂⟩ := name_isSegment_of_parse? h
  rw [workDir, Path.components_join hname hname₁ hname₂, Path.components_join horg horg₁ horg₂,
    List.append_assoc, List.singleton_append]

/-- The steps to a log are those to the result set, the bucket, the organisation, the name and the
name of all logs. -/
theorem components_bucketLog {entry : List Char} (h : parse? entry = some r) (s : ResultSet)
    (b : Bucket) : (s.bucketLog b r).components =
      s.root.components ++ [.name b.name, .name r.org, .name r.name, .name ResultSet.logFile] := by
  obtain ⟨hbucket₁, hbucket₂⟩ := ResultSet.bucket_ne_dots b
  rw [ResultSet.bucketLog, Path.components_join ResultSet.logFile_isSegment (by decide) (by decide),
    components_workDir h, ResultSet.bucketDir,
    Path.components_join (ResultSet.bucket_isSegment b) hbucket₁ hbucket₂]
  simp

theorem goesDown_workDir {entry : List Char} (h : parse? entry = some r) (root : Path) :
    (r.workDir root).GoesDown root [r.org, r.name] := by
  refine .of_components (by simp) (components_workDir h root) ?_
  rw [workDir, Path.isAbsolute_join (name_isSegment_of_parse? h).1,
    Path.isAbsolute_join (org_isSegment_of_parse? h).1]

theorem goesDown_bucketLog {entry : List Char} (h : parse? entry = some r) (s : ResultSet)
    (b : Bucket) :
    (s.bucketLog b r).GoesDown s.root [b.name, r.org, r.name, ResultSet.logFile] := by
  refine .of_components (by simp) (components_bucketLog h s b) ?_
  rw [ResultSet.bucketLog, Path.isAbsolute_join ResultSet.logFile_isSegment,
    (goesDown_workDir h _).absolute, ResultSet.bucketDir,
    Path.isAbsolute_join (ResultSet.bucket_isSegment b)]

/-- The same organisation and the same name, whatever the hosts. -/
def SharesPlace (r r' : Repository) : Prop := r.org = r'.org ∧ r.name = r'.name

instance : Decidable (r.SharesPlace r') := inferInstanceAs (Decidable (_ ∧ _))

theorem sameSteps_workDir_iff (h : r.IsEntry) (h' : r'.IsEntry) (root : Path) :
    (r.workDir root).sameSteps (r'.workDir root) = true ↔ r.SharesPlace r' := by
  rw [Path.sameSteps_iff, components_workDir h.parses, components_workDir h'.parses]
  simp [SharesPlace]

theorem sameSteps_bucketLog_iff (h : r.IsEntry) (h' : r'.IsEntry) (s : ResultSet) (b : Bucket) :
    (s.bucketLog b r).sameSteps (s.bucketLog b r') = true ↔ r.SharesPlace r' := by
  rw [Path.sameSteps_iff, components_bucketLog h.parses, components_bucketLog h'.parses]
  simp [SharesPlace]

theorem SharesPlace.host_ne (h : r.SharesPlace r') (hne : r ≠ r') : r.host ≠ r'.host := by
  obtain ⟨host, org, name⟩ := r
  obtain ⟨host', org', name'⟩ := r'
  obtain ⟨rfl, rfl⟩ := h
  rintro rfl
  exact hne rfl

theorem logPath?_bucket (s : ResultSet) (b : Bucket) (q : Repository) :
    s.logPath? b.outcome q = some (s.bucketLog b q) := by
  cases b <;> rfl

/-- Whatever is accepted as a repository, and whatever shape the roots have: the working copy is the
organisation and the name below the root of all working copies, and the log of either bucket is the
bucket, the organisation, the name and `logs.txt` below the result set. -/
theorem goesDown_of_parse? {entry : List Char} (h : parse? entry = some r) (root : Path)
    (s : ResultSet) :
    (r.workDir root).GoesDown root [r.org, r.name] ∧
      ∀ b : Bucket, ∃ p, s.logPath? b.outcome r = some p ∧
        p.GoesDown s.root [b.name, r.org, r.name, "logs.txt"] :=
  ⟨goesDown_workDir h root, fun b => ⟨_, logPath?_bucket s b r, goesDown_bucketLog h s b⟩⟩

/-- Parts that look like a way up are names like any other, also below the empty root. -/
theorem goesDown_of_parse?_sample :
    let r : Repository := ⟨none, "...", "..a"⟩
    parse? ".../..a".toList = some r ∧ (r.workDir ⟨""⟩).GoesDown ⟨""⟩ ["...", "..a"] ∧
      ∀ b : Bucket, ∃ p, (ResultSet.mk ⟨"../set/"⟩).logPath? b.outcome r = some p ∧
        p.GoesDown ⟨"../set/"⟩ [b.name, "...", "..a", "logs.txt"] := by
  intro r
  have hparse : parse? ".../..a".toList = some r := by decide +kernel
  exact ⟨hparse, goesDown_of_parse? hparse ⟨""⟩ ⟨⟨"../set/"⟩⟩⟩

end Repository

/-- Two entries of a list have working copies and logs of their own, by the steps of their paths,
unless they name the same organisation and the same name; then their hosts differ, and they have
the same working copy and in each bucket the same log. -/
theorem RepositoryList.entries_share_places {text : String} {repos : List Repository}
    (h : parse text = .ok repos) {r r' : Repository} (hr : r ∈ repos) (hr' : r' ∈ repos)
    (hne : r ≠ r') (root : Path) (s : ResultSet) :
    (¬ r.SharesPlace r' →
      (r.workDir root).sameSteps (r'.workDir root) = false ∧
        ∀ b : Bucket, ∃ p p', s.logPath? b.outcome r = some p ∧ s.logPath? b.outcome r' = some p' ∧
          p.sameSteps p' = false) ∧
      (r.SharesPlace r' →
        r.host ≠ r'.host ∧ r.workDir root = r'.workDir root ∧
          ∀ b : Bucket, s.logPath? b.outcome r = s.logPath? b.outcome r') := by
  have hentry := isEntry_of_parse h r hr
  have hentry' := isEntry_of_parse h r' hr'
  have hlog := Repository.logPath?_bucket s
  constructor
  · intro hapart
    refine ⟨?_, fun b => ⟨_, _, hlog b r, hlog b r', ?_⟩⟩
    · rw [Bool.eq_false_iff]
      exact fun hsame => hapart ((Repository.sameSteps_workDir_iff hentry hentry' root).1 hsame)
    · rw [Bool.eq_false_iff]
      exact fun hsame => hapart ((Repository.sameSteps_bucketLog_iff hentry hentry' s b).1 hsame)
  · intro hshared
    have hdir : ∀ base : Path, r.workDir base = r'.workDir base := by
      intro base
      rw [Repository.workDir, Repository.workDir, hshared.1, hshared.2]
    refine ⟨hshared.host_ne hne, hdir root, fun b => ?_⟩
    rw [hlog, hlog, ResultSet.bucketLog, ResultSet.bucketLog, hdir]

/-- Of three entries the first two have places of their own. -/
theorem RepositoryList.entries_share_places_sample :
    let a : Repository := ⟨none, "org", "a"⟩
    let b : Repository := ⟨some "host", "org", "b"⟩
    parse "org/a\nhost/org/b\nhost/org/a\n" = .ok [a, b, ⟨some "host", "org", "a"⟩] ∧
      (a.workDir ⟨"work"⟩).sameSteps (b.workDir ⟨"work"⟩) = false := by
  intro a b
  have hparse : parse "org/a\nhost/org/b\nhost/org/a\n" =
      .ok [a, b, ⟨some "host", "org", "a"⟩] := by
    decide +kernel
  have ha : a ∈ [a, b, ⟨some "host", "org", "a"⟩] := by simp
  have hb : b ∈ [a, b, ⟨some "host", "org", "a"⟩] := by simp
  have hapart : ¬ a.SharesPlace b := fun h => absurd h.2 (by decide)
  have hplaces := entries_share_places hparse ha hb (by decide) ⟨"work"⟩ ⟨⟨"set"⟩⟩
  exact ⟨hparse, (hplaces.1 hapart).1⟩

/-- Two different entries of a list that have the same working copy and the same logs. -/
theorem RepositoryList.two_hosts_one_place :
    let here : Repository := ⟨none, "org", "a"⟩
    let there : Repository := ⟨some "host", "org", "a"⟩
    parse "org/a\nhost/org/a\n" = .ok [here, there] ∧ here ≠ there ∧
      here.workDir ⟨"work"⟩ = there.workDir ⟨"work"⟩ ∧
      ∀ b : Bucket, (ResultSet.mk ⟨"set"⟩).logPath? b.outcome here =
        (ResultSet.mk ⟨"set"⟩).logPath? b.outcome there := by
  refine ⟨by decide +kernel, by decide, rfl, fun b => ?_⟩
  cases b <;> rfl

end Fleet

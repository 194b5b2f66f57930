import Fleet.Proofs.Files.Walk
import Fleet.Proofs.Text.Lines

namespace Fleet

/-! # The names in a path

Joining two paths puts their names one behind the other (`names_join`), and the path of a location
has the names of the location (`names_pathOf`).
-/

namespace FileSystem

variable {p : Path} {q : String}

/-- The names of a text given by its characters. -/
theorem names_ofList (cs : List Char) : names (String.ofList cs) =
    ((Text.splitOn '/' cs).filter fun segment => !segment.isEmpty).map String.ofList := by
  simp [names]

theorem names_ofList_append_slash (a b : List Char) :
    names (String.ofList (a ++ '/' :: b)) = names (String.ofList a) ++ names (String.ofList b) := by
  rw [names_ofList, names_ofList, names_ofList, Text.splitOn_append_cons, List.filter_append,
    List.map_append]

/-- A text that does not begin at the root has a name. -/
theorem names_ne_nil {t : String} (hne : t ≠ "") (hrel : startsAtRoot t = false) :
    names t ≠ [] := by
  cases ht : t.toList with
  | nil => exact absurd (String.toList_eq_nil_iff.1 ht) hne
  | cons c cs =>
    have hc : (c == '/') = false := by simpa [startsAtRoot, ht] using hrel
    have hpieces := Text.splitOn_ne_nil '/' cs
    cases hcs : Text.splitOn '/' cs with
    | nil => exact absurd hcs hpieces
    | cons piece pieces => simp [names, ht, hcs, Text.cutBefore, hc]

theorem ne_empty_of_startsAtRoot {t : String} (h : startsAtRoot t = true) : t ≠ "" := by
  rintro rfl
  simp [startsAtRoot] at h

/-- A segment is a name by itself. -/
theorem IsSegment.names_eq (h : IsSegment q) : names q = [q] := by
  have hne : q.toList ≠ [] := fun hnil => h.ne_empty (String.toList_eq_nil_iff.1 hnil)
  simp [names, Text.splitOn_of_notMem h.no_slash, hne]

theorem IsSegment.head_ne (h : IsSegment q) : (q.toList.head? == some '/') = false := by
  cases hq : q.toList with
  | nil => rfl
  | cons c cs =>
    have hc : c ≠ '/' := by
      rintro rfl
      exact h.no_slash (by simp [hq])
    simpa using hc

theorem IsSegment.getLast_ne (h : IsSegment q) : (q.toList.getLast? == some '/') = false := by
  cases hq : q.toList.getLast? with
  | none => rfl
  | some c =>
    have hc : c ≠ '/' := by
      rintro rfl
      exact h.no_slash (List.mem_of_getLast? hq)
    simpa using hc

/-- What joining a segment to a path puts between the two: nothing or a slash. -/
theorem join_text (hq : (q.toList.head? == some '/') = false) :
    (p.text.isEmpty = true ∧ (p / q).text = q) ∨
      (∃ front, p.text.toList = front ++ ['/'] ∧ (p / q).text.toList = front ++ '/' :: q.toList) ∨
      (p.text.isEmpty = false ∧ (p / q).text.toList = p.text.toList ++ '/' :: q.toList) := by
  simp only [HDiv.hDiv, Path.join, hq, Bool.false_eq_true, if_false]
  cases he : p.text.isEmpty with
  | true => exact .inl ⟨rfl, by simp⟩
  | false =>
    refine .inr ?_
    rw [if_neg (by simp)]
    split
    · next hl =>
      have hl : p.text.toList.getLast? = some '/' := by simpa using hl
      obtain ⟨front, hfront⟩ := List.getLast?_eq_some_iff.1 hl
      exact .inl ⟨front, hfront, by simp [hfront]⟩
    · exact .inr ⟨rfl, by simp⟩

theorem join_isSuffix (hq : (q.toList.head? == some '/') = false) :
    q.toList <:+ (p / q).text.toList := by
  rcases join_text (p := p) hq with ⟨-, ht⟩ | ⟨front, -, ht⟩ | ⟨-, ht⟩
  · exact ⟨[], by rw [ht, List.nil_append]⟩
  · exact ⟨front ++ ['/'], by simp [ht]⟩
  · exact ⟨p.text.toList ++ ['/'], by simp [ht]⟩

/-- The names of a joined path are those of the one and then those of the other. -/
theorem names_join (hq : (q.toList.head? == some '/') = false) :
    names (p / q).text = names p.text ++ names q := by
  rcases join_text hq with ⟨he, ht⟩ | ⟨front, hp, ht⟩ | ⟨he, ht⟩
  · have hp : p.text = "" := by simpa using he
    rw [ht, hp]
    rfl
  · -- the path ends with a slash, behind which it has no more names
    have h1 := names_ofList_append_slash front q.toList
    have h2 := names_ofList_append_slash front []
    rw [← ht, String.ofList_toList, String.ofList_toList] at h1
    rw [← hp, String.ofList_toList] at h2
    have h3 : names (String.ofList []) = [] := rfl
    rw [h1, h2, h3, List.append_nil]
  · have h1 := names_ofList_append_slash p.text.toList q.toList
    rwa [← ht, String.ofList_toList, String.ofList_toList, String.ofList_toList] at h1

theorem IsSegment.names_join (h : IsSegment q) : names (p / q).text = names p.text ++ [q] := by
  rw [FileSystem.names_join h.head_ne, h.names_eq]

theorem IsSegment.join_ne_empty (h : IsSegment q) : (p / q).text ≠ "" := by
  intro he
  have := h.names_join (p := p)
  rw [he] at this
  simpa [names] using congrArg List.length this

/-- A joined path is longer than the one. -/
theorem IsSegment.length_lt_join (h : IsSegment q) : p.text.length < (p / q).text.length := by
  have hq : 0 < q.toList.length := List.length_pos_iff.2 fun hnil =>
    h.ne_empty (String.toList_eq_nil_iff.1 hnil)
  rw [← String.length_toList, ← String.length_toList]
  rcases join_text (p := p) h.head_ne with ⟨he, ht⟩ | ⟨front, hp, ht⟩ | ⟨-, ht⟩
  · have hp : p.text = "" := by simpa using he
    simpa [ht, hp] using hq
  · simp only [hp, ht, List.length_append, List.length_cons, List.length_nil]
    omega
  · simp only [ht, List.length_append, List.length_cons]
    omega

/-- A joined path starts where the one does. -/
theorem startsAtRoot_join (hq : (q.toList.head? == some '/') = false) :
    startsAtRoot (p / q).text = startsAtRoot p.text := by
  rcases join_text (p := p) hq with ⟨he, ht⟩ | ⟨front, hp, ht⟩ | ⟨he, ht⟩
  · have hp : p.text = "" := by simpa using he
    rw [startsAtRoot, ht, hq, hp]
    rfl
  · cases front <;> simp [startsAtRoot, hp, ht]
  · have hp : p.text.toList ≠ [] := by simpa using he
    rw [startsAtRoot, startsAtRoot, ht]
    cases hl : p.text.toList with
    | nil => exact absurd hl hp
    | cons c cs => rfl

theorem IsSegment.startsAtRoot_join (h : IsSegment q) (hp : startsAtRoot p.text = true) :
    startsAtRoot (p / q).text = true :=
  (FileSystem.startsAtRoot_join h.head_ne).trans hp

theorem IsSegment.endsInSlash_join (h : IsSegment q) : endsInSlash (p / q).text = false := by
  have hne : q.toList ≠ [] := fun hnil => h.ne_empty (String.toList_eq_nil_iff.1 hnil)
  have hlast := h.getLast_ne
  rcases join_text (p := p) h.head_ne with ⟨-, ht⟩ | ⟨front, -, ht⟩ | ⟨-, ht⟩
  · rw [endsInSlash, ht, hlast]
  all_goals
    rw [endsInSlash, ht, List.getLast?_append, List.getLast?_cons]
    cases hq : q.toList.getLast? with
    | none => exact absurd (List.getLast?_eq_none_iff.1 hq) hne
    | some c => simpa [hq] using hlast

/-- What a path must be like that is followed. -/
theorem refused?_eq_none_iff : refused? p = none ↔
    '\x00' ∉ p.text.toList ∧ p.text ≠ "" ∧ p.text.utf8ByteSize ≤ maxPath := by
  simp only [refused?, List.contains_eq_mem, decide_eq_true_eq, String.isEmpty_iff]
  split
  · next hnul => simp [hnul]
  · next hnul =>
    split
    · next hempty => simp [hempty]
    · next hempty =>
      split
      · next hlong => simp [Nat.not_le.2 hlong]
      · next hfits => simp [hnul, hempty, Nat.not_lt.1 hfits]

/-- What is wrong with a path is wrong with every path that begins with it. -/
theorem not_refused_of_prefix {p p' : Path} (hpre : p.text.toList <+: p'.text.toList)
    (hp : p.text ≠ "") (hr : refused? p' = none) : refused? p = none := by
  obtain ⟨more, hmore⟩ := hpre
  have hmore : p'.text = p.text ++ String.ofList more := String.toList_inj.1 (by simp [hmore])
  obtain ⟨hnul, -, hfits⟩ := refused?_eq_none_iff.1 hr
  rw [hmore, String.utf8ByteSize_append] at hfits
  refine refused?_eq_none_iff.2 ⟨fun hmem => hnul ?_, hp, by omega⟩
  simp [hmore, hmem]

/-- A path that is not refused when something is joined to it is not refused by itself. -/
theorem IsSegment.not_refused (h : IsSegment q) (hp : p.text ≠ "")
    (hr : refused? (p / q) = none) : refused? p = none := by
  refine not_refused_of_prefix ?_ hp hr
  rcases join_text (p := p) h.head_ne with ⟨he, -⟩ | ⟨front, hp', ht⟩ | ⟨-, ht⟩
  · exact absurd (by simpa using he) hp
  · exact ⟨q.toList, by simp [hp', ht]⟩
  · exact ⟨'/' :: q.toList, ht.symm⟩

/-! ## Paths of locations -/

theorem toList_pathOf (loc : Location) :
    (pathOf loc).text.toList = '/' :: Text.joinWith '/' (loc.map String.toList) := by
  rw [pathOf, String.toList_append, Text.toList_intercalate '/' rfl]
  rfl

theorem startsAtRoot_pathOf (loc : Location) : startsAtRoot (pathOf loc).text = true := by
  simp [startsAtRoot, toList_pathOf]

/-- The names in the path of a location are those of the location. -/
theorem names_pathOf {loc : Location} (h : ∀ m ∈ loc, IsSegment m) :
    names (pathOf loc).text = loc := by
  cases loc with
  | nil => rfl
  | cons n rest =>
    have hslash : ∀ piece ∈ (n :: rest).map String.toList, '/' ∉ piece := by
      intro piece hpiece
      obtain ⟨m, hm, rfl⟩ := List.mem_map.1 hpiece
      exact (h m hm).no_slash
    have hne : ∀ piece ∈ (n :: rest).map String.toList, (!piece.isEmpty) = true := by
      intro piece hpiece
      obtain ⟨m, hm, rfl⟩ := List.mem_map.1 hpiece
      have : m.toList ≠ [] := fun hnil => (h m hm).ne_empty (String.toList_eq_nil_iff.1 hnil)
      simpa using this
    have hsplit :=
      Text.splitOn_append_cons '/' [] (Text.joinWith '/' ((n :: rest).map String.toList))
    rw [List.nil_append] at hsplit
    rw [names, toList_pathOf, hsplit, Text.splitOn_joinWith (by simp) hslash, List.filter_append,
      List.filter_eq_self.2 hne]
    simp

end FileSystem

end Fleet

import Fleet.Proofs.Files.Front

namespace Fleet.FileSystem

/-! # The parts of a walk

A walk along more names begins with a walk along the first of them (`Walk.begins`), and goes on from
the directory in front of a name as every other walk through that directory does
(`Walk.walk_onward`).  More links than it needs make no difference to it (`Walk.links_le`), nor does
a `.` on the way (`walk_congr_steps`).  It goes wrong where nothing is, or a file, and more names
come behind (`walk_missing`, `walk_file`).

The last part is about two trees that differ in one place, where there is a file in the one and a
link in the other: what the link leads to is found in both or in neither
(`IsExchanged.along_target`).
-/

variable {root root' : Entries} {followLast : Bool} {n m : Nat} {loc : Location} {slash : Bool}
  {r : Route} {ns ms : List String} {x : String}

/-- A walk that may follow more links ends where it ended. -/
theorem Walk.links_le (h : Walk root followLast n loc ns slash r) (hle : n ≤ m) :
    Walk root followLast m loc ns slash r := by
  induction h generalizing m with
  | done => exact .done
  | here _ ih => exact .here (ih hle)
  | up _ ih => exact .up (ih hle)
  | stop hname hlast => exact .stop hname hlast
  | enter hname hdir hne _ ih => exact .enter hname hdir hne (ih hle)
  | follow hname hlink htarget hgo _ ih =>
    obtain ⟨k, rfl⟩ := Nat.exists_eq_add_one.2 (Nat.lt_of_lt_of_le (Nat.succ_pos _) hle)
    exact .follow hname hlink htarget hgo (ih (Nat.le_of_succ_le_succ hle))

/-- Two walks along the same names end in the same way. -/
theorem Walk.unique {r' : Route} (h : Walk root followLast n loc ns slash r)
    (h' : Walk root followLast n loc ns slash r') : r = r' :=
  Except.ok.inj (h.walk_eq.symm.trans h'.walk_eq)

/-- The first of the names that a walk goes along lead somewhere. -/
theorem Walk.begins {names₀ : List String} (h : Walk root true n loc names₀ slash r)
    (hnames : names₀ = ns ++ ms) (asked : Bool) : ∃ r', Walk root true n loc ns asked r' := by
  induction h generalizing ns asked with
  | done =>
    obtain ⟨rfl, -⟩ := List.append_eq_nil_iff.1 hnames.symm
    exact ⟨_, .done⟩
  | here _ ih =>
    cases ns with
    | nil => exact ⟨_, .done⟩
    | cons y ns =>
      obtain ⟨rfl, hrest⟩ := List.cons.inj hnames
      exact (ih hrest asked).imp fun _ => .here
  | up _ ih =>
    cases ns with
    | nil => exact ⟨_, .done⟩
    | cons y ns =>
      obtain ⟨rfl, hrest⟩ := List.cons.inj hnames
      exact (ih hrest asked).imp fun _ => .up
  | stop hname hlast =>
    cases ns with
    | nil => exact ⟨_, .done⟩
    | cons y ns =>
      obtain ⟨rfl, hrest⟩ := List.cons.inj hnames
      obtain ⟨rfl, -⟩ := List.append_eq_nil_iff.1 hrest.symm
      exact ⟨_, .stop hname hlast⟩
  | enter hname hdir _ _ ih =>
    cases ns with
    | nil => exact ⟨_, .done⟩
    | cons y ns =>
      obtain ⟨rfl, hrest⟩ := List.cons.inj hnames
      by_cases hns : ns = []
      · subst hns
        exact ⟨_, .stop hname fun _ t => by simp [hdir]⟩
      · exact (ih hrest asked).imp fun _ => .enter hname hdir hns
  | @follow n loc name rest slash r target hname hlink htarget _ _ ih =>
    cases ns with
    | nil => exact ⟨_, .done⟩
    | cons y ns =>
      obtain ⟨rfl, hrest⟩ := List.cons.inj hnames
      have hall : names target ++ rest = (names target ++ ns) ++ ms := by
        rw [hrest, List.append_eq, List.append_assoc]
      exact (ih hall (asked || (ns.isEmpty && endsInSlash target))).imp fun _ =>
        .follow hname hlink htarget (.inr rfl)

/-! ## Through a directory -/

/-- Every `.` in front of a name is passed over, whatever comes of the walk. -/
theorem walk_skip {tail : List String} (hms : steps ms = x :: tail) :
    ∃ ms', steps ms' = tail ∧ ∀ root followLast n loc rest slash,
      walk root followLast n loc (ms ++ rest) slash =
        walk root followLast n loc (x :: (ms' ++ rest)) slash := by
  induction ms with
  | nil => simp at hms
  | cons y ms ih =>
    by_cases hy : y = "."
    · subst hy
      obtain ⟨ms', hms', hwalk⟩ := ih (by simpa using hms)
      refine ⟨ms', hms', fun root followLast n loc rest slash => ?_⟩
      rw [← hwalk, walk_eq_walkNames, walk_eq_walkNames]
      simp [walkNames]
    · rw [steps_cons hy] at hms
      obtain ⟨rfl, htail⟩ := List.cons.inj hms
      exact ⟨ms, htail, fun _ _ _ _ _ _ => rfl⟩

/-- Nothing but `.` leads nowhere. -/
theorem walk_skip_all (hms : steps ms = []) (root : Entries) (followLast : Bool) (n : Nat)
    (loc : Location) (rest : List String) (slash : Bool) :
    walk root followLast n loc (ms ++ rest) slash = walk root followLast n loc rest slash := by
  induction ms with
  | nil => rfl
  | cons y ms ih =>
    by_cases hy : y = "."
    · subst hy
      rw [← ih (by simpa using hms), walk_eq_walkNames, walk_eq_walkNames]
      simp [walkNames]
    · rw [steps_cons hy] at hms
      cases hms

/-- Every `.` in front of the last name is passed over, if it is so behind a link. -/
theorem walk_congr_of_onward {y : String}
    (hjump : ∀ ms ms', steps ms = steps ms' → ∀ loc asked,
      onward root followLast n loc (ms ++ [y]) asked =
        onward root followLast n loc (ms' ++ [y]) asked)
    (hsteps : steps ns = steps ms) (loc : Location) (asked : Bool) :
    walk root followLast n loc (ns ++ [y]) asked =
      walk root followLast n loc (ms ++ [y]) asked := by
  -- induction on the names that are heeded
  induction hns : steps ns generalizing ns ms loc with
  | nil =>
    rw [walk_skip_all hns, walk_skip_all (hsteps.symm.trans hns)]
  | cons x tail ih =>
    obtain ⟨ns', hns', hwalk⟩ := walk_skip hns
    obtain ⟨ms', hms', hwalk'⟩ := walk_skip (hsteps.symm.trans hns)
    have htail : steps ns' = steps ms' := hns'.trans hms'.symm
    have hrest : ∀ l, walkNames root (onward root followLast n) followLast asked l (ns' ++ [y]) =
        walkNames root (onward root followLast n) followLast asked l (ms' ++ [y]) := by
      intro l
      rw [← walk_eq_walkNames, ← walk_eq_walkNames]
      exact ih htail l hns'
    have hne : (ns' ++ [y]).isEmpty = (ms' ++ [y]).isEmpty := by cases ns' <;> cases ms' <;> rfl
    rw [hwalk, hwalk', walk_eq_walkNames, walk_eq_walkNames]
    rcases name_cases x with rfl | rfl | ⟨h1, h2, h3⟩ | hname
    · simp [walkNames, hrest]
    · simp [walkNames, hrest]
    · simp [walkNames, h1, h2, h3]
    · have hgo : ∀ (target : String) (l : Location) (a : Bool),
          onward root followLast n l (names target ++ (ns' ++ [y])) a =
            onward root followLast n l (names target ++ (ms' ++ [y])) a := by
        intro target l a
        rw [← List.append_assoc, ← List.append_assoc]
        exact hjump _ _ (by rw [steps_append, steps_append, htail]) l a
      rw [walkNames_cons root _ _ _ _ _ hname, walkNames_cons root _ _ _ _ _ hname, hne]
      simp only [hgo, hrest]

/-- Walks along the same steps to the same name end alike, also if they go wrong. -/
theorem walk_congr_steps {y : String} (hsteps : steps ns = steps ms) (loc : Location)
    (asked : Bool) :
    walk root followLast n loc (ns ++ [y]) asked =
      walk root followLast n loc (ms ++ [y]) asked := by
  induction n generalizing ns ms loc asked with
  | zero => exact walk_congr_of_onward (fun _ _ _ _ _ => rfl) hsteps loc asked
  | succ n ih =>
    refine walk_congr_of_onward (fun ms ms' h => ?_) hsteps loc asked
    exact ih h

/-- A walk goes wrong where there is nothing on the way. -/
theorem walk_missing (hms : ∀ m ∈ ms, IsName m) (hloc : root.kind? loc = some .directory)
    (hfree : ∀ ks, ks <+: ms →
      root.kind? (loc ++ ks) = none ∨ root.kind? (loc ++ ks) = some .directory)
    (hmissing : root.kind? (loc ++ ms) ≠ some .directory) :
    walk root followLast n loc (ms ++ [x]) slash = .error .noEntry := by
  induction ms generalizing loc with
  | nil => exact absurd (by simpa using hloc) hmissing
  | cons m ms ih =>
    rw [List.cons_append, walk_eq_walkNames, walkNames_cons root _ _ _ _ _ (hms m (by simp))]
    rcases hfree [m] (by simp) with hnone | hdir
    · simp [hnone]
    · have hrest := ih (fun m' hm' => hms m' (by simp [hm'])) hdir
        (fun ks hks => by simpa using hfree (m :: ks) (by simpa using hks))
        (by simpa using hmissing)
      rw [walk_eq_walkNames] at hrest
      simp [hdir, hrest]

/-- A walk goes wrong where there is a file on the way. -/
theorem walk_file {m : String} (hms : ∀ m ∈ ms, IsName m)
    (hdir : root.kind? (loc ++ ms) = some .directory) (hm : IsName m)
    (hfile : root.kind? (loc ++ ms ++ [m]) = some .file) (hne : ns ≠ []) :
    walk root followLast n loc (ms ++ m :: ns) slash = .error .notDirectory := by
  rw [walk_through hms hdir (by simp), walk_eq_walkNames, walkNames_cons root _ _ _ _ _ hm, hfile]
  simp [hne]

/-- Whatever comes behind the names that lead to a directory is followed from there, with what is
left of the links; also in every other tree in which no directory and no link is missing. -/
theorem Walk.walk_behind {names₀ : List String} (h : Walk root false n loc names₀ slash r)
    (hnames : names₀ = ns ++ [x]) (hhere : x ≠ ".") (hup : x ≠ "..") :
    ∃ d k, r = ⟨.named d x, slash⟩ ∧ ∀ root' : Entries,
      (∀ l e, e ≠ .file → root.kind? l = some e → root'.kind? l = some e) →
        ∀ rest followLast asked, rest ≠ [] →
          walk root' followLast n loc (ns ++ rest) asked =
            walk root' followLast k d rest asked := by
  induction h generalizing ns with
  | done => simp at hnames
  | here _ ih =>
    cases ns with
    | nil => exact absurd (List.cons.inj hnames).1.symm hhere
    | cons y ns =>
      obtain ⟨rfl, hrest⟩ := List.cons.inj hnames
      obtain ⟨d, k, hr, hwalk⟩ := ih hrest
      refine ⟨d, k, hr, fun root' hle rest followLast asked hne => ?_⟩
      rw [← hwalk root' hle rest followLast asked hne, walk_eq_walkNames, walk_eq_walkNames]
      simp [walkNames]
  | up _ ih =>
    cases ns with
    | nil => exact absurd (List.cons.inj hnames).1.symm hup
    | cons y ns =>
      obtain ⟨rfl, hrest⟩ := List.cons.inj hnames
      obtain ⟨d, k, hr, hwalk⟩ := ih hrest
      refine ⟨d, k, hr, fun root' hle rest followLast asked hne => ?_⟩
      rw [← hwalk root' hle rest followLast asked hne, walk_eq_walkNames, walk_eq_walkNames]
      simp [walkNames]
  | stop hname _ =>
    cases ns with
    | nil =>
      obtain ⟨rfl, -⟩ := List.cons.inj hnames
      exact ⟨_, _, rfl, fun _ _ _ _ _ _ => rfl⟩
    | cons y ns => simp at hnames
  | enter hname hdir hne _ ih =>
    cases ns with
    | nil => exact absurd (List.cons.inj hnames).2 hne
    | cons y ns =>
      obtain ⟨rfl, hrest⟩ := List.cons.inj hnames
      obtain ⟨d, k, hr, hwalk⟩ := ih hrest
      refine ⟨d, k, hr, fun root' hle rest followLast asked hne => ?_⟩
      rw [← hwalk root' hle rest followLast asked hne, List.cons_append, walk_eq_walkNames,
        walk_eq_walkNames, walkNames_cons root' _ _ _ _ _ hname, hle _ _ (by simp) hdir]
      simp [hne]
  | @follow n loc name rest₀ slash r target hname hlink htarget hgo _ ih =>
    cases ns with
    | nil => simp [(List.cons.inj hnames).2] at hgo
    | cons y ns =>
      obtain ⟨rfl, hrest⟩ := List.cons.inj hnames
      have hall : names target ++ rest₀ = (names target ++ ns) ++ [x] := by
        rw [hrest, List.append_eq, List.append_assoc]
      obtain ⟨d, k, hr, hwalk⟩ := ih hall
      have hslash : (slash || ((ns ++ [x]).isEmpty && endsInSlash target)) = slash := by simp
      refine ⟨d, k, by simpa only [hrest, List.append_eq, hslash] using hr,
        fun root' hle rest followLast asked hne => ?_⟩
      have hmore : (ns ++ rest).isEmpty = false := by simp [hne]
      rw [← hwalk root' hle rest followLast asked hne, List.cons_append, walk_eq_walkNames,
        walkNames_cons root' _ _ _ _ _ hname, hle _ _ (by simp) hlink]
      simp [hmore, htarget, onward]

/-- So it is behind all names that are the same but for every `.`. -/
theorem Walk.walk_onward {names₀ : List String} (h : Walk root false n loc names₀ slash r)
    (hnames : names₀ = ns ++ [x]) (hhere : x ≠ ".") (hup : x ≠ "..") :
    ∃ d k, r = ⟨.named d x, slash⟩ ∧ ∀ root' : Entries,
      (∀ l e, e ≠ .file → root.kind? l = some e → root'.kind? l = some e) →
        ∀ ns' rest followLast asked, steps ns' = steps ns → rest ≠ [] →
          walk root' followLast n loc (ns' ++ rest) asked =
            walk root' followLast k d rest asked := by
  obtain ⟨d, k, hr, hwalk⟩ := h.walk_behind hnames hhere hup
  refine ⟨d, k, hr, fun root' hle ns' rest followLast asked hns' hne => ?_⟩
  rw [← hwalk root' hle rest followLast asked hne]
  obtain ⟨front, y, rfl⟩ : ∃ front y, rest = front ++ [y] :=
    ⟨_, _, (List.dropLast_concat_getLast hne).symm⟩
  rw [← List.append_assoc, ← List.append_assoc]
  exact walk_congr_steps (by rw [steps_append, steps_append, hns']) loc asked

/-! ## A file and a link in one place -/

/-- Two trees that differ in one place, where there is a file in the one and a link in the other. -/
structure IsExchanged (dir : Location) (name target : String) (plain linked : Entries) : Prop where
  file : plain.kind? (dir ++ [name]) = some .file
  link : linked.kind? (dir ++ [name]) = some (.link target)
  same : ∀ l, l ≠ dir ++ [name] → linked.kind? l = plain.kind? l

section IsExchanged

variable {dir : Location} {name target : String} {plain linked : Entries}

/-- Where what the link says is followed from. -/
def origin (dir : Location) (target : String) : Location := if startsAtRoot target then [] else dir

theorem IsExchanged.kind?_of_plain (h : IsExchanged dir name target plain linked) {l : Location}
    {e : Kind} (hne : e ≠ .file) (he : plain.kind? l = some e) : linked.kind? l = some e := by
  rw [h.same, he]
  rintro rfl
  rw [h.file] at he
  exact hne (Option.some.inj he).symm

/-- A walk that does not end at the file never comes to it, so it is one past the link as well. -/
theorem IsExchanged.of_plain (h : IsExchanged dir name target plain linked)
    (hw : Walk plain followLast n loc ns slash r) (hr : r.spot.location ≠ dir ++ [name]) :
    Walk linked followLast n loc ns slash r := by
  induction hw with
  | done => exact .done
  | here _ ih => exact .here (ih hr)
  | up _ ih => exact .up (ih hr)
  | stop hname hlast => exact .stop hname fun hf t => h.same _ hr ▸ hlast hf t
  | enter hname hdir hne _ ih =>
    exact .enter hname (h.kind?_of_plain (by simp) hdir) hne (ih hr)
  | follow hname hlink htarget hgo _ ih =>
    exact .follow hname (h.kind?_of_plain (by simp) hlink) htarget hgo (ih hr)

/-- A walk with the link is one without it, unless it goes along what the link says. -/
theorem IsExchanged.of_linked (h : IsExchanged dir name target plain linked)
    (hw : Walk linked true n loc ns slash r) :
    Walk plain true n loc ns slash r ∨ ∃ k < n, ∃ rest asked,
      Walk linked true k (origin dir target) (names target ++ rest) asked r := by
  induction hw with
  | done => exact .inl .done
  | here _ ih => exact ih.imp_left .here
  | up _ ih => exact ih.imp_left .up
  | stop hname hlast =>
    refine .inl (.stop hname fun hf t => ?_)
    rw [← h.same]
    · exact hlast hf t
    · intro he
      rw [he] at hlast
      exact hlast hf _ h.link
  | @enter n loc x rest slash r hname hdir hne _ ih =>
    have hplain : plain.kind? (loc ++ [x]) = some .directory := by
      rw [← h.same, hdir]
      intro he
      simp [he, h.link] at hdir
    exact ih.imp_left (.enter hname hplain hne)
  | @follow n loc x rest slash r t hname hlink ht hgo hrest ih =>
    by_cases hat : loc ++ [x] = dir ++ [name]
    · obtain ⟨rfl, -⟩ := List.append_inj' hat rfl
      rw [hat, h.link] at hlink
      obtain rfl : target = t := by simpa using hlink
      exact .inr ⟨n, Nat.lt_succ_self n, rest, _, hrest⟩
    · rcases ih with hw | ⟨k, hk, hdetour⟩
      · exact .inl (.follow hname (h.same _ hat ▸ hlink) ht hgo hw)
      · exact .inr ⟨k, Nat.lt_succ_of_lt hk, hdetour⟩

/-- What the link says leads to the same place without the link: a walk that comes back to the link
could have been shorter. -/
theorem IsExchanged.along_target (h : IsExchanged dir name target plain linked)
    (hw : Walk linked true n (origin dir target) (names target) slash r) :
    Walk plain true n (origin dir target) (names target) slash r := by
  -- induction on the number of links, of which a walk that comes back to the link needs fewer
  induction n using Nat.strong_induction_on generalizing r with
  | h n ih =>
    rcases h.of_linked hw with hplain | ⟨k, hk, rest, asked, hback⟩
    · exact hplain
    · obtain ⟨r', hshort⟩ := hback.begins rfl slash
      obtain rfl := hw.unique (hshort.links_le hk.le)
      exact (ih k hk hshort).links_le hk.le

end IsExchanged

end Fleet.FileSystem

import Fleet.FileSystem.Walk
import Fleet.Proofs.Files.Tree

namespace Fleet.FileSystem

/-! # Where a walk ends

`Walk` says by rules how a path is followed, one name at a time, and `walk_eq_ok_iff` that these are
the rules of `walk`.  What is proved of walks is proved by induction on them:

* `Walk.within`: a walk ends where it ended if what it met is still there;
* `Walk.sibling`: the names of one directory are reached in the same way;
* `Walk.through_iff`: the names of a location lead to it;
* `Walk.inside`: where there are no links, a walk goes down along the names.

A path leads to where the walk along its names ends (`route_eq_ok_iff`, `route_through`).
-/

/-- A name under which something can stand in a directory. -/
structure IsName (name : String) : Prop where
  ne_here : name ≠ "."
  ne_up : name ≠ ".."
  fits : name.utf8ByteSize ≤ maxName

/-- A piece between two slashes. -/
structure IsSegment (name : String) : Prop where
  ne_empty : name ≠ ""
  no_slash : '/' ∉ name.toList

theorem isSegment_of_mem_names {text name : String} (h : name ∈ names text) : IsSegment name := by
  simp only [names, List.mem_map, List.mem_filter] at h
  obtain ⟨cs, ⟨hcs, hne⟩, rfl⟩ := h
  constructor
  · intro he
    have hnil : cs = [] := by simpa using congrArg String.toList he
    simp [hnil] at hne
  · simpa using Text.notMem_of_mem_splitOn '/' text.toList cs hcs

/-- How names are followed from a directory through at most so many links. -/
inductive Walk (root : Entries) (followLast : Bool) :
    Nat → Location → List String → Bool → Route → Prop where
  | done {n loc slash} : Walk root followLast n loc [] slash ⟨.inside loc, slash⟩
  | here {n loc rest slash r} (hrest : Walk root followLast n loc rest slash r) :
      Walk root followLast n loc ("." :: rest) slash r
  | up {n loc rest slash r} (hrest : Walk root followLast n loc.dropLast rest slash r) :
      Walk root followLast n loc (".." :: rest) slash r
  /-- The last name is where the walk ends, unless it is a link that is followed. -/
  | stop {n loc name slash} (hname : IsName name)
      (hlast : followLast = true → ∀ t, root.kind? (loc ++ [name]) ≠ some (.link t)) :
      Walk root followLast n loc [name] slash ⟨.named loc name, slash⟩
  | enter {n loc name rest slash r} (hname : IsName name)
      (hdir : root.kind? (loc ++ [name]) = some .directory) (hne : rest ≠ [])
      (hrest : Walk root followLast n (loc ++ [name]) rest slash r) :
      Walk root followLast n loc (name :: rest) slash r
  | follow {n loc name rest slash r target} (hname : IsName name)
      (hlink : root.kind? (loc ++ [name]) = some (.link target)) (htarget : target ≠ "")
      (hgo : rest ≠ [] ∨ followLast = true)
      (hrest : Walk root followLast n (if startsAtRoot target then [] else loc)
        (names target ++ rest) (slash || (rest.isEmpty && endsInSlash target)) r) :
      Walk root followLast (n + 1) loc (name :: rest) slash r

/-- How a walk goes on behind a link. -/
def onward (root : Entries) (followLast : Bool) :
    Nat → Location → List String → Bool → Except IoError Route
  | 0 => fun _ _ _ => .error .linkLoop
  | n + 1 => walk root followLast n

theorem walk_eq_walkNames (root : Entries) (followLast : Bool) (n : Nat) (loc : Location)
    (ns : List String) (slash : Bool) :
    walk root followLast n loc ns slash =
      walkNames root (onward root followLast n) followLast slash loc ns := by
  cases n <;> rfl

/-- One name of a walk, by what stands under it. -/
theorem walkNames_cons (root : Entries)
    (jump : Location → List String → Bool → Except IoError Route) (followLast slash : Bool)
    (loc : Location) {name : String} (rest : List String) (hname : IsName name) :
    walkNames root jump followLast slash loc (name :: rest) =
      match root.kind? (loc ++ [name]) with
      | some (.link target) =>
        if rest.isEmpty && !followLast then .ok ⟨.named loc name, slash⟩
        else if target.isEmpty then .error .noEntry
        else jump (if startsAtRoot target then [] else loc) (names target ++ rest)
          (slash || (rest.isEmpty && endsInSlash target))
      | some .directory =>
        if rest.isEmpty then .ok ⟨.named loc name, slash⟩
        else walkNames root jump followLast slash (loc ++ [name]) rest
      | some .file => if rest.isEmpty then .ok ⟨.named loc name, slash⟩ else .error .notDirectory
      | none => if rest.isEmpty then .ok ⟨.named loc name, slash⟩ else .error .noEntry := by
  have hfits : ¬ maxName < name.utf8ByteSize := Nat.not_lt.2 hname.fits
  rw [walkNames, if_neg hname.ne_here, if_neg hname.ne_up, if_neg hfits]
  cases hg : root.get? (loc ++ [name]) with
  | none => simp [Entries.kind?, Entries.item?, hg]
  | some node => cases node <;> simp [Entries.kind?, Entries.item?, hg, Node.entry]

/-- A name that is neither `.` nor `..` and not too long is one that something can stand under. -/
theorem name_cases (name : String) :
    name = "." ∨ name = ".." ∨ (name ≠ "." ∧ name ≠ ".." ∧ maxName < name.utf8ByteSize) ∨
      IsName name := by
  by_cases h1 : name = "."
  · exact .inl h1
  by_cases h2 : name = ".."
  · exact .inr (.inl h2)
  by_cases h3 : maxName < name.utf8ByteSize
  · exact .inr (.inr (.inl ⟨h1, h2, h3⟩))
  · exact .inr (.inr (.inr ⟨h1, h2, Nat.not_lt.1 h3⟩))

/-- Following names keeps to the rules if what happens behind a link does. -/
theorem Walk.of_walkNames {root : Entries} {followLast : Bool} {n : Nat} {slash : Bool} {r : Route}
    {jump : Location → List String → Bool → Except IoError Route}
    (hjump : ∀ loc ns slash, jump loc ns slash = .ok r →
      ∃ m, n = m + 1 ∧ Walk root followLast m loc ns slash r)
    {loc : Location} {ns : List String} (h : walkNames root jump followLast slash loc ns = .ok r) :
    Walk root followLast n loc ns slash r := by
  induction ns generalizing loc with
  | nil => cases h; exact .done
  | cons name rest ih =>
    rcases name_cases name with rfl | rfl | ⟨h1, h2, h3⟩ | hname
    · exact .here (ih (by simpa [walkNames] using h))
    · exact .up (ih (by simpa [walkNames] using h))
    · simp [walkNames, h1, h2, h3] at h
    · rw [walkNames_cons root _ _ _ _ _ hname] at h
      -- the last name, whatever stands under it
      have hend : rest = [] →
          (followLast = true → ∀ t, root.kind? (loc ++ [name]) ≠ some (.link t)) →
            r = ⟨.named loc name, slash⟩ → Walk root followLast n loc (name :: rest) slash r := by
        rintro rfl hlast rfl
        exact .stop hname hlast
      split at h
      · next t hk =>
        split at h
        · next hstop =>
          have hstop : rest = [] ∧ followLast = false := by simpa using hstop
          exact hend hstop.1 (by simp [hstop.2]) (Except.ok.inj h).symm
        · next hgo =>
          split at h
          · cases h
          · next ht =>
            obtain ⟨m, rfl, hw⟩ := hjump _ _ _ h
            refine .follow hname hk (by simpa using ht) ?_ hw
            by_cases hrest : rest = []
            · exact .inr (by simpa [hrest] using hgo)
            · exact .inl hrest
      · next hk =>
        split at h
        · next hrest => exact hend (by simpa using hrest) (by simp [hk]) (Except.ok.inj h).symm
        · next hrest => exact .enter hname hk (by simpa using hrest) (ih h)
      all_goals
        next hk =>
        split at h
        · next hrest => exact hend (by simpa using hrest) (by simp [hk]) (Except.ok.inj h).symm
        · cases h

theorem Walk.of_walk {root : Entries} {followLast : Bool} {n : Nat} {loc : Location}
    {ns : List String} {slash : Bool} {r : Route}
    (h : walk root followLast n loc ns slash = .ok r) : Walk root followLast n loc ns slash r := by
  -- induction on the number of links that may be followed yet
  induction n generalizing loc ns slash with
  | zero =>
    rw [walk_eq_walkNames] at h
    exact .of_walkNames (fun _ _ _ hj => by cases hj) h
  | succ n ih =>
    rw [walk_eq_walkNames] at h
    exact .of_walkNames (fun _ _ _ hj => ⟨n, rfl, ih hj⟩) h

theorem Walk.walk_eq {root : Entries} {followLast : Bool} {n : Nat} {loc : Location}
    {ns : List String} {slash : Bool} {r : Route} (h : Walk root followLast n loc ns slash r) :
    walk root followLast n loc ns slash = .ok r := by
  induction h with
  | done => rw [walk_eq_walkNames]; rfl
  | here hrest ih =>
    rw [walk_eq_walkNames] at ih ⊢
    simpa [walkNames] using ih
  | up hrest ih =>
    rw [walk_eq_walkNames] at ih ⊢
    simpa [walkNames] using ih
  | stop hname hlast =>
    rw [walk_eq_walkNames, walkNames_cons root _ _ _ _ _ hname]
    split
    · next t hk =>
      cases followLast with
      | false => rfl
      | true => exact absurd hk (hlast rfl t)
    all_goals rfl
  | enter hname hdir hne hrest ih =>
    rw [walk_eq_walkNames] at ih ⊢
    rw [walkNames_cons root _ _ _ _ _ hname, hdir]
    simpa [hne] using ih
  | @follow n loc name rest slash r target hname hlink htarget hgo hrest ih =>
    rw [walk_eq_walkNames, walkNames_cons root _ _ _ _ _ hname, hlink]
    have hgo : (rest.isEmpty && !followLast) = false := by
      rcases hgo with hgo | hgo <;> simp [hgo]
    simpa [hgo, htarget, onward] using ih

/-- The rules say how paths are followed. -/
theorem walk_eq_ok_iff {root : Entries} {followLast : Bool} {n : Nat} {loc : Location}
    {ns : List String} {slash : Bool} {r : Route} :
    walk root followLast n loc ns slash = .ok r ↔ Walk root followLast n loc ns slash r :=
  ⟨Walk.of_walk, Walk.walk_eq⟩

variable {root : Entries} {followLast : Bool} {n : Nat} {loc : Location} {slash : Bool} {r : Route}

/-- A walk ends where it ended if all that it met is still there, and there is now no link at its
end that would be followed. -/
theorem Walk.within {root' : Entries} {followLast' : Bool} {ns : List String}
    (hle : ∀ l k, root.kind? l = some k → root'.kind? l = some k)
    (hfollow : followLast = true → followLast' = true)
    (h : Walk root followLast n loc ns slash r)
    (hlast : followLast' = true → ∀ t, root'.kind? r.spot.location ≠ some (.link t)) :
    Walk root' followLast' n loc ns slash r := by
  induction h with
  | done => exact .done
  | here _ ih => exact .here (ih hlast)
  | up _ ih => exact .up (ih hlast)
  | stop hname _ => exact .stop hname hlast
  | enter hname hdir hne _ ih => exact .enter hname (hle _ _ hdir) hne (ih hlast)
  | follow hname hlink htarget hgo _ ih =>
    exact .follow hname (hle _ _ hlink) htarget (hgo.imp_right hfollow) (ih hlast)

/-! ## Names in one directory -/

/-- The names that a walk heeds: it passes over every `.`. -/
def steps (ns : List String) : List String := ns.filter (· ≠ ".")

@[simp] theorem steps_nil : steps [] = [] := rfl

@[simp] theorem steps_here (ns : List String) : steps ("." :: ns) = steps ns := by simp [steps]

theorem steps_cons {name : String} (h : name ≠ ".") (ns : List String) :
    steps (name :: ns) = name :: steps ns := by
  simp [steps, h]

@[simp] theorem steps_append (ns ms : List String) : steps (ns ++ ms) = steps ns ++ steps ms :=
  List.filter_append ..

/-- Every `.` in front of a name is passed over. -/
theorem Walk.skip {name y : String} {tail ms : List String}
    (h : ∀ ms', steps ms' = tail → Walk root followLast n loc (name :: (ms' ++ [y])) slash r)
    (hms : steps ms = name :: tail) :
    Walk root followLast n loc (ms ++ [y]) slash r := by
  induction ms with
  | nil => simp at hms
  | cons m ms ih =>
    by_cases hm : m = "."
    · subst hm
      exact .here (ih (by simpa using hms))
    · rw [steps_cons hm] at hms
      obtain ⟨rfl, htail⟩ := List.cons.inj hms
      exact h ms htail

/-- Nothing but `.` leads nowhere. -/
theorem Walk.skip_all {y : String} {ms : List String}
    (h : Walk root followLast n loc [y] slash r) (hms : steps ms = []) :
    Walk root followLast n loc (ms ++ [y]) slash r := by
  induction ms with
  | nil => exact h
  | cons m ms ih =>
    by_cases hm : m = "."
    · subst hm
      exact .here (ih (by simpa using hms))
    · rw [steps_cons hm] at hms
      cases hms

/-- If the last name of a path is reached, then so is in its place any other name: what leads to it
leads to a directory, and a `.` on the way makes no difference. -/
theorem Walk.sibling {names₀ ns : List String} {x : String}
    (h : Walk root false n loc names₀ slash r) (hnames : names₀ = ns ++ [x])
    (hhere : x ≠ ".") (hup : x ≠ "..") :
    ∃ d, r = ⟨.named d x, slash⟩ ∧ IsName x ∧
      ∀ ms y slash', steps ms = steps ns → IsName y →
        Walk root false n loc (ms ++ [y]) slash' ⟨.named d y, slash'⟩ := by
  induction h generalizing ns with
  | done => simp at hnames
  | here _ ih =>
    cases ns with
    | nil => exact absurd (List.cons.inj hnames).1.symm hhere
    | cons m ns =>
      obtain ⟨rfl, hrest⟩ := List.cons.inj hnames
      obtain ⟨d, hr, hx, hother⟩ := ih hrest
      exact ⟨d, hr, hx, fun ms y s hms => hother ms y s (by simpa using hms)⟩
  | up _ ih =>
    cases ns with
    | nil => exact absurd (List.cons.inj hnames).1.symm hup
    | cons m ns =>
      obtain ⟨rfl, hrest⟩ := List.cons.inj hnames
      obtain ⟨d, hr, hx, hother⟩ := ih hrest
      rw [steps_cons (by decide)]
      refine ⟨d, hr, hx, fun ms y s hms hy => .skip (fun ms' hms' => ?_) hms⟩
      exact .up (hother ms' y s hms' hy)
  | stop hname _ =>
    cases ns with
    | nil =>
      obtain ⟨rfl, -⟩ := List.cons.inj hnames
      refine ⟨_, rfl, hname, fun ms y s hms hy => ?_⟩
      exact .skip_all (.stop hy (by simp)) (by simpa using hms)
    | cons m ns => simp at hnames
  | enter hname hdir hne _ ih =>
    cases ns with
    | nil => exact absurd (List.cons.inj hnames).2 hne
    | cons m ns =>
      obtain ⟨rfl, hrest⟩ := List.cons.inj hnames
      obtain ⟨d, hr, hx, hother⟩ := ih hrest
      rw [steps_cons hname.ne_here]
      refine ⟨d, hr, hx, fun ms y s hms hy => .skip (fun ms' hms' => ?_) hms⟩
      exact .enter hname hdir (by simp) (hother ms' y s hms' hy)
  | @follow n loc name rest slash r target hname hlink htarget hgo _ ih =>
    cases ns with
    | nil => simp [(List.cons.inj hnames).2] at hgo
    | cons m ns =>
      obtain ⟨rfl, hrest⟩ := List.cons.inj hnames
      -- behind the link its own names come first
      have hall : names target ++ rest = (names target ++ ns) ++ [x] := by
        rw [hrest, List.append_eq, List.append_assoc]
      obtain ⟨d, hr, hx, hother⟩ := ih hall
      have hslash : ∀ (s : Bool) (l : List String) (z : String),
          (s || ((l ++ [z]).isEmpty && endsInSlash target)) = s := by simp
      rw [steps_cons hname.ne_here]
      refine ⟨d, by simpa only [hrest, List.append_eq, hslash] using hr, hx,
        fun ms y s hms hy => .skip (fun ms' hms' => ?_) hms⟩
      refine .follow hname hlink htarget (.inl (by simp)) ?_
      have := hother (names target ++ ms') y s (by simp [hms']) hy
      simpa only [hslash, List.append_assoc] using this

/-- A walk that follows no link under the last name ends in front of that name. -/
theorem Walk.last_of_named {ns : List String} {dir : Location} {name : String} {slash' : Bool}
    (h : Walk root false n loc ns slash ⟨.named dir name, slash'⟩) :
    IsName name ∧ ∃ front, ns = front ++ [name] := by
  generalize hr : (⟨.named dir name, slash'⟩ : Route) = r at h
  induction h with
  | done => cases hr
  | here _ ih =>
    obtain ⟨hname, front, rfl⟩ := ih hr
    exact ⟨hname, "." :: front, rfl⟩
  | up _ ih =>
    obtain ⟨hname, front, rfl⟩ := ih hr
    exact ⟨hname, ".." :: front, rfl⟩
  | stop hname _ =>
    cases hr
    exact ⟨hname, [], rfl⟩
  | @enter n loc m rest slash r _ _ _ _ ih =>
    obtain ⟨hname, front, rfl⟩ := ih hr
    exact ⟨hname, m :: front, rfl⟩
  | @follow n loc m rest slash r target _ _ _ hgo _ ih =>
    obtain ⟨hname, front, hall⟩ := ih hr
    -- the link is not under the last name, so the walk behind it ends with the same name
    have hne : rest ≠ [] := by simpa using hgo
    obtain ⟨front', last, rfl⟩ : ∃ front' last, rest = front' ++ [last] :=
      ⟨_, _, (List.dropLast_concat_getLast hne).symm⟩
    rw [← List.append_assoc] at hall
    obtain ⟨-, hlast⟩ := List.append_inj' hall rfl
    obtain rfl := (List.cons.inj hlast).1
    exact ⟨hname, m :: front', rfl⟩

/-! ## Walks without a last name -/

/-- What is reached from a directory without a last name is a directory. -/
theorem Walk.inside_directory {ns : List String} {l : Location} {slash' : Bool}
    (h : Walk root followLast n loc ns slash ⟨.inside l, slash'⟩)
    (hloc : root.kind? loc = some .directory) : root.kind? l = some .directory := by
  generalize hr : (⟨.inside l, slash'⟩ : Route) = r at h
  induction h with
  | done =>
    cases hr
    exact hloc
  | here _ ih => exact ih hloc hr
  | up _ ih => exact ih (Entries.kind?_directory_of_prefix hloc (List.dropLast_prefix _)) hr
  | stop _ _ => cases hr
  | enter _ hdir _ _ ih => exact ih hdir hr
  | follow _ _ _ _ _ ih =>
    refine ih ?_ hr
    split
    · rfl
    · exact hloc

/-- What is reached without a last name is a directory, unless the walk met nothing at all. -/
theorem Walk.inside_cases {ns : List String} {l : Location} {slash' : Bool}
    (h : Walk root followLast n loc ns slash ⟨.inside l, slash'⟩) :
    root.kind? l = some .directory ∨ ∀ m ∈ ns, m = "." ∨ m = ".." := by
  generalize hr : (⟨.inside l, slash'⟩ : Route) = r at h
  induction h with
  | done => exact .inr (by simp)
  | here _ ih => exact (ih hr).imp_right fun hns => by simpa using hns
  | up _ ih => exact (ih hr).imp_right fun hns => by simpa using hns
  | stop _ _ => cases hr
  | enter _ hdir _ hrest _ =>
    subst hr
    exact .inl (hrest.inside_directory hdir)
  | follow _ hlink _ _ hrest _ =>
    subst hr
    -- a link stands in a directory, and what it says goes on from there or from the root
    refine .inl (hrest.inside_directory ?_)
    split
    · rfl
    · exact Entries.kind?_eq_directory.2
        (Entries.item?_directory_of_below (Entries.kind?_eq_link.1 hlink) (by simp))

/-- A name behind what was reached without a last name. -/
theorem Walk.beyond {ns : List String} {l : Location} {slash' : Bool} {y : String}
    (h : Walk root false n loc ns slash ⟨.inside l, slash'⟩) (hy : IsName y) :
    Walk root false n loc (ns ++ [y]) false ⟨.named l y, false⟩ := by
  generalize hr : (⟨.inside l, slash'⟩ : Route) = r at h
  induction h with
  | done =>
    cases hr
    exact .stop hy (by simp)
  | here _ ih => exact .here (ih hr)
  | up _ ih => exact .up (ih hr)
  | stop _ _ => cases hr
  | enter hname hdir _ _ ih => exact .enter hname hdir (by simp) (ih hr)
  | @follow n loc name rest slash r target hname hlink htarget _ _ ih =>
    have hslash : (false || ((rest ++ [y]).isEmpty && endsInSlash target)) = false := by simp
    refine .follow hname hlink htarget (.inl (by simp)) ?_
    rw [List.append_eq, hslash, ← List.append_assoc]
    exact ih hr

/-! ## Names that are a location -/

/-- The last name is reached whatever stands under it, if no link there is followed. -/
theorem Walk.last_iff {name : String} (hname : IsName name) :
    Walk root false n loc [name] slash r ↔ r = ⟨.named loc name, slash⟩ := by
  constructor
  · intro h
    cases h with
    | here _ => exact absurd rfl hname.ne_here
    | up _ => exact absurd rfl hname.ne_up
    | stop _ _ => rfl
    | enter _ _ hne _ => exact absurd rfl hne
    | follow _ _ _ hgo _ => simp at hgo
  · rintro rfl
    exact .stop hname (by simp)

/-- The names of a location lead into the directory there, whatever comes of the walk. -/
theorem walk_through {ms rest : List String} (hms : ∀ m ∈ ms, IsName m)
    (hdir : root.kind? (loc ++ ms) = some .directory) (hne : rest ≠ []) :
    walk root followLast n loc (ms ++ rest) slash =
      walk root followLast n (loc ++ ms) rest slash := by
  induction ms generalizing loc with
  | nil => simp
  | cons m ms ih =>
    have hm : root.kind? (loc ++ [m]) = some .directory :=
      Entries.kind?_directory_of_prefix hdir ⟨ms, by simp⟩
    have hdir' : root.kind? (loc ++ [m] ++ ms) = some .directory := by simpa using hdir
    have hrest := ih (fun m' hm' => hms m' (by simp [hm'])) hdir'
    rw [walk_eq_walkNames] at hrest
    rw [List.cons_append, walk_eq_walkNames, walkNames_cons root _ _ _ _ _ (hms m (by simp)), hm]
    simpa [hne] using hrest

theorem Walk.through_iff {ms rest : List String} (hms : ∀ m ∈ ms, IsName m)
    (hdir : root.kind? (loc ++ ms) = some .directory) (hne : rest ≠ []) :
    Walk root followLast n loc (ms ++ rest) slash r ↔
      Walk root followLast n (loc ++ ms) rest slash r := by
  rw [← walk_eq_ok_iff, ← walk_eq_ok_iff, walk_through hms hdir hne]

/-- The names of a location lead there from the root. -/
theorem Walk.from_root_iff {ms rest : List String} (hms : ∀ m ∈ ms, IsName m)
    (hdir : root.kind? ms = some .directory) (hne : rest ≠ []) :
    Walk root followLast n [] (ms ++ rest) slash r ↔ Walk root followLast n ms rest slash r :=
  Walk.through_iff hms hdir hne

/-- Where there are no links, a walk along names goes down along them. -/
theorem Walk.inside {base : Location} (ms : List String) (x : String)
    (hlinks : ∀ l t, base <+: l → root.kind? l ≠ some (.link t))
    (hms : ∀ m ∈ ms ++ [x], m ≠ "." ∧ m ≠ "..")
    (h : Walk root followLast n base (ms ++ [x]) slash r) : r = ⟨.named (base ++ ms) x, slash⟩ := by
  induction ms generalizing base with
  | nil =>
    rw [List.nil_append] at h
    cases h with
    | here _ => exact absurd rfl (hms _ (by simp)).1
    | up _ => exact absurd rfl (hms _ (by simp)).2
    | stop _ _ => simp
    | enter _ _ hne _ => exact absurd rfl hne
    | follow _ hlink _ _ _ => exact absurd hlink (hlinks _ _ ⟨_, rfl⟩)
  | cons m ms ih =>
    rw [List.cons_append] at h hms
    have hne : ms ++ [x] ≠ [] := by simp
    generalize hl : ms ++ [x] = rest at h hms hne
    cases h with
    | here _ => exact absurd rfl (hms _ (by simp)).1
    | up _ => exact absurd rfl (hms _ (by simp)).2
    | stop _ _ => exact absurd rfl hne
    | enter _ _ _ hrest =>
      subst hl
      have hlinks' : ∀ l t, base ++ [m] <+: l → root.kind? l ≠ some (.link t) :=
        fun l t hl => hlinks l t ((List.prefix_append _ _).trans hl)
      have := ih hlinks' (fun m' hm' => hms m' (List.mem_cons_of_mem _ hm')) hrest
      simpa using this
    | follow _ hlink _ _ _ => exact absurd hlink (hlinks _ _ ⟨_, rfl⟩)

/-- Every name in the location at the end of a walk is one that was followed. -/
theorem Walk.names_of_end {ns : List String} (h : Walk root followLast n loc ns slash r)
    (hloc : ∀ m ∈ loc, IsName m ∧ IsSegment m) (hns : ∀ m ∈ ns, IsSegment m) :
    ∀ m ∈ r.spot.location, IsName m ∧ IsSegment m := by
  have hpush : ∀ {l : Location} {name : String}, (∀ m ∈ l, IsName m ∧ IsSegment m) →
      IsName name → IsSegment name → ∀ m ∈ l ++ [name], IsName m ∧ IsSegment m := by
    intro l name hl hname hseg m hm
    rcases List.mem_append.1 hm with hm | hm
    · exact hl m hm
    · rw [List.mem_singleton.1 hm]
      exact ⟨hname, hseg⟩
  induction h with
  | done => exact hloc
  | here _ ih => exact ih hloc fun m hm => hns m (by simp [hm])
  | up _ ih =>
    exact ih (fun m hm => hloc m (List.dropLast_subset _ hm)) fun m hm => hns m (by simp [hm])
  | stop hname _ => exact hpush hloc hname (hns _ (by simp))
  | enter hname _ _ _ ih =>
    exact ih (hpush hloc hname (hns _ (by simp))) fun m hm => hns m (by simp [hm])
  | @follow n loc name rest slash r target _ _ _ _ _ ih =>
    refine ih ?_ ?_
    · split
      · simp
      · exact hloc
    · intro m hm
      rcases List.mem_append.1 hm with hm | hm
      · exact isSegment_of_mem_names hm
      · exact hns m (by simp [hm])

/-! ## Routes of paths -/

variable {fs fs' : FileSystem} {p : Path}

/-- Where a path starts. -/
def start (fs : FileSystem) (p : Path) : Location := if startsAtRoot p.text then [] else fs.cwd

theorem route_eq_ok_iff : fs.route followLast p = .ok r ↔
    refused? p = none ∧
      Walk fs.root followLast maxLinks (fs.start p) (names p.text) (endsInSlash p.text) r := by
  rw [← walk_eq_ok_iff, route]
  cases refused? p with
  | none => simp [start]
  | some e => simp

/-- A path that goes through directories to its last name leads to that name in the last of them. -/
theorem route_through {ms : List String} {x : String} (hnames : names p.text = ms ++ [x])
    (hms : ∀ m ∈ ms ++ [x], IsName m)
    (hdir : fs.root.item? (fs.start p ++ ms) = some .directory) :
    fs.route false p =
      match refused? p with
      | some e => .error e
      | none => .ok ⟨.named (fs.start p ++ ms) x, endsInSlash p.text⟩ := by
  cases hp : refused? p with
  | some e => simp [route, hp]
  | none =>
    have hthrough : ∀ m ∈ ms, IsName m := fun m hm => hms m (by simp [hm])
    refine route_eq_ok_iff.2 ⟨hp, ?_⟩
    rw [hnames, Walk.through_iff hthrough (Entries.kind?_eq_directory.2 hdir) (by simp)]
    exact (Walk.last_iff (hms x (by simp))).2 rfl

theorem spot_through {ms : List String} {x : String} (hnames : names p.text = ms ++ [x])
    (hms : ∀ m ∈ ms ++ [x], IsName m)
    (hdir : fs.root.item? (fs.start p ++ ms) = some .directory)
    (h : fs.route false p = .ok r) : r.spot = .named (fs.start p ++ ms) x := by
  rw [route_through hnames hms hdir] at h
  split at h
  · cases h
  · cases h
    rfl

/-- Such a path leads to the same place as long as the directories are there. -/
theorem route_eq_of_directories {ms : List String} {x : String} (hcwd : fs'.cwd = fs.cwd)
    (hnames : names p.text = ms ++ [x]) (hms : ∀ m ∈ ms ++ [x], IsName m)
    (hdir : fs.root.item? (fs.start p ++ ms) = some .directory)
    (hdir' : fs'.root.item? (fs.start p ++ ms) = some .directory) :
    fs'.route false p = fs.route false p := by
  have hstart : fs'.start p = fs.start p := by rw [start, start, hcwd]
  rw [← hstart] at hdir'
  rw [route_through hnames hms hdir, route_through hnames hms hdir', hstart]

end Fleet.FileSystem

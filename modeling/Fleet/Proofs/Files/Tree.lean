import Fleet.FileSystem.Tree

namespace Fleet

/-! # The view of a tree

What `Entries.item?` and `Entries.get?` say of a tree at one location, they say in part of the
locations above and below it: an entry stands only in a directory, and below what is no directory
there is nothing.

A path that is followed does not look at what a file holds, so `Entry.kind` forgets it, and
`Entries.kind?` is the view that a path has of a tree.  Main statements: `item?_set_leaf` and
`item?_erase`, which say of every location what `set` and `erase` make of it.
-/

/-- What an entry is to a path that meets it. -/
inductive Kind where
  | file
  | link (target : String)
  | directory
  deriving DecidableEq, Repr

/-- What an entry is, whatever a file holds. -/
def Entry.kind : Entry → Kind
  | .file _ _ => .file
  | .link target => .link target
  | .directory => .directory

@[simp] theorem Entry.kind_file (c : ByteArray) (x : Bool) : (Entry.file c x).kind = .file := rfl

@[simp] theorem Entry.kind_link (t : String) : (Entry.link t).kind = .link t := rfl

@[simp] theorem Entry.kind_directory : Entry.directory.kind = .directory := rfl

theorem Entry.kind_eq_link {e : Entry} {t : String} : e.kind = .link t ↔ e = .link t := by
  cases e <;> simp

theorem Entry.kind_eq_directory {e : Entry} : e.kind = .directory ↔ e = .directory := by
  cases e <;> simp

theorem Node.entry_eq_link {node : Node} {t : String} : node.entry = .link t ↔ node = .link t := by
  cases node <;> simp [Node.entry]

/-- A node with nothing below it. -/
def Node.isLeaf : Node → Bool
  | .directory inside => inside.isEmpty
  | _ => true

namespace Entries

/-- What stands at a location, whatever a file there holds. -/
def kind? (root : Entries) (loc : Location) : Option Kind := (root.item? loc).map Entry.kind

theorem item?_nil (root : Entries) : root.item? [] = some .directory := rfl

theorem kind?_eq_link {root : Entries} {loc : Location} {t : String} :
    root.kind? loc = some (.link t) ↔ root.item? loc = some (.link t) := by
  cases h : root.item? loc <;> simp [kind?, h, Entry.kind_eq_link]

theorem kind?_eq_directory {root : Entries} {loc : Location} :
    root.kind? loc = some .directory ↔ root.item? loc = some .directory := by
  cases h : root.item? loc <;> simp [kind?, h, Entry.kind_eq_directory]

/-- The views of a node that is found. -/
theorem item?_of_get? {root : Entries} {loc : Location} {node : Node}
    (h : root.get? loc = some node) : root.item? loc = some node.entry := by
  simp [item?, h]

theorem get?_eq_none {root : Entries} {loc : Location} :
    root.get? loc = none ↔ root.item? loc = none := by
  simp [item?]

theorem get?_of_item?_file {root : Entries} {loc : Location} {c : ByteArray} {x : Bool}
    (h : root.item? loc = some (.file c x)) : root.get? loc = some (.file c x) := by
  simp only [item?, Option.map_eq_some_iff] at h
  obtain ⟨node, hnode, he⟩ := h
  cases node <;> simp_all [Node.entry]

theorem get?_of_item?_link {root : Entries} {loc : Location} {t : String}
    (h : root.item? loc = some (.link t)) : root.get? loc = some (.link t) := by
  simp only [item?, Option.map_eq_some_iff] at h
  obtain ⟨node, hnode, he⟩ := h
  cases node <;> simp_all [Node.entry]

theorem get?_of_item?_directory {root : Entries} {loc : Location}
    (h : root.item? loc = some .directory) :
    ∃ inside, root.get? loc = some (.directory inside) := by
  simp only [item?, Option.map_eq_some_iff] at h
  obtain ⟨node, hnode, he⟩ := h
  cases node with
  | directory inside => exact ⟨inside, hnode⟩
  | file c x => simp [Node.entry] at he
  | link t => simp [Node.entry] at he

/-! ## Locations above and below -/

/-- Below a directory the view goes on inside it. -/
theorem get?_append {root inside : Entries} {loc : Location}
    (h : root.get? loc = some (.directory inside)) (more : Location) :
    root.get? (loc ++ more) = inside.get? more := by
  induction loc generalizing root with
  | nil =>
    simp only [get?, Option.some.injEq, Node.directory.injEq] at h
    simp [h]
  | cons n rest ih =>
    rw [get?_cons] at h
    split at h
    · cases h
    · rename_i e he
      rw [List.cons_append, get?_cons, he]
      exact ih h
    · rename_i node hnot he
      split at h
      · cases h; exact absurd rfl (hnot inside)
      · cases h

/-- Whatever stands below a location stands in a directory. -/
theorem item?_directory_of_below {root : Entries} {loc more : Location} {e : Entry}
    (h : root.item? (loc ++ more) = some e) (hmore : more ≠ []) :
    root.item? loc = some .directory := by
  induction loc generalizing root with
  | nil => rfl
  | cons n rest ih =>
    simp only [item?, List.cons_append, get?_cons] at h ⊢
    split at h
    · cases h
    · rename_i inside hf
      exact ih (by simpa [item?] using h)
    · simp [hmore] at h

/-- A directory that a location leads through. -/
theorem kind?_directory_of_prefix {root : Entries} {loc loc' : Location}
    (h : root.kind? loc' = some .directory) (hp : loc <+: loc') :
    root.kind? loc = some .directory := by
  obtain ⟨more, rfl⟩ := hp
  cases more with
  | nil => simpa using h
  | cons m more =>
    rw [kind?_eq_directory] at h ⊢
    exact item?_directory_of_below h (by simp)

/-- There is nothing below what is no directory. -/
theorem item?_below_none {root : Entries} {loc loc' : Location}
    (h : root.item? loc ≠ some .directory) (hp : loc <+: loc') (hne : loc' ≠ loc) :
    root.item? loc' = none := by
  obtain ⟨more, rfl⟩ := hp
  have hmore : more ≠ [] := fun hnil => hne (by simp [hnil])
  cases hi : root.item? (loc ++ more) with
  | none => rfl
  | some e => exact absurd (item?_directory_of_below hi hmore) h

/-! ## Trees without links -/

/-- There is no link in the tree. -/
def NoLinks (root : Entries) : Prop := ∀ loc t, root.item? loc ≠ some (.link t)

theorem NoLinks.nil : NoLinks [] := by
  intro loc t h
  cases loc <;> cases h

theorem NoLinks.cons_file {rest : Entries} (h : NoLinks rest) (name : String) (c : ByteArray)
    (x : Bool) : NoLinks ((name, .file c x) :: rest) := by
  intro loc t hlink
  cases loc with
  | nil => cases hlink
  | cons m loc =>
    rw [item?, get?_cons, find?] at hlink
    by_cases hm : name = m
    · cases loc <;> simp [hm, Node.entry] at hlink
    · rw [if_neg hm] at hlink
      exact h (m :: loc) t hlink

theorem NoLinks.cons_directory {rest inside : Entries} (hin : NoLinks inside) (h : NoLinks rest)
    (name : String) : NoLinks ((name, .directory inside) :: rest) := by
  intro loc t hlink
  cases loc with
  | nil => cases hlink
  | cons m loc =>
    rw [item?, get?_cons, find?] at hlink
    by_cases hm : name = m
    · rw [if_pos hm] at hlink
      exact hin loc t hlink
    · rw [if_neg hm] at hlink
      exact h (m :: loc) t hlink

/-! ## What `set` and `erase` make of the view -/

/-- A leaf put into a directory: it is there, nothing is below it, and all else is as it was. -/
theorem item?_set_leaf {root : Entries} {dir : Location} (name : String) {node : Node}
    (hleaf : node.isLeaf = true) (hdir : root.item? dir = some .directory) (loc : Location) :
    (root.set node (dir ++ [name])).item? loc =
      if loc = dir ++ [name] then some node.entry
      else if dir ++ [name] <+: loc then none
      else root.item? loc := by
  obtain ⟨inside, hin⟩ := get?_of_item?_directory hdir
  have hself : (root.set node (dir ++ [name])).get? (dir ++ [name]) = some node :=
    get?_set_self node root dir name hin
  split
  · next he => rw [he, item?_of_get? hself]
  · next he =>
    split
    · next hp =>
      cases node with
      | file c x => exact item?_below_none (by simp [item?_of_get? hself, Node.entry]) hp he
      | link t => exact item?_below_none (by simp [item?_of_get? hself, Node.entry]) hp he
      | directory inside =>
        -- an empty directory: the view below it is that of an empty list
        obtain ⟨more, rfl⟩ := hp
        have hnil : inside = [] := by simpa [Node.isLeaf] using hleaf
        subst hnil
        cases more with
        | nil => simp at he
        | cons m more =>
          rw [item?, get?_append hself]
          rfl
    · next hp => exact item?_set_of_notPrefix node root _ loc hp

/-- An entry that is taken out is gone with all below it, and all else is as it was. -/
theorem item?_erase {root : Entries} {loc : Location} (hne : loc ≠ []) (other : Location) :
    (root.erase loc).item? other = if loc <+: other then none else root.item? other := by
  have hself : (root.erase loc).item? loc = none := by
    rw [item?, get?_erase_self root loc hne, Option.map_none]
  split
  · next hp =>
    by_cases he : other = loc
    · rw [he, hself]
    · exact item?_below_none (by simp [hself]) hp he
  · next hp => exact item?_erase_of_notPrefix root loc other hp

end Entries

end Fleet

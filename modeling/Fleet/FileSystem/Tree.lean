namespace Fleet

/-! # The tree of files

A directory is a list of named entries, and an entry is a file, a symbolic link or again a
directory; there is no file whose directory is missing.  A `Location` names an entry by the names
that lead to it from the root.

The view of a tree is `Entries.get?`, or `Entries.item?` without what lies below an entry.  Main
statements: `get?_set_self` and `item?_set_of_notPrefix` say what `set` does to the view,
`get?_erase_self` and `item?_erase_of_notPrefix` what `erase` does.
-/

/-- A thing in a directory. -/
inductive Node where
  | file (content : ByteArray) (executable : Bool)
  | link (target : String)
  | directory (entries : List (String × Node))
  deriving Inhabited

/-- What a directory holds, by name. -/
abbrev Entries := List (String × Node)

/-- The names that lead to an entry from the root. -/
abbrev Location := List String

/-- An entry without what is below it. -/
inductive Entry where
  | file (content : ByteArray) (executable : Bool)
  | link (target : String)
  | directory
  deriving Inhabited

namespace Node

/-- The node, without what is below it. -/
def entry : Node → Entry
  | file content executable => .file content executable
  | link target => .link target
  | directory _ => .directory

def isDirectory : Node → Bool
  | directory _ => true
  | _ => false

end Node

namespace Entries

/-- The entry of one name. -/
def find? (name : String) : Entries → Option Node
  | [] => none
  | (n, node) :: rest => if n = name then some node else find? name rest

/-- Puts an entry under a name, in the place of the one that had it. -/
def put (name : String) (node : Node) : Entries → Entries
  | [] => [(name, node)]
  | (n, old) :: rest => if n = name then (name, node) :: rest else (n, old) :: put name node rest

/-- Takes a name out. -/
def remove (name : String) : Entries → Entries
  | [] => []
  | (n, node) :: rest => if n = name then remove name rest else (n, node) :: remove name rest

/-- The entry at a location; the directory itself is at the empty one. -/
def get? (entries : Entries) : Location → Option Node
  | [] => some (.directory entries)
  | name :: rest =>
    match find? name entries with
    | none => none
    | some (.directory inside) => get? inside rest
    | some node => if rest.isEmpty then some node else none

/-- Puts an entry at a location whose directory exists; anywhere else nothing happens. -/
def set (node : Node) (entries : Entries) : Location → Entries
  | [] => entries
  | [name] => put name node entries
  | name :: next :: rest =>
    match find? name entries with
    | some (.directory inside) => put name (.directory (set node inside (next :: rest))) entries
    | _ => entries

/-- Takes out the entry at a location and all below it. -/
def erase (entries : Entries) : Location → Entries
  | [] => entries
  | [name] => remove name entries
  | name :: next :: rest =>
    match find? name entries with
    | some (.directory inside) => put name (.directory (erase inside (next :: rest))) entries
    | _ => entries

/-! ## What the operations do to the view -/

theorem find?_put_self (name : String) (node : Node) (entries : Entries) :
    find? name (put name node entries) = some node := by
  induction entries with
  | nil => simp [put, find?]
  | cons e rest ih =>
    obtain ⟨n, old⟩ := e
    by_cases h : n = name <;> simp [put, find?, h, ih]

theorem find?_put_of_ne {name other : String} (hne : other ≠ name) (node : Node)
    (entries : Entries) : find? other (put name node entries) = find? other entries := by
  induction entries with
  | nil => simp [put, find?, Ne.symm hne]
  | cons e rest ih =>
    obtain ⟨n, old⟩ := e
    by_cases h : n = name
    · subst h; simp [put, find?, Ne.symm hne]
    · by_cases h' : n = other
      · subst h'; simp [put, find?, hne]
      · simp [put, find?, h, h', ih]

theorem find?_remove_self (name : String) (entries : Entries) :
    find? name (remove name entries) = none := by
  induction entries with
  | nil => rfl
  | cons e rest ih =>
    obtain ⟨n, old⟩ := e
    by_cases h : n = name <;> simp [remove, find?, h, ih]

theorem find?_remove_of_ne {name other : String} (hne : other ≠ name) (entries : Entries) :
    find? other (remove name entries) = find? other entries := by
  induction entries with
  | nil => rfl
  | cons e rest ih =>
    obtain ⟨n, old⟩ := e
    by_cases h : n = name
    · subst h; simp [remove, find?, Ne.symm hne, ih]
    · by_cases h' : n = other
      · subst h'; simp [remove, find?, hne]
      · simp [remove, find?, h, h', ih]

/-- The entry at a location, without what is below it. -/
def item? (entries : Entries) (loc : Location) : Option Entry := (get? entries loc).map Node.entry

theorem get?_cons (entries : Entries) (name : String) (rest : Location) :
    get? entries (name :: rest) =
      match find? name entries with
      | none => none
      | some (.directory inside) => get? inside rest
      | some node => if rest.isEmpty then some node else none := rfl

/-- What is put in a directory that exists is found there. -/
theorem get?_set_self (node : Node) (entries : Entries) (loc : Location) (name : String)
    {inside : Entries} (h : get? entries loc = some (.directory inside)) :
    get? (set node entries (loc ++ [name])) (loc ++ [name]) = some node := by
  induction loc generalizing entries with
  | nil => cases node <;> simp [set, get?, find?_put_self]
  | cons n rest ih =>
    have hset : ∀ e : Entries, find? n entries = some (.directory e) →
        set node entries ((n :: rest) ++ [name]) =
          put n (.directory (set node e (rest ++ [name]))) entries := by
      intro e he
      cases rest <;> simp [set, he]
    rw [get?_cons] at h
    split at h
    · cases h
    · rename_i e he
      rw [hset e he, List.cons_append, get?_cons, find?_put_self]
      exact ih e h
    · rename_i hd _
      split at h
      · cases h; exact absurd rfl (hd _)
      · cases h

/-- Putting an entry somewhere changes nothing that is not there or below. -/
theorem item?_set_of_notPrefix (node : Node) (entries : Entries) (loc other : Location)
    (h : ¬ loc <+: other) : item? (set node entries loc) other = item? entries other := by
  induction loc generalizing entries other with
  | nil => exact absurd (List.nil_prefix) h
  | cons n rest ih =>
    cases rest with
    | nil =>
      cases other with
      | nil => simp [item?, get?, set, Node.entry]
      | cons m others =>
        have hne : m ≠ n := fun e => h (by simp [e])
        simp [item?, get?_cons, set, find?_put_of_ne hne]
    | cons n' rest =>
      cases hf : find? n entries with
      | none => simp [set, hf]
      | some x =>
        cases x with
        | file c e => simp [set, hf]
        | link t => simp [set, hf]
        | directory inside =>
          have hset : set node entries (n :: n' :: rest) =
              put n (.directory (set node inside (n' :: rest))) entries := by simp [set, hf]
          rw [hset]
          cases other with
          | nil => simp [item?, get?, Node.entry]
          | cons m others =>
            by_cases hm : m = n
            · subst hm
              have h' : ¬ (n' :: rest) <+: others := fun p => h (by simpa using p)
              have := ih inside others h'
              simpa [item?, get?_cons, find?_put_self, hf] using this
            · simp [item?, get?_cons, find?_put_of_ne hm]

/-- Taking an entry out changes nothing that is not there or below. -/
theorem item?_erase_of_notPrefix (entries : Entries) (loc other : Location)
    (h : ¬ loc <+: other) : item? (erase entries loc) other = item? entries other := by
  induction loc generalizing entries other with
  | nil => exact absurd (List.nil_prefix) h
  | cons n rest ih =>
    cases rest with
    | nil =>
      cases other with
      | nil => simp [item?, get?, erase, Node.entry]
      | cons m others =>
        have hne : m ≠ n := fun e => h (by simp [e])
        simp [item?, get?_cons, erase, find?_remove_of_ne hne]
    | cons n' rest =>
      cases hf : find? n entries with
      | none => simp [erase, hf]
      | some x =>
        cases x with
        | file c e => simp [erase, hf]
        | link t => simp [erase, hf]
        | directory inside =>
          have hset : erase entries (n :: n' :: rest) =
              put n (.directory (erase inside (n' :: rest))) entries := by simp [erase, hf]
          rw [hset]
          cases other with
          | nil => simp [item?, get?, Node.entry]
          | cons m others =>
            by_cases hm : m = n
            · subst hm
              have h' : ¬ (n' :: rest) <+: others := fun p => h (by simpa using p)
              have := ih inside others h'
              simpa [item?, get?_cons, find?_put_self, hf] using this
            · simp [item?, get?_cons, find?_put_of_ne hm]

/-- Nothing is left at a location that was taken out. -/
theorem get?_erase_self (entries : Entries) (loc : Location) (h : loc ≠ []) :
    get? (erase entries loc) loc = none := by
  induction loc generalizing entries with
  | nil => exact absurd rfl h
  | cons n rest ih =>
    cases rest with
    | nil => simp [erase, get?_cons, find?_remove_self]
    | cons n' rest =>
      cases hf : find? n entries with
      | none => simp [erase, hf, get?_cons]
      | some x =>
        cases x with
        | file c e => simp [erase, hf, get?_cons]
        | link t => simp [erase, hf, get?_cons]
        | directory inside =>
          have := ih inside (by simp)
          simpa [erase, hf, get?_cons, find?_put_self] using this

end Entries

end Fleet

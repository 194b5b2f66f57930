import Fleet.FileSystem.Tree

namespace Fleet

/-! # What changed

Two trees compared entry by entry: what is new or different, and what is gone.
-/

mutual

/-- The entries at and below a node, with the locations they have below `loc`. -/
def Node.listing (loc : Location) : Node → List (Location × Entry)
  | .file content executable => [(loc, .file content executable)]
  | .link target => [(loc, .link target)]
  | .directory entries => (loc, .directory) :: Entries.listing loc entries

/-- The entries below a directory, with the locations they have below `loc`. -/
def Entries.listing (loc : Location) : List (String × Node) → List (Location × Entry)
  | [] => []
  | (name, node) :: rest => Node.listing (loc ++ [name]) node ++ Entries.listing loc rest

end

/-- What a location holds now, if it is not what it held before; `none` if it holds nothing. -/
structure Change where
  loc : Location
  now : Option Entry

/-- An entry as it is compared: whether a file can be run is not looked at. -/
def Entry.sameContent : Entry → Entry → Bool
  | .file a _, .file b _ => a == b
  | .link a, .link b => a == b
  | .directory, .directory => true
  | _, _ => false

/-- The changes between two directories, entry by entry. -/
def Entries.changes (before after : Entries) : List Change :=
  let gone := (Entries.listing [] before).filter fun (loc, _) => (after.get? loc).isNone
  let set := (Entries.listing [] after).filter fun (loc, entry) =>
    match before.item? loc with
    | none => true
    | some old => !old.sameContent entry
  gone.map (fun (loc, _) => ⟨loc, none⟩) ++ set.map fun (loc, entry) => ⟨loc, some entry⟩

end Fleet

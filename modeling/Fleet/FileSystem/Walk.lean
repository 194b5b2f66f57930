import Fleet.FileSystem.Tree
import Fleet.IoError
import Fleet.Path

namespace Fleet

/-! # Following a path

A path is followed name by name from the root or from the current directory.  Every name but the
last has to be a directory, or a symbolic link that leads to one; what the last name is decides
what can be done with it, so the walk ends in front of it, at a `Spot`.

A walk follows at most forty links, a name has at most 255 bytes and a path at most 4095.
-/

/-- The files as one program sees them: the whole tree, and the directory it stands in. -/
structure FileSystem where
  root : Entries := []
  cwd : Location := []

/-- The end of a walk. -/
inductive Spot where
  /-- A directory that was reached without a last name: by `/`, `.` or `..`. -/
  | inside (loc : Location)
  /-- A name in a directory, whether or not there is something under it. -/
  | named (dir : Location) (name : String)
  deriving DecidableEq, Repr

/-- The end of a walk, and whether the path asked for a directory by a slash at its end. -/
structure Route where
  spot : Spot
  slash : Bool
  deriving DecidableEq, Repr

/-- Where an entry is, or would be. -/
def Spot.location : Spot → Location
  | inside loc => loc
  | named dir name => dir ++ [name]

namespace FileSystem

/-- How many links one walk follows. -/
def maxLinks : Nat := 40

/-- How many bytes a name has at most. -/
def maxName : Nat := 255

/-- How many bytes a path has at most. -/
def maxPath : Nat := 4095

/-- The names of a path, without the empty ones. -/
def names (text : String) : List String :=
  ((Text.splitOn '/' text.toList).filter fun segment => !segment.isEmpty).map String.ofList

def endsInSlash (text : String) : Bool := text.toList.getLast? == some '/'

def startsAtRoot (text : String) : Bool := text.toList.head? == some '/'

/-- Follows names from a directory.  `jump` goes on behind a link: from where, with which names
and whether a directory is asked for.  A link under the last name is followed if `followLast`. -/
def walkNames (root : Entries) (jump : Location → List String → Bool → Except IoError Route)
    (followLast slash : Bool) : Location → List String → Except IoError Route
  | loc, [] => .ok ⟨.inside loc, slash⟩
  | loc, name :: rest =>
    if name = "." then walkNames root jump followLast slash loc rest
    else if name = ".." then walkNames root jump followLast slash loc.dropLast rest
    else if maxName < name.utf8ByteSize then .error .nameTooLong
    else match root.get? (loc ++ [name]) with
      | some (.link target) =>
        if rest.isEmpty && !followLast then .ok ⟨.named loc name, slash⟩
        else if target.isEmpty then .error .noEntry
        else
          -- the names of the link take its place, and are followed from where it stands
          jump (if startsAtRoot target then [] else loc) (names target ++ rest)
            (slash || (rest.isEmpty && endsInSlash target))
      | some (.directory _) =>
        if rest.isEmpty then .ok ⟨.named loc name, slash⟩
        else walkNames root jump followLast slash (loc ++ [name]) rest
      | some (.file _ _) =>
        if rest.isEmpty then .ok ⟨.named loc name, slash⟩ else .error .notDirectory
      | none =>
        if rest.isEmpty then .ok ⟨.named loc name, slash⟩ else .error .noEntry

/-- Follows names from a directory through at most `links` links. -/
def walk (root : Entries) (followLast : Bool) :
    Nat → Location → List String → Bool → Except IoError Route
  | 0, loc, names, slash =>
    walkNames root (fun _ _ _ => .error .linkLoop) followLast slash loc names
  | links + 1, loc, names, slash =>
    walkNames root (walk root followLast links) followLast slash loc names

/-- Why a path is refused before it is followed. -/
def refused? (p : Path) : Option IoError :=
  if p.text.toList.contains '\x00' then some .nulInPath
  else if p.text.isEmpty then some .noEntry
  else if maxPath < p.text.utf8ByteSize then some .nameTooLong
  else none

/-- Follows a path; a link under its last name is followed if `followLast`. -/
def route (fs : FileSystem) (followLast : Bool) (p : Path) : Except IoError Route :=
  match refused? p with
  | some e => .error e
  | none =>
    walk fs.root followLast maxLinks (if startsAtRoot p.text then [] else fs.cwd) (names p.text)
      (endsInSlash p.text)

/-- What stands at the end of a walk. -/
def arrive (fs : FileSystem) (r : Route) : Except IoError (Location × Node) :=
  match fs.root.get? r.spot.location with
  | none => .error .noEntry
  | some node =>
    if r.slash && !node.isDirectory then .error .notDirectory else .ok (r.spot.location, node)

/-- The entry a path leads to, every link followed. -/
def status (fs : FileSystem) (p : Path) : Except IoError (Location × Node) := do
  fs.arrive (← fs.route true p)

/-- The entry a path leads to; it may be a link. -/
def linkStatus (fs : FileSystem) (p : Path) : Except IoError (Location × Node) := do
  fs.arrive (← fs.route (endsInSlash p.text) p)

/-- There is something at the end of the path. -/
def isPresent (fs : FileSystem) (p : Path) : Bool :=
  match fs.status p with
  | .ok _ => true
  | .error _ => false

/-- There is a directory at the end of the path. -/
def isDirectory (fs : FileSystem) (p : Path) : Bool :=
  match fs.status p with
  | .ok (_, node) => node.isDirectory
  | .error _ => false

/-- The path from the root that names a location. -/
def pathOf (loc : Location) : Path := ⟨"/" ++ "/".intercalate loc⟩

/-- The path from the root, without links, to where a path leads. -/
def canonical (fs : FileSystem) (p : Path) : Except IoError Path := do
  return pathOf (← fs.status p).1

end FileSystem

end Fleet

import Fleet.FileSystem.Walk
import Fleet.Text.Utf8

namespace Fleet.FileSystem

/-! # Reading and changing files

Each operation follows its path, and either does its one change or refuses and changes nothing.
Making a directory with its parents is several such changes and can stop after some of them.
-/

/-- What a file holds. -/
def readFile (fs : FileSystem) (p : Path) : Except IoError ByteArray := do
  match ← fs.status p with
  | (_, .file content _) => .ok content
  | _ => .error .isDirectory

/-- What a text file holds. -/
def readText (fs : FileSystem) (p : Path) : Except IoError String := do
  match Text.decode? (← fs.readFile p) with
  | some text => .ok text
  | none => .error .notUtf8

/-- What a symbolic link says. -/
def readLink (fs : FileSystem) (p : Path) : Except IoError String := do
  match ← fs.linkStatus p with
  | (_, .link target) => .ok target
  | _ => .error .invalid

/-- The tree with a node put at a location. -/
def place (fs : FileSystem) (loc : Location) (node : Node) : FileSystem :=
  { fs with root := fs.root.set node loc }

/-- The tree without what is at a location. -/
def without (fs : FileSystem) (loc : Location) : FileSystem :=
  { fs with root := fs.root.erase loc }

/-- There is a directory at the location. -/
def hasDirectory (fs : FileSystem) (loc : Location) : Bool :=
  match fs.root.get? loc with
  | some node => node.isDirectory
  | none => false

/-- Puts something new under a name that is free. -/
def addNew (fs : FileSystem) (dir : Location) (name : String) (node : Node) :
    Except IoError FileSystem :=
  if fs.hasDirectory dir then .ok (fs.place (dir ++ [name]) node) else .error .noEntry

/-- Makes a file hold `content`, and makes the file if there is none. -/
def writeFile (fs : FileSystem) (p : Path) (content : ByteArray) : Except IoError FileSystem := do
  let r ← fs.route (!endsInSlash p.text) p
  match r.spot with
  | .inside _ => .error .isDirectory
  | .named dir name =>
    if r.slash then .error .isDirectory
    else match fs.root.get? (dir ++ [name]) with
      | none => fs.addNew dir name (.file content false)
      | some (.file _ executable) => .ok (fs.place (dir ++ [name]) (.file content executable))
      | some _ => .error .isDirectory

/-- Makes a file hold a text. -/
def writeText (fs : FileSystem) (p : Path) (text : String) : Except IoError FileSystem :=
  fs.writeFile p text.toUTF8

/-- Adds to the end of a file that exists. -/
def appendText (fs : FileSystem) (p : Path) (text : String) : Except IoError FileSystem := do
  match ← fs.status p with
  | (loc, .file content executable) =>
    .ok (fs.place loc (.file (content ++ text.toUTF8) executable))
  | _ => .error .isDirectory

/-- Makes a directory. -/
def makeDirectory (fs : FileSystem) (p : Path) : Except IoError FileSystem := do
  match (← fs.route false p).spot with
  | .inside _ => .error .alreadyExists
  | .named dir name =>
    match fs.root.get? (dir ++ [name]) with
    | some _ => .error .alreadyExists
    | none => fs.addNew dir name (.directory [])

/-- Makes the first of the paths a directory; the others are its ancestors, and those that are
missing are made before it. -/
def makeMissing (fs : FileSystem) : List Path → FileSystem × Except IoError Unit
  | [] => (fs, .ok ())
  | p :: above =>
    if p.text.isEmpty then (fs, .ok ())
    else match fs.makeDirectory p with
      | .ok made => (made, .ok ())
      | .error e =>
        if e = .noEntry then
          match fs.makeMissing above with
          | (made, .error e) => (made, .error e)
          | (made, .ok ()) =>
            match made.makeDirectory p with
            | .ok done => (done, .ok ())
            | .error e => (made, if made.isDirectory p then .ok () else .error e)
        else (fs, if fs.isDirectory p then .ok () else .error e)

/-- Makes a directory and those of its parents that are missing; one that exists is fine. -/
def makeDirectories (fs : FileSystem) (p : Path) : FileSystem × Except IoError Unit :=
  fs.makeMissing p.ancestors

/-- Takes out a file or a link. -/
def removeFile (fs : FileSystem) (p : Path) : Except IoError FileSystem := do
  let r ← fs.route false p
  match r.spot with
  | .inside _ => .error .isDirectory
  | .named dir name =>
    match fs.root.get? (dir ++ [name]) with
    | none => .error .noEntry
    | some (.directory _) => .error .isDirectory
    | some _ => if r.slash then .error .notDirectory else .ok (fs.without (dir ++ [name]))

/-- Takes out whatever is there, a directory with all it holds. -/
def removeTree (fs : FileSystem) (p : Path) : Except IoError FileSystem := do
  match (← fs.route false p).spot with
  | .inside loc => if loc.isEmpty then .error .busy else .ok (fs.without loc)
  | .named dir name =>
    match fs.root.get? (dir ++ [name]) with
    | none => .error .noEntry
    | some _ => .ok (fs.without (dir ++ [name]))

/-- Makes a symbolic link that says `target`. -/
def makeLink (fs : FileSystem) (target : String) (p : Path) : Except IoError FileSystem := do
  match refused? ⟨target⟩ with
  | some e => .error e
  | none =>
    let r ← fs.route false p
    match r.spot with
    | .inside _ => .error .alreadyExists
    | .named dir name =>
      match fs.root.get? (dir ++ [name]) with
      | some _ => .error .alreadyExists
      | none => if r.slash then .error .noEntry else fs.addNew dir name (.link target)

/-- What may take the place of what: a directory that of an empty one, anything else that of
anything but a directory. -/
def mayReplace : Node → Node → Except IoError Unit
  | .directory _, .directory inside => if inside.isEmpty then .ok () else .error .notEmpty
  | .directory _, _ => .error .notDirectory
  | _, .directory _ => .error .isDirectory
  | _, _ => .ok ()

/-- Moves what is at `source` to `target`, over what is there. -/
def rename (fs : FileSystem) (source target : Path) : Except IoError FileSystem := do
  let old ← fs.route false source
  let new ← fs.route false target
  match old.spot, new.spot with
  | .named oldDir oldName, .named newDir newName =>
    let oldLoc := oldDir ++ [oldName]
    let newLoc := newDir ++ [newName]
    match fs.root.get? oldLoc with
    | none => .error .noEntry
    | some node =>
      if !node.isDirectory && (old.slash || new.slash) then .error .notDirectory
      else if oldLoc = newLoc then .ok fs
      else if oldLoc.isPrefixOf newLoc then .error .invalid
      else if newLoc.isPrefixOf oldLoc then .error .notEmpty
      else match fs.root.get? newLoc with
        | some there =>
          mayReplace node there
          .ok ((fs.without oldLoc).place newLoc node)
        | none =>
          if fs.hasDirectory newDir then .ok ((fs.without oldLoc).place newLoc node)
          else .error .noEntry
  | _, _ => .error .busy

end Fleet.FileSystem

import Fleet.FileSystem.Operations

namespace Fleet.FileSystem

/-! # Bringing files about

Operations that do what they can and never fail: what they could not do is left as it was.
-/

/-- Makes a directory and its parents, as far as that can be done. -/
def ensureDirectory (fs : FileSystem) (p : Path) : FileSystem := (fs.makeDirectories p).1

/-- Makes a file and its parents, as far as that can be done. -/
def ensureFile (fs : FileSystem) (p : Path) (content : ByteArray) : FileSystem :=
  let fs := match p.parent? with
    | some dir => fs.ensureDirectory dir
    | none => fs
  match fs.writeFile p content with
  | .ok fs => fs
  | .error _ => fs

/-- Makes a link and its parents, as far as that can be done. -/
def ensureLink (fs : FileSystem) (p : Path) (target : String) : FileSystem :=
  let fs := match p.parent? with
    | some dir => fs.ensureDirectory dir
    | none => fs
  match fs.makeLink target p with
  | .ok fs => fs
  | .error _ => fs

/-- Makes a file one that can be run, if there is one. -/
def ensureExecutable (fs : FileSystem) (p : Path) : FileSystem :=
  match fs.status p with
  | .ok (loc, .file content _) => fs.place loc (.file content true)
  | _ => fs

/-- Takes out whatever is there, if there is anything. -/
def ensureGone (fs : FileSystem) (p : Path) : FileSystem :=
  match fs.removeTree p with
  | .ok fs => fs
  | .error _ => fs

end Fleet.FileSystem

import Fleet.ResultSet

namespace Fleet

/-! # The pointer to the latest result set

A pointer is a symbolic link to the directory of a result set, or a file that holds its path.  It is
moved by making the new link beside it, under a name of its own, and renaming that over it; so at
every moment there is either the old pointer or the new one.

A `Procedure` is a computation that changes files step by step, and `Procedure.states` are the files
as they are before and after each step: what is left if the computation is cut off.
-/

/-- One change of the files. -/
inductive FileStep where
  | remove (p : Path)
  | link (target : String) (p : Path)
  | rename (source target : Path)
  deriving DecidableEq, Repr

/-- Does one change; if it is refused nothing changes. -/
def FileStep.perform (fs : FileSystem) : FileStep → FileSystem × Except IoError Unit
  | remove p => settle (fs.removeFile p)
  | link target p => settle (fs.makeLink target p)
  | rename source target => settle (fs.rename source target)
where
  /-- The files after a change, or as they were. -/
  settle : Except IoError FileSystem → FileSystem × Except IoError Unit
    | .ok changed => (changed, .ok ())
    | .error e => (fs, .error e)

/-- A computation that changes files step by step. -/
inductive Procedure (α : Type) where
  | finished (a : α)
  | step (s : FileStep) (next : Except IoError Unit → Procedure α)

namespace Procedure

variable {α : Type}

/-- The files and the result at the end. -/
def run : Procedure α → FileSystem → FileSystem × α
  | finished a, fs => (fs, a)
  | step s next, fs =>
    let (fs, done) := s.perform fs
    (next done).run fs

/-- The files before and after each step. -/
def states : Procedure α → FileSystem → List FileSystem
  | finished _, fs => [fs]
  | step s next, fs => fs :: (let (after, done) := s.perform fs; (next done).states after)

end Procedure

namespace LatestPointer

/-- The name of a pointer whose path has none. -/
def defaultName : String := "latest_results"

/-- The path under which a new pointer is made, beside the old one. -/
def staging (pid : Nat) (pointer : Path) : Path :=
  pointer.withFileName
    ("." ++ pointer.fileName?.getD defaultName ++ "." ++ toString pid ++ ".tmp")

/-- The steps that make a pointer point to a result set. -/
def updating (pid : Nat) (s : ResultSet) (pointer : Path) : Procedure (Except Error Unit) :=
  let staging := staging pid pointer
  .step (.remove staging) fun removed =>
    match removed with
    | .error e => if e = .noEntry then linking staging else .finished (.error (.recorder staging e))
    | .ok () => linking staging
where
  /-- Makes the new link and moves it; if it cannot be moved, takes it away. -/
  linking (staging : Path) : Procedure (Except Error Unit) :=
    .step (.link s.root.text staging) fun
      | .error e => .finished (.error (.recorder staging e))
      | .ok () =>
        .step (.rename staging pointer) fun
          | .ok () => .finished (.ok ())
          | .error e => .step (.remove staging) fun _ => .finished (.error (.recorder pointer e))

/-- Makes a pointer point to a result set. -/
def update (pid : Nat) (s : ResultSet) (pointer : Path) (fs : FileSystem) :
    FileSystem × Except Error Unit :=
  (updating pid s pointer).run fs

/-- What a pointer says, which may be relative to its directory. -/
def targetText (fs : FileSystem) (pointer : Path) : Except Error String :=
  match fs.linkStatus pointer with
  | .error e => .error (if e = .noEntry then .noPreviousResults pointer else .io e)
  | .ok (_, .link target) => .ok target
  | .ok _ =>
    match fs.readText pointer with
    | .ok text => .ok (Error.trimmedEnd text)
    | .error e => .error (.io e)

/-- What a pointer says, as a path from where the pointer is. -/
def anchored (pointer : Path) (target : String) : Path :=
  match pointer.parent? with
  | some parent => parent / target
  | none => ⟨target⟩

/-- The result set that a pointer points to. -/
def resolve (fs : FileSystem) (pointer : Path) : Except Error ResultSet := do
  let target := anchored pointer (← targetText fs pointer)
  if fs.isDirectory target then .ok ⟨target⟩ else .error (.noPreviousResults pointer)

end LatestPointer

end Fleet

import Fleet.Display
import Fleet.LatestPointer

namespace Fleet

/-! # Selections

A run targets the repositories of a list, or those that succeeded or failed in the run before.
-/

/-- Which repositories a run targets. -/
inductive Selection where
  /-- those of the given list, or of the campaign's own -/
  | all (reposFile : Option Path)
  /-- those in a bucket of the latest result set -/
  | previous (bucket : Bucket)
  deriving DecidableEq, Repr

namespace Selection

/-- The selection that three choices make, of which one may be taken. -/
def ofFlags (reposFile : Option Path) (successful failed : Bool) : Except Error Selection :=
  let chosen := reposFile.isSome.toNat + successful.toNat + failed.toNat
  if 1 < chosen then
    .error (.usage "only one of --repos, --successful and --failed may be used")
  else if successful then .ok (.previous .successful)
  else if failed then .ok (.previous .failed)
  else .ok (.all reposFile)

/-- The line that tells which list is used instead of the campaign's own. -/
def substitution (bucket : Bucket) (list : Path) : String :=
  "Using the " ++ bucket.name ++ " repositories from the previous run: " ++ list.text

/-- The list of repositories to be read.  One of the latest result set is told on the display. -/
def resolve (s : Selection) (fs : FileSystem) (defaultList pointer : Path) (display : Sink) :
    Sink × Except Error Path :=
  match s with
  | .all reposFile => (display, .ok (reposFile.getD defaultList))
  | .previous bucket =>
    match LatestPointer.resolve fs pointer with
    | .error e => (display, .error e)
    | .ok set =>
      let list := set.bucketList bucket
      match display.writeLine (substitution bucket list) with
      | (display, .error e) => (display, .error (.io e))
      | (display, .ok ()) => (display, .ok list)

end Selection

end Fleet

import Fleet.Shell.FileUtility
import Fleet.Shell.Group

namespace Fleet.Shell

/-! # From words to fields

An expanded word is a list of marks: its characters, which may be quoted, and what else says where
fields begin and end.  `fieldsOf` cuts it into fields, and `paths?` finds the paths that a field
matches.
-/

/-- A piece of an expanded word. -/
inductive Mark where
  /-- a character; `splits` if it may separate fields -/
  | char (c : Char) (quoted splits : Bool)
  /-- a quotation mark: there is a field, even if there is nothing in it -/
  | quote
  /-- the end of a field, whatever stands beside it -/
  | cut
  /-- the end of what one expansion has put there; `hard` if its fields have ends of their own -/
  | edge (hard : Bool)
  deriving DecidableEq, Repr

/-- A character of a field, and whether it is quoted. -/
abbrev Marked := Char × Bool

namespace Mark

/-- The character that separates parameters which are not quoted. -/
def separator : Char := '\x00'

/-- A character is white space that separates fields. -/
def isGap (c : Char) : Bool := c == ' ' || c == '\t' || c == '\n' || c == separator

/-- A mark separates fields. -/
def separates (ifs : List Char) : Mark → Bool
  | char c _ true => c == separator || ifs.contains c
  | _ => false

/-- A field that is being collected, latest first; quotation marks count as something in it. -/
structure Draft where
  taken : List Marked := []
  marked : Bool := false

/-- There is something in the field. -/
def Draft.isThere (d : Draft) : Bool := d.marked || !d.taken.isEmpty

/-- The field. -/
def Draft.done (d : Draft) : List Marked := d.taken.reverse

/-- Passes what separates two fields: white space, and one other separator if the first was white
space. -/
def skip (ifs : List Char) : Bool → List Mark → List Mark
  | _, [] => []
  | afterGap, m :: rest =>
    if !m.separates ifs then m :: rest
    else match m with
      | char c _ _ =>
        if isGap c then skip ifs afterGap rest
        else if afterGap then skip ifs false rest
        else m :: rest
      | _ => m :: rest

theorem length_skip (ifs : List Char) (afterGap : Bool) (ms : List Mark) :
    (skip ifs afterGap ms).length ≤ ms.length := by
  fun_induction skip ifs afterGap ms <;> simp_all <;> omega

/-- The fields of an expanded word; `hard` says that the last expansion has ended fields itself. -/
def fieldsFrom (ifs : List Char) (hard : Bool) (d : Draft) : List Mark → List (List Marked)
  | [] => if d.isThere || hard then [d.done] else []
  | quote :: rest => fieldsFrom ifs hard { d with marked := true } rest
  | cut :: rest => d.done :: fieldsFrom ifs hard {} rest
  | edge hard :: rest => fieldsFrom ifs hard d rest
  | char c q s :: rest =>
    if (char c q s).separates ifs then
      if !d.isThere && isGap c then fieldsFrom ifs hard d rest
      else
        have := length_skip ifs (isGap c) rest
        d.done :: fieldsFrom ifs hard {} (skip ifs (isGap c) rest)
    else fieldsFrom ifs hard { d with taken := (c, q) :: d.taken } rest
termination_by ms => ms.length

/-- The fields of an expanded word. -/
def fieldsOf (ifs : String) (ms : List Mark) : List (List Marked) :=
  fieldsFrom ifs.toList false {} ms

/-- An expanded word as it stands, without looking for fields. -/
def textOf (ms : List Mark) : List Marked :=
  ms.filterMap fun
    | char c q _ => if c == separator then none else some (c, q)
    | _ => none

end Mark

/-- The text of a field. -/
def plain (cs : List Marked) : String := String.ofList (cs.map (·.1))

/-! ## Paths -/

/-- How the paths are looked for that a field matches. -/
structure Globbing where
  /-- the two names that every directory has are never found -/
  extended : Bool := false
  /-- patterns may have groups -/
  grouping : Bool := false
  /-- a point at the start of a name is a character like any other -/
  hidden : Bool := false
  /-- two stars alone stand for any number of directories -/
  deep : Bool := false
  /-- large and small letters are alike -/
  ignoresCase : Bool := false

namespace Field

/-- The names in a directory that a pattern matches. -/
def namesLike (o : Globbing) (fs : FileSystem) (dir : Path) (pattern : Shapes) : List String :=
  match fs.status dir with
  | .ok (_, .directory entries) =>
    let isHidden := pattern.startsWithPoint
    let names := FileUtility.namesIn entries
    (if isHidden && !o.extended then "." :: ".." :: names else names).filter fun name =>
      (isHidden || o.hidden || name.toList.head? != some '.') &&
        pattern.accepts (if o.ignoresCase then name.toLower else name)
  | _ => []

/-- A name in a directory, which is written in front of it. -/
def below (dir : Path) (name : String) : Path :=
  if dir.text.isEmpty || FileSystem.endsInSlash dir.text then ⟨dir.text ++ name⟩
  else ⟨dir.text ++ "/" ++ name⟩

/-- The directory that a path names, where no path is the directory one is in. -/
def here (dir : Path) : Path := if dir.text.isEmpty then ⟨"."⟩ else dir

/-- What lies in a directory and in the directories in it, of which `n` stand in each other. -/
def allBelow (o : Globbing) (fs : FileSystem) : Nat → Path → List (Path × Bool)
  | 0, _ => []
  | n + 1, dir =>
    (namesLike o fs (here dir) [.plain [.anyText]]).flatMap fun name =>
      let p := below dir name
      match fs.linkStatus p with
      | .ok (_, .directory _) => (p, true) :: allBelow o fs n p
      | _ => [(p, false)]

/-- How many directories stand in each other at most. -/
def maxDepth : Nat := 1000

/-- The paths that a pattern matches, step by step. -/
def pathsLike (o : Globbing) (fs : FileSystem) : Path → List (List Marked) → List Path
  | dir, [] => [dir]
  | dir, step :: rest =>
    let letters := if o.ignoresCase then step.map fun (c, q) => (c.toLower, q) else step
    let pattern := Shapes.read o.grouping letters
    if o.deep && step == [('*', false), ('*', false)] then
      let inside := allBelow o fs maxDepth dir
      match rest with
      | [] =>
        (if dir.text.isEmpty then [] else [⟨dir.text ++ "/"⟩]) ++ inside.map (·.1)
      | rest =>
        let dirs := (inside.filter (·.2)).map (·.1)
        let behind := dirs.flatMap fun p => pathsLike o fs p rest
        if rest == [[]] && dir.text.isEmpty then behind
        else pathsLike o fs dir rest ++ behind
    else if pattern.isActive then
      (namesLike o fs (here dir) pattern).flatMap fun name => pathsLike o fs (below dir name) rest
    else pathsLike o fs (if step.isEmpty then ⟨dir.text ++ "/"⟩ else below dir (plain step)) rest

/-- The paths that a field matches, in order; `none` if it is no pattern. -/
def paths? (o : Globbing) (fs : FileSystem) (field : List Marked) : Option (List String) :=
  if (Shapes.read o.grouping field).isActive then
    let steps := Text.splitOn ('/', false) (field.map fun (c, q) => (c, q && c != '/'))
    let found := (pathsLike o fs ⟨""⟩ steps).filter fun p => (fs.linkStatus p).toOption.isSome
    some (Bytes.sorted (found.map Path.text))
  else none

end Field

end Fleet.Shell

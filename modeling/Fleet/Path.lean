import Fleet.Text.Lines

namespace Fleet

/-! # Paths

A path is a text in which `/` separates names.  Joining is textual and nothing is tidied up: `.`,
`..` and repeated slashes stay as they are written.  Looking *into* a path (its components, its
parent, its file name) ignores repeated and trailing slashes and every `.` but a leading one.
-/

/-- A path, as it is written. -/
structure Path where
  text : String
  deriving DecidableEq, Repr, Inhabited

namespace Path

/-- One step of a path. -/
inductive Component where
  /-- the leading `/` -/
  | root
  /-- a leading `.` -/
  | here
  /-- `..` -/
  | up
  | name (text : String)
  deriving DecidableEq, Repr

def isAbsolute (p : Path) : Bool := p.text.toList.head? == some '/'

/-- `p/q` as text; an absolute `q` stands alone, and so does any `q` after the empty path. -/
def join (p : Path) (q : String) : Path :=
  if q.toList.head? == some '/' then ⟨q⟩
  else if p.text.isEmpty then ⟨q⟩
  else if p.text.toList.getLast? == some '/' then ⟨p.text ++ q⟩
  else ⟨p.text ++ "/" ++ q⟩

instance : HDiv Path String Path := ⟨join⟩

/-- The names between the slashes, the empty ones included. -/
def segments (p : Path) : List (List Char) := Text.splitOn '/' p.text.toList

/-- An inner segment that leads nowhere. -/
def isIdle (segment : List Char) : Bool := segment.isEmpty || segment == ['.']

/-- How a path begins. -/
inductive Lead where
  | root
  | here
  | plain
  deriving DecidableEq, Repr

/-- The beginning of a path and the segments after it. -/
def leadAndBody (p : Path) : Lead × List (List Char) :=
  match p.segments with
  -- a slash in front leaves an empty first segment
  | [] :: second :: rest => (.root, second :: rest)
  | ['.'] :: rest => (.here, rest)
  | body => (.plain, body)

/-- What an inner segment does, unless it is idle. -/
def inner? (segment : List Char) : Option Component :=
  if isIdle segment then none
  else if segment == ['.', '.'] then some .up
  else some (.name (String.ofList segment))

/-- The steps of a path. -/
def components (p : Path) : List Component :=
  match p.leadAndBody with
  | (.root, body) => .root :: body.filterMap inner?
  | (.here, body) => .here :: body.filterMap inner?
  | (.plain, body) => body.filterMap inner?

/-- Two paths with the same steps. -/
def sameSteps (p q : Path) : Bool := p.components == q.components

/-- Segments without the idle ones at the end. -/
def dropIdleEnd (body : List (List Char)) : List (List Char) :=
  (body.reverse.dropWhile isIdle).reverse

/-- The path with the given beginning and segments. -/
def assemble (lead : Lead) (body : List (List Char)) : Path :=
  let rest := Text.joinWith '/' body
  ⟨String.ofList <| match lead with
    | .root => '/' :: rest
    | .here => if body.isEmpty then ['.'] else '.' :: '/' :: rest
    | .plain => rest⟩

/-- A path without its last step; none if it has no step, or only the leading `/`. -/
def parent? (p : Path) : Option Path :=
  let (lead, body) := p.leadAndBody
  match (dropIdleEnd body).reverse with
  | [] => if lead = .here then some ⟨""⟩ else none
  | _ :: front => some (assemble lead (dropIdleEnd front.reverse))

/-- The last step, if it is a name. -/
def fileName? (p : Path) : Option String :=
  match (dropIdleEnd p.leadAndBody.2).getLast? with
  | none => none
  | some segment => if segment == ['.', '.'] then none else some (String.ofList segment)

/-- Another name in the place of the last one; below the path itself if it has none. -/
def withFileName (p : Path) (name : String) : Path :=
  match p.fileName?, p.parent? with
  | some _, some parent => parent / name
  | _, _ => p / name

/-- The path and its parents, at most `n` of them above it. -/
def ancestorsUpTo : Nat → Path → List Path
  | 0, p => [p]
  | n + 1, p => p :: match p.parent? with
    | none => []
    | some q => ancestorsUpTo n q

/-- The path, its parent, the parent's parent and so on. -/
def ancestors (p : Path) : List Path := ancestorsUpTo p.text.length p

end Path

end Fleet

import Fleet.Shell.Bytes
import Fleet.Shell.Invocation
import Fleet.Shell.Permission

namespace Fleet.Shell

/-! # Utilities that change files

The programs that make, move and remove files, and those that list them.  Each does its work word
after word, and a word that it cannot do anything with makes a complaint.
-/

namespace FileUtility

/-- A name as complaints show it, always in quotation marks. -/
def inQuotes (name : String) : String :=
  let shown := Invocation.shown name
  if shown = name then Options.quoted name else shown

/-- What was done for one word: the files, and what was said about it, to the error stream or
not. -/
structure Step where
  files : FileSystem
  output : List (Bool × List UInt8) := []

/-- Nothing was said. -/
def Step.quiet (files : FileSystem) : Step := { files }

/-- Something was said about what was done. -/
def Step.told (files : FileSystem) (shows : Bool) (text : String) : Step :=
  { files, output := if shows then [(false, Text.encode (text ++ "\n"))] else [] }

/-- Nothing was done, and the reason was told. -/
def Step.refused (i : Invocation) (files : FileSystem) (text : String) : Step :=
  { files, output := [i.complaint text] }

/-- One step after another. -/
def Step.also (s : Step) (next : FileSystem → Step) : Step :=
  let t := next s.files
  { t with output := s.output ++ t.output }

/-- Steps for one word after the other. -/
def steps {α : Type} (files : FileSystem) (words : List α) (step : FileSystem → α → Step) : Step :=
  words.foldl (fun s word => s.also fun files => step files word) (.quiet files)

/-- A program that took these steps. -/
def Step.ended (s : Step) (bad : Nat := 1) : Ended :=
  { output := s.output
    status := .exited (if s.output.any fun (isError, _) => isError then bad else 0)
    files := s.files }

/-- A program that takes a step for every word. -/
def overWords (i : Invocation) (words : List String) (step : FileSystem → String → Step) : Ended :=
  (steps i.files words step).ended

/-- The files after a change, or the reason why there was none. -/
def settled (i : Invocation) (files : FileSystem) (complaint : String) (text : Option String) :
    Except IoError FileSystem → Step
  | .ok after => .told after text.isSome (text.getD "")
  | .error e => .refused i files (complaint ++ ": " ++ reason e)

/-! ## Making -/

/-- The program `touch`: makes the files that are not there. -/
def touch (i : Invocation) : Ended :=
  i.withOptions {
      alone := "acmfh"
      valued := "tdr"
      long := [("no-create", 'c'), ("date", 'd'), ("reference", 'r'), ("no-dereference", 'h')] }
    fun o =>
      if o.words.isEmpty then i.missing "file operand"
      else overWords i o.words fun files word =>
        if files.isPresent ⟨word⟩ || (o.has 'c' && !FileSystem.endsInSlash word) then .quiet files
        else
          let slashed := FileSystem.endsInSlash word
          let complaint :=
            (if slashed then "setting times of " else "cannot touch ") ++ inQuotes word
          if slashed then
            let cause := match files.status ⟨word⟩ with
              | .error e => e
              | .ok _ => .noEntry
            .refused i files (complaint ++ ": " ++ reason cause)
          else settled i files complaint none (files.writeText ⟨word⟩ "")

/-- The paths of the directories on the way to a path, and that path. -/
def waysTo (word : String) : List String :=
  let cs := word.toList
  let cuts := (List.range cs.length).filter fun k =>
    0 < k && cs[k]? == some '/' && cs[k - 1]? != some '/'
  let fronts := cuts.map fun k => String.ofList (cs.take k)
  if FileSystem.endsInSlash word && !fronts.isEmpty then fronts else fronts ++ [word]

/-- The program `mkdir`: makes directories, with `-p` also those above them. -/
def makeDirectory (i : Invocation) : Ended :=
  i.withOptions {
      alone := "pv"
      valued := "m"
      long := [("parents", 'p'), ("verbose", 'v'), ("mode", 'm')] } fun o =>
    if o.words.isEmpty then i.missing "operand"
    else
      let make (files : FileSystem) (word : String) : Step :=
        settled i files ("cannot create directory " ++ inQuotes word)
          (if o.has 'v' then some ("mkdir: created directory " ++ inQuotes word) else none)
          (files.makeDirectory ⟨word⟩)
      overWords i o.words fun files word =>
        if o.has 'p' then
          let ways := waysTo word
          (ways.foldl (fun ((s, on) : Step × Bool) way =>
            if !on || s.files.isDirectory ⟨way⟩ then (s, on)
            else
              let next := make s.files way
              let next : Step :=
                if (next.output.any fun (isError, _) => isError) && way != ways.getLastD "" then
                  match s.files.status ⟨way⟩ with
                  | .ok _ => .refused i s.files ("cannot create directory " ++ inQuotes way ++
                      ": " ++ reason .notDirectory)
                  | .error _ => next
                else next
              ({ next with output := s.output ++ next.output },
                !(next.output.any fun (isError, _) => isError)))
            (Step.quiet files, true)).1
        else make files word

/-! ## Removing -/

/-- Takes out an empty directory. -/
def removeEmpty (files : FileSystem) (p : Path) : Except IoError FileSystem :=
  match files.linkStatus p with
  | .ok (_, .directory inside) => if inside.isEmpty then files.removeTree p else .error .notEmpty
  | .ok _ => .error .notDirectory
  | .error e => .error e

/-- The program `rmdir`: removes empty directories. -/
def removeDirectory (i : Invocation) : Ended :=
  i.withOptions {
      alone := "pvI"
      long := [("parents", 'p'), ("verbose", 'v'), ("ignore-fail-on-non-empty", 'I')] } fun o =>
    if o.words.isEmpty then i.missing "operand"
    else
      let remove (s : Step) (word : String) : Step :=
        if s.output.any fun (isError, _) => isError then s
        else
          let told := if o.has 'v' then [(false, Text.encode
            ("rmdir: removing directory, " ++ inQuotes word ++ "\n"))] else []
          let next : Step := match removeEmpty s.files ⟨word⟩ with
            | .ok files => .quiet files
            | .error e =>
              if o.has 'I' && e = .notEmpty then .quiet s.files
              else .refused i s.files ("failed to remove " ++ inQuotes word ++ ": " ++ reason e)
          { next with output := s.output ++ told ++ next.output }
      overWords i o.words fun files word =>
        let ways := if o.has 'p' then (waysTo word).reverse else [word]
        ways.foldl remove (.quiet files)

mutual

/-- What is told of the removal of everything below an entry, and of it. -/
def removals (word : String) : Node → List String
  | .directory entries => removalsIn word entries ++ ["removed directory " ++ inQuotes word]
  | _ => ["removed " ++ inQuotes word]

/-- What is told of the removal of entries. -/
def removalsIn (word : String) : List (String × Node) → List String
  | [] => []
  | (name, node) :: rest => removals (word ++ "/" ++ name) node ++ removalsIn word rest

end

/-- The program `rm`: removes files, with `-r` also directories with what they hold. -/
def remove (i : Invocation) : Ended :=
  i.withOptions {
      alone := "dfirRvI"
      long := [("force", 'f'), ("recursive", 'r'), ("dir", 'd'), ("verbose", 'v')] } fun o =>
    if o.words.isEmpty then (if o.has 'f' then i.ends 0 else i.missing "operand")
    else overWords i o.words fun files word =>
      let complaint := "cannot remove " ++ inQuotes word
      let deep := o.has 'r' || o.has 'R'
      let shows := o.has 'v'
      match files.linkStatus ⟨word⟩ with
      | .error e =>
        if o.has 'f' && (e = .noEntry || e = .notDirectory) then .quiet files
        else .refused i files (complaint ++ ": " ++ reason e)
      | .ok (_, node) =>
        let told := "\n".intercalate (removals word node)
        if !node.isDirectory then
          settled i files complaint (if shows then some told else none) (files.removeFile ⟨word⟩)
        else if deep then
          let name := String.ofList
            (((Text.splitOn '/' (Text.dropEndWhile (· == '/') word.toList)).getLast?).getD [])
          if name = "." || name = ".." then
            .refused i files ("refusing to remove '.' or '..' directory: skipping " ++
              inQuotes word)
          else
            settled i files complaint (if shows then some told else none) (files.removeTree ⟨word⟩)
        else if o.has 'd' then
          settled i files complaint (if shows then some told else none) (removeEmpty files ⟨word⟩)
        else .refused i files (complaint ++ ": " ++ reason .isDirectory)

/-- The program `unlink`: removes one file. -/
def unlink (i : Invocation) : Ended :=
  match i.args with
  | [] => i.missing "operand"
  | [word] => overWords i [word] fun files word =>
      settled i files ("cannot unlink " ++ inQuotes word) none (files.removeFile ⟨word⟩)
  | _ :: extra :: _ => i.misused ("extra operand " ++ inQuotes extra)

/-! ## Copying and moving -/

/-- Where something goes that is moved or copied to a target: into it if it is a directory. -/
def destination (files : FileSystem) (source target : String) : Path :=
  if files.isDirectory ⟨target⟩ then Path.mk target / ((Path.mk source).fileName?.getD source)
  else ⟨target⟩

/-- A program whose last word is the target and whose other words are the sources; an option may say
that the target is a directory that is named by it, or that it is none. -/
def toTarget (i : Invocation) (o : Options) (step : FileSystem → String → Path → Step) : Ended :=
  match o.value? 't', o.words with
  | some target, words =>
    if words.isEmpty then i.missing "file operand"
    else if i.files.isDirectory ⟨target⟩ then
      overWords i words fun files word => step files word (destination files word target)
    else i.complained ("target directory " ++ inQuotes target ++ ": " ++
      match i.files.status ⟨target⟩ with
      | .error e => reason e
      | .ok _ => reason .notDirectory)
  | none, [] => i.missing "file operand"
  | none, [one] => i.missing ("destination file operand after " ++ inQuotes one)
  | none, words =>
    let target := words.getLastD ""
    if o.has 'T' then overWords i words.dropLast fun files word => step files word ⟨target⟩
    else if 2 < words.length && !i.files.isDirectory ⟨target⟩ then
      i.complained ("target " ++ inQuotes target ++ ": " ++
        match i.files.status ⟨target⟩ with
        | .error e => reason e
        | .ok _ => reason .notDirectory)
    else overWords i words.dropLast fun files word =>
      step files word (destination files word target)

/-- Two paths lead to the same entry. -/
def isSame (files : FileSystem) (p q : Path) : Bool :=
  match files.status p, files.status q with
  | .ok (a, _), .ok (b, _) => a == b
  | _, _ => false

/-- Copies one file over what is there. -/
def copyFile (i : Invocation) (files : FileSystem) (dest : Path) (content : ByteArray)
    (executable : Bool) (text : Option String) : Step :=
  match files.status dest with
  | .ok (_, .directory _) => .refused i files
      ("cannot overwrite directory " ++ inQuotes dest.text ++ " with non-directory")
  | there =>
    let complaint := "cannot create regular file " ++ inQuotes dest.text
    match files.writeFile dest content with
    | .error e =>
      let e := if FileSystem.endsInSlash dest.text then .notDirectory else e
      .refused i files (complaint ++ ": " ++ reason e)
    | .ok made =>
      match there, made.status dest with
      | .error _, .ok (loc, _) =>
        .told (made.place loc (.file content executable)) text.isSome (text.getD "")
      | _, _ => .told made text.isSome (text.getD "")

mutual

/-- Copies what is below an entry and the entry itself. -/
def copyNode (i : Invocation) (shows : Bool) (source : String) (dest : Path) :
    Node → FileSystem → Step
  | .file content executable, files =>
    copyFile i files dest content executable
      (if shows then some (inQuotes source ++ " -> " ++ inQuotes dest.text) else none)
  | .link target, files =>
    let cleared := ((files.removeFile dest).toOption).getD files
    settled i files ("cannot create symbolic link " ++ inQuotes dest.text)
      (if shows then some (inQuotes source ++ " -> " ++ inQuotes dest.text) else none)
      (cleared.makeLink target dest)
  | .directory entries, files =>
    if files.isDirectory dest then copyEntries i shows source dest entries files
    else
      match files.makeDirectory dest with
      | .error e =>
        .refused i files (if files.isPresent dest then
            "cannot overwrite non-directory " ++ inQuotes dest.text ++ " with directory " ++
              inQuotes source
          else "cannot create directory " ++ inQuotes dest.text ++ ": " ++ reason e)
      | .ok made =>
        (Step.told made shows (inQuotes source ++ " -> " ++ inQuotes dest.text)).also
          (copyEntries i shows source dest entries)

/-- Copies entries into a directory. -/
def copyEntries (i : Invocation) (shows : Bool) (source : String) (dest : Path) :
    List (String × Node) → FileSystem → Step
  | [], files => .quiet files
  | (name, node) :: rest, files =>
    (copyNode i shows (source ++ "/" ++ name) (dest / name) node files).also
      (copyEntries i shows source dest rest)

end

/-- The program `cp`: copies files, with `-r` also directories. -/
def copy (i : Invocation) : Ended :=
  i.withOptions {
      alone := "abdfHilLnPpRrsTuvx"
      valued := "tS"
      long := [("recursive", 'r'), ("archive", 'a'), ("force", 'f'), ("no-clobber", 'n'),
        ("target-directory", 't'), ("no-target-directory", 'T'), ("verbose", 'v')] } fun o =>
    let deep := ['r', 'R', 'a'].any o.has
    let shows := o.has 'v'
    let warning := if o.has 'n' then
        [i.complaint ("warning: behavior of -n is non-portable and may change in future; " ++
          "use --update=none instead")]
      else []
    let ended := toTarget i o fun files source dest =>
      let found := if deep && !o.has 'L' then files.linkStatus ⟨source⟩ else files.status ⟨source⟩
      match found with
      | .error e => .refused i files ("cannot stat " ++ inQuotes source ++ ": " ++ reason e)
      | .ok (loc, .directory inside) =>
        let into : Option Location := match (dest.parent?).map files.status with
          | some (.ok (above, _)) => some above
          | _ => none
        if !deep then
          .refused i files ("-r not specified; omitting directory " ++ inQuotes source)
        else if isSame files ⟨source⟩ dest || into.any fun above => loc.isPrefixOf above then
          .refused i files ("cannot copy a directory, " ++ inQuotes source ++ ", into itself, " ++
            inQuotes dest.text)
        else copyNode i shows source dest (.directory inside) files
      | .ok (_, node) =>
        if isSame files ⟨source⟩ dest then
          .refused i files (inQuotes source ++ " and " ++ inQuotes dest.text ++
            " are the same file")
        else if o.has 'n' && files.isPresent dest then .quiet files
        else copyNode i shows source dest node files
    { ended with output := warning ++ ended.output }

/-- The program `mv`: moves entries to another name or into a directory. -/
def move (i : Invocation) : Ended :=
  i.withOptions {
      alone := "bfinTuv"
      valued := "tS"
      long := [("force", 'f'), ("no-clobber", 'n'), ("target-directory", 't'),
        ("no-target-directory", 'T'), ("verbose", 'v')] } fun o =>
    toTarget i o fun files source dest =>
      match files.linkStatus ⟨source⟩ with
      | .error e => .refused i files ("cannot stat " ++ inQuotes source ++ ": " ++ reason e)
      | .ok (loc, node) =>
        let there := files.linkStatus dest
        let text := inQuotes source ++ " to " ++ inQuotes dest.text
        if o.has 'n' && there.toOption.isSome then
          .refused i files ("not replacing " ++ inQuotes dest.text)
        else match there with
          | .ok (other, old) =>
            if other = loc then
              .refused i files (inQuotes source ++ " and " ++ inQuotes dest.text ++
                " are the same file")
            else if node.isDirectory && loc.isPrefixOf other then
              .refused i files ("cannot move " ++ inQuotes source ++
                " to a subdirectory of itself, " ++ inQuotes dest.text)
            else if node.isDirectory && !old.isDirectory then
              .refused i files ("cannot overwrite non-directory " ++ inQuotes dest.text ++
                " with directory " ++ inQuotes source)
            else if !node.isDirectory && old.isDirectory then
              .refused i files ("cannot overwrite directory " ++ inQuotes dest.text ++
                " with non-directory")
            else settled i files ("cannot overwrite " ++ inQuotes dest.text)
              (if o.has 'v' then some ("renamed " ++ inQuotes source ++ " -> " ++
                inQuotes dest.text) else none)
              (files.rename ⟨source⟩ dest)
          | .error _ =>
            match files.rename ⟨source⟩ dest with
            | .ok after =>
              .told after (o.has 'v') ("renamed " ++ inQuotes source ++ " -> " ++
                inQuotes dest.text)
            | .error e =>
              .refused i files (
                if e = .invalid then "cannot move " ++ inQuotes source ++
                  " to a subdirectory of itself, " ++ inQuotes dest.text
                else "cannot move " ++ text ++ ": " ++ reason
                  (if FileSystem.endsInSlash dest.text then .notDirectory else e))

/-- The program `ln`: gives files more names, with `-s` by symbolic links. -/
def link (i : Invocation) : Ended :=
  i.withOptions {
      alone := "bfinLPrsTv"
      valued := "tS"
      long := [("symbolic", 's'), ("force", 'f'), ("no-dereference", 'n'), ("verbose", 'v'),
        ("no-target-directory", 'T'), ("target-directory", 't')] } fun o =>
    let o := match o.words with
      | [_] => if o.has 'T' || o.has 't' then o else { o with words := o.words ++ ["."] }
      | _ => o
    let target := o.words.getLastD ""
    let isLink := match i.files.linkStatus ⟨target⟩ with
      | .ok (_, .link _) => true
      | _ => false
    let o := if o.has 'n' && isLink then { o with given := ('T', "") :: o.given } else o
    let symbolic := o.has 's'
    toTarget i o fun files source dest =>
      let cleared := if o.has 'f' then ((files.removeFile dest).toOption).getD files else files
      let told := if o.has 'v' then
          some (inQuotes dest.text ++ (if symbolic then " -> " else " => ") ++ inQuotes source)
        else none
      if symbolic then
        settled i files ("failed to create symbolic link " ++ inQuotes dest.text) told
          (cleared.makeLink source dest)
      else match files.status ⟨source⟩ with
        | .error e => .refused i files ("failed to access " ++ inQuotes source ++ ": " ++ reason e)
        | .ok (_, .file content executable) =>
          let complaint := "failed to create hard link " ++ inQuotes dest.text
          if cleared.isPresent dest then
            .refused i files (complaint ++ ": " ++ reason .alreadyExists)
          else match cleared.writeFile dest content with
            | .ok made => match made.status dest with
              | .ok (loc, _) => .told (made.place loc (.file content executable)) told.isSome
                  (told.getD "")
              | .error _ => .quiet made
            | .error e => .refused i files (complaint ++ ": " ++ reason e)
        | .ok _ => .refused i files (source ++ ": hard link not allowed for directory")

/-! ## Modes and sizes -/

/-- The permissions of a file, or of one that can be run. -/
def permissions (executable : Bool) : Nat := if executable then 493 else 420

/-- The permissions of an entry. -/
def permissionsOf : Node → Nat
  | .directory _ => 493
  | .link _ => 511
  | .file _ executable => permissions executable

/-- Whether a mode lets a file be run, given that it could be run before. -/
def modeAfter? (mode : String) (before : Bool) : Option Bool :=
  (Permission.after? false mode (permissions before)).map fun bits => 0 < Nat.land bits 73

mutual

/-- An entry with everything below it, after a change of mode. -/
def changedNode (change : Bool → Bool) : Node → Node
  | .file content executable => .file content (change executable)
  | .link target => .link target
  | .directory entries => .directory (changedEntries change entries)

/-- Entries after a change of mode. -/
def changedEntries (change : Bool → Bool) : List (String × Node) → List (String × Node)
  | [] => []
  | (name, node) :: rest => (name, changedNode change node) :: changedEntries change rest

end

/-- Words of which a mode that begins with a minus is not taken for options. -/
def guardMode : List String → List String
  | [] => []
  | word :: rest =>
    match word.toList with
    | '-' :: c :: _ =>
      if ['r', 'w', 'x', 'X', 's', 't'].contains c then "--" :: word :: rest
      else word :: guardMode rest
    | _ => word :: rest

/-- The program `chmod`: changes whether files can be run. -/
def changeMode (i : Invocation) : Ended :=
  ({ i with args := guardMode i.args } : Invocation).withOptions {
      alone := "Rcvf"
      long := [("recursive", 'R'), ("changes", 'c'), ("verbose", 'v'), ("quiet", 'f')] } fun o =>
    match o.words with
    | [] => i.missing "operand"
    | [mode] => i.missing ("operand after " ++ inQuotes mode)
    | mode :: words =>
      if (modeAfter? mode false).isNone then i.misused ("invalid mode: " ++ inQuotes mode)
      else overWords i words fun files word =>
        match files.status ⟨word⟩ with
        | .error e => .refused i files ("cannot access " ++ inQuotes word ++ ": " ++ reason e)
        | .ok (loc, node) =>
          let change (before : Bool) : Bool := (modeAfter? mode before).getD before
          if node.isDirectory && !o.has 'R' then .quiet files
          else .quiet (files.place loc (changedNode change node))

/-- The size that is asked for, given the present one. -/
def sizeAfter? (asked : String) (size : Nat) : Option Nat :=
  let (sign, cs) : Option Char × List Char := match asked.toList with
    | c :: rest => if ['+', '-', '<', '>'].contains c then (some c, rest) else (none, c :: rest)
    | [] => (none, [])
  let digits := cs.takeWhile Char.isDigit
  let factor : Option Nat := [("", 1), ("K", 1024), ("k", 1024), ("M", 1048576)].lookup
    (String.ofList (cs.drop digits.length))
  match Number.natural? (String.ofList digits), factor with
  | some n, some f =>
    some (match sign with
      | some '+' => size + n * f
      | some '-' => size - n * f
      | some '<' => min size (n * f)
      | some _ => max size (n * f)
      | none => n * f)
  | _, _ => none

/-- The program `truncate`: gives files a size. -/
def truncate (i : Invocation) : Ended :=
  i.withOptions {
      alone := "co"
      valued := "sr"
      long := [("size", 's'), ("no-create", 'c')] } fun o =>
    match o.value? 's' with
    | none => i.misused "you must specify either '--size' or '--reference'"
    | some asked =>
      if (sizeAfter? asked 0).isNone then i.complained ("Invalid number: " ++ inQuotes asked)
      else if o.words.isEmpty then i.missing "file operand"
      else overWords i o.words fun files word =>
        let old := match files.readFile ⟨word⟩ with
          | .ok content => content.data.toList
          | .error _ => []
        let size := (sizeAfter? asked old.length).getD 0
        let bytes := old.take size ++ List.replicate (size - old.length) 0
        if o.has 'c' && !files.isPresent ⟨word⟩ then .quiet files
        else settled i files ("cannot open " ++ inQuotes word ++ " for writing") none
          (files.writeFile ⟨word⟩ ⟨bytes.toArray⟩)

/-! ## Listing -/

/-- The names in a directory, in order. -/
def namesIn (entries : Entries) : List String :=
  Bytes.sorted (entries.map (·.1))

/-- The kind and the permissions of an entry, letter by letter. -/
def letters : Node → String
  | .directory _ => "drwxr-xr-x"
  | .link _ => "lrwxrwxrwx"
  | .file _ true => "-rwxr-xr-x"
  | .file _ false => "-rw-r--r--"

/-- How many names an entry has; every directory in a directory names it. -/
def nameCount : Node → Nat
  | .directory entries => 2 + (entries.filter fun (_, node) => node.isDirectory).length
  | _ => 1

/-- The size of an entry. -/
def sizeOf : Node → Nat
  | .directory _ => 4096
  | .link target => target.utf8ByteSize
  | .file content _ => content.size

/-- How much room an entry takes, in blocks of 1024 bytes. -/
def roomOf : Node → Nat
  | .directory _ => 4
  | .link _ => 0
  | .file content _ => (content.size + 4095) / 4096 * 4

/-- Entries with all that is told of them, in columns; the time is not known. -/
def inColumns (o : Options) (shown : List (String × Node)) : List String :=
  let owner := if o.has 'n' then "0" else "root"
  let numbers (f : Node → Nat) : Node → String := fun node =>
    let width := (shown.map fun (_, node) => (toString (f node)).length).foldl max 0
    let text := toString (f node)
    "".pushn ' ' (width - text.length) ++ text
  shown.map fun (name, node) =>
    " ".intercalate ([letters node, numbers nameCount node] ++
      (if o.has 'g' then [] else [owner]) ++ (if o.has 'o' || o.has 'G' then [] else [owner]) ++
      [numbers sizeOf node, "Jan  1 00:00", name]) ++
      match node with
      | .link target => " -> " ++ target
      | _ => ""

/-- A list of names as it is shown. -/
def arranged (o : Options) (names : List (String × Node)) : List String :=
  let sign (node : Node) : String := match node with
    | .directory _ => if o.has 'p' || o.has 'F' then "/" else ""
    | .link _ => if o.has 'F' && !o.has 'l' then "@" else ""
    | .file _ executable => if o.has 'F' && executable then "*" else ""
  let sorted := names.mergeSort fun a b => Bytes.notBehind (Bytes.narrow a.1) (Bytes.narrow b.1)
  let sorted := if o.has 'r' then sorted.reverse else sorted
  let shown := sorted.map fun (name, node) => (name ++ sign node, node)
  if ['l', 'g', 'n', 'o'].any o.has then inColumns o shown
  else if o.has 'm' && !shown.isEmpty then [", ".intercalate (shown.map (·.1))]
  else shown.map (·.1)

/-- What is listed of a directory. -/
def listed (o : Options) (entries : Entries) : List (String × Node) :=
  let own := if o.has 'a' || o.has 'f' then
      (".", Node.directory []) :: ("..", Node.directory []) :: entries
    else entries
  if o.has 'a' || o.has 'A' then own else own.filter fun (name, _) => name.toList.head? != some '.'

mutual

/-- The directories below an entry with what they hold, if it is a directory. -/
def foldersBelow (path : String) : Node → List (String × Entries)
  | .directory entries => (path, entries) :: foldersIn path entries
  | _ => []

/-- The same for entries. -/
def foldersIn (path : String) : List (String × Node) → List (String × Entries)
  | [] => []
  | (name, node) :: rest =>
    (if name.toList.head? == some '.' then [] else foldersBelow (path ++ "/" ++ name) node) ++
      foldersIn path rest

end

mutual

/-- An entry whose directories are in order. -/
def inOrder : Node → Node
  | .directory entries => .directory (insertAll entries)
  | node => node

/-- Entries in order. -/
def insertAll : List (String × Node) → List (String × Node)
  | [] => []
  | (name, node) :: rest => insert name (inOrder node) (insertAll rest)

/-- Puts an entry where it belongs. -/
def insert (name : String) (node : Node) : List (String × Node) → List (String × Node)
  | [] => [(name, node)]
  | (other, there) :: rest =>
    if Bytes.notBehind (Bytes.narrow name) (Bytes.narrow other) then
      (name, node) :: (other, there) :: rest
    else (other, there) :: insert name node rest

end

/-- The program `ls`: lists what directories hold. -/
def list (i : Invocation) : Ended :=
  i.withOptions {
      alone := "aAbBcCdfFgGhHiklLmnNopqQrRsStuUvxXZ1"
      valued := "wTI"
      long := [("all", 'a'), ("almost-all", 'A'), ("directory", 'd'), ("classify", 'F'),
        ("reverse", 'r'), ("recursive", 'R')] } (fun o =>
    let words := if o.words.isEmpty then ["."] else o.words
    let inFull := ['l', 'g', 'n', 'o'].any o.has
    let all := words.map fun word => (word, match i.files.status ⟨word⟩ with
      | .ok found =>
        if o.has 'd' || (inFull && !o.has 'L') then i.files.linkStatus ⟨word⟩ else .ok found
      | .error e => match i.files.linkStatus ⟨word⟩ with
        | .ok found => .ok found
        | .error _ => .error e)
    let complaints := all.filterMap fun (word, found) => match found with
      | .error e => some (i.complaint ("cannot access " ++ inQuotes word ++ ": " ++ reason e))
      | .ok _ => none
    let single := all.filterMap fun (word, found) => match found with
      | .ok (_, node) => if node.isDirectory && !o.has 'd' then none else some (word, node)
      | .error _ => none
    let folders := all.filterMap fun (word, found) => match found with
      | .ok (_, .directory entries) => if o.has 'd' then none else some (word, entries)
      | _ => none
    let folders := folders.mergeSort fun a b =>
      Bytes.notBehind (Bytes.narrow a.1) (Bytes.narrow b.1)
    let folders := if o.has 'r' then folders.reverse else folders
    let folders := if o.has 'R' then
        folders.flatMap fun (word, entries) =>
          foldersBelow word (inOrder (.directory entries))
      else folders
    let titled := 1 < words.length || o.has 'R'
    let blocks := folders.map fun (word, entries) =>
      let shown := listed o entries
      let room := (shown.map fun (_, node) => roomOf node).foldl (· + ·) 0
      (if titled then [word ++ ":"] else []) ++
        (if inFull then ["total " ++ toString room] else []) ++ arranged o shown
    let groups := (if single.isEmpty then [] else [arranged o single]) ++ blocks
    let lines := (groups.intersperse [""]).flatten
    { output := complaints ++ lines.map fun line => (false, Text.encode (line ++ "\n"))
      status := .exited (if complaints.isEmpty then 0 else 2)
      files := i.files })
    false 2

/-! ## Where paths lead -/

/-- A path without links and idle steps; the last step, or all with `any`, need not exist. -/
def resolved (files : FileSystem) (strict any : Bool) (word : String) : Except IoError String :=
  match files.canonical ⟨word⟩ with
  | .ok p => .ok p.text
  | .error e =>
    if strict then .error e
    else
      let target : String := match files.readLink ⟨word⟩ with
        | .ok target =>
          if FileSystem.startsAtRoot target then target
          else (((Path.mk word).parent?.getD ⟨""⟩) / target).text
        | .error _ => word
      let p : Path := ⟨target⟩
      let above := p.parent?.getD ⟨""⟩
      let above : Path := if above.text.isEmpty then ⟨"."⟩ else above
      match files.canonical above, p.fileName? with
      | .ok dir, some name => .ok (dir / name).text
      | .error e, _ =>
        if any then
          let here := if FileSystem.startsAtRoot word then [] else files.cwd
          let walked := (FileSystem.names word).foldl (fun (loc : List String) name =>
            if name = "." then loc else if name = ".." then loc.dropLast else loc ++ [name]) here
          .ok (FileSystem.pathOf walked).text
        else .error e
      | _, none => .error e

/-- The program `readlink`: tells where symbolic links lead. -/
def readLink (i : Invocation) : Ended :=
  i.withOptions {
      alone := "efmnqsvz"
      long := [("canonicalize", 'f'), ("canonicalize-existing", 'e'),
        ("canonicalize-missing", 'm'), ("no-newline", 'n'), ("zero", 'z')] } fun o =>
    if o.words.isEmpty then i.missing "operand"
    else
      let stop := if o.has 'n' && o.words.length = 1 then ""
        else if o.has 'z' then "\x00" else "\n"
      let found := o.words.map fun word =>
        if ['e', 'f', 'm'].any o.has then resolved i.files (o.has 'e') (o.has 'm') word
        else i.files.readLink ⟨word⟩
      i.said (String.join (found.map fun one => match one with
        | .ok text => text ++ stop
        | .error _ => ""))
        (if found.all fun one => one.toOption.isSome then 0 else 1)

/-- The program `realpath`: tells the paths without links that paths lead to. -/
def realPath (i : Invocation) : Ended :=
  i.withOptions {
      alone := "eLmPqsz"
      long := [("canonicalize-existing", 'e'), ("canonicalize-missing", 'm'), ("quiet", 'q'),
        ("no-symlinks", 's'), ("strip", 's'), ("zero", 'z')] } fun o =>
    if o.words.isEmpty then i.missing "operand"
    else
      let found := o.words.map fun word =>
        (word, resolved i.files (o.has 'e') (o.has 'm') word)
      { output := found.map fun (word, one) => match one with
          | .ok text => (false, Text.encode (text ++ if o.has 'z' then "\x00" else "\n"))
          | .error e => i.unread word e
        status := .exited (if found.all fun (_, one) => one.toOption.isSome then 0 else 1)
        files := i.files }

/-! ## Splitting a stream -/

/-- The program `tee`: writes its input to files and to its output. -/
def copyInput (i : Invocation) : Ended :=
  i.withOptions { alone := "aip", long := [("append", 'a')] } fun o =>
    let s := steps i.files o.words fun files word =>
      if word = "/dev/null" then .quiet files
      else if word = "-" then { files, output := [(false, i.input)] }
      else
        let old := if o.has 'a' then (files.readFile ⟨word⟩).toOption.getD .empty else .empty
        settled i files (Invocation.shown word) none
          (files.writeFile ⟨word⟩ (old ++ ⟨i.input.toArray⟩))
    { s.ended with output := s.output ++ [(false, i.input)], taken := i.input.length }

end FileUtility

end Fleet.Shell

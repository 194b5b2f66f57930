import Fleet.Shell.DateUtility
import Fleet.Shell.FileUtility
import Fleet.Shell.Printing

namespace Fleet.Shell

/-! # What is known of files

The program `stat`, which writes what is known of files in a form: a percent sign, marks, a width, a
precision, and a letter that names what is written.  Times, places on disks and owners are the same
for all files here.
-/

namespace StatusUtility

/-- The marks between a percent sign and its letter. -/
structure Marks where
  flags : List Char := []
  width : Nat := 0
  precision : Option Nat := none

/-- A text in its space; a precision cuts it. -/
def Marks.text (m : Marks) (s : String) : String :=
  let s := match m.precision with
    | some n => String.ofList (s.toList.take n)
    | none => s
  let gap := String.ofList (List.replicate (m.width - s.length) ' ')
  if m.flags.contains '-' then s ++ gap else gap ++ s

/-- Digits in their space; a precision fills them with zeros. -/
def Marks.digits (m : Marks) (s : String) : String :=
  let zeros (n : Nat) : String := String.ofList (List.replicate (n - s.length) '0')
  match m.precision with
  | some n => { m with precision := none }.text (zeros n ++ s)
  | none =>
    if m.flags.contains '0' && !m.flags.contains '-' then zeros m.width ++ s else m.text s

/-- A number. -/
def Marks.number (m : Marks) (n : Nat) : String := m.digits (toString n)

/-- A number in base eight, with a zero in front if that is asked for. -/
def Marks.octal (m : Marks) (n : Nat) : String :=
  m.digits ((if m.flags.contains '#' then "0" else "") ++ String.ofList (Nat.toDigits 8 n))

/-- The bits for the kind of an entry. -/
def kindBits : Node → Nat
  | .directory _ => 0x4000
  | .link _ => 0xa000
  | .file _ _ => 0x8000

/-- The kind of an entry in words. -/
def kindName : Node → String
  | .directory _ => "directory"
  | .link _ => "symbolic link"
  | .file content _ => if content.size = 0 then "regular empty file" else "regular file"

/-- A point in time as it is written. -/
def timeText : String := Calendar.write {} Moment.now "%Y-%m-%d %H:%M:%S.%N %z"

/-- A name as it is written, and where a link leads. -/
def named (always : Bool) (name : String) (node : Node) : String :=
  let quoted (text : String) : String :=
    if always then FileUtility.inQuotes text else Invocation.shown text
  quoted name ++ match node with
    | .link target => " -> " ++ quoted target
    | _ => ""

/-- What a letter names. -/
def field (always : Bool) (m : Marks) (name : String) (node : Node) (c : Char) : String :=
  match c with
  | 'a' => m.octal (FileUtility.permissionsOf node)
  | 'A' => m.text (FileUtility.letters node)
  | 'b' => m.number (2 * FileUtility.roomOf node)
  | 'B' => m.number 512
  | 'd' => m.number 0
  | 'D' => m.digits "0"
  | 'f' =>
    m.digits (String.ofList (Nat.toDigits 16 (kindBits node + FileUtility.permissionsOf node)))
  | 'F' => m.text (kindName node)
  | 'g' | 'u' => m.number 0
  | 'G' | 'U' => m.text "root"
  | 'h' => m.number (FileUtility.nameCount node)
  | 'i' => m.number 0
  | 'm' => m.text "/"
  | 'n' => m.text name
  | 'N' => m.text (named always name node)
  | 'o' => m.number 4096
  | 'r' | 'R' | 't' | 'T' => m.digits "0"
  | 's' => m.number (FileUtility.sizeOf node)
  | 'w' | 'x' | 'y' | 'z' => m.text timeText
  | 'W' | 'X' | 'Y' | 'Z' => m.digits (toString Moment.now.seconds)
  | _ => "?"

/-- Reads the marks behind a percent sign. -/
def marks (cs : List Char) : Marks × List Char :=
  let isFlag (c : Char) : Bool := ['\'', '-', '+', ' ', '#', '0', 'I'].contains c
  let flags := cs.takeWhile isFlag
  let rest := cs.drop flags.length
  let width := rest.takeWhile Char.isDigit
  let rest := rest.drop width.length
  let value (ds : List Char) : Nat := (Number.takeDigits 10 ds.length 0 ds).1
  match rest with
  | '.' :: more =>
    let ds := more.takeWhile Char.isDigit
    (⟨flags, value width, some (value ds)⟩, more.drop ds.length)
  | rest => (⟨flags, value width, none⟩, rest)

/-- What a form writes, or what is wrong with it; backslashes are read if `escapes`.  `n` bounds
its length. -/
def format (always escapes : Bool) (name : String) (node : Node) :
    Nat → List Char → List (Bool × String)
  | 0, _ => []
  | _, [] => []
  | n + 1, '%' :: cs =>
    let (m, rest) := marks cs
    let directive (rest : List Char) : String :=
      String.ofList ('%' :: cs.take (cs.length - rest.length))
    match rest with
    | [] =>
      if cs.isEmpty then [(false, "%")]
      else [(true, "invalid directive")]
    | '%' :: rest =>
      if cs.length = rest.length + 1 then
        (false, "%") :: format always escapes name node n rest
      else [(true, Options.quoted (directive rest) ++ ": invalid directive")]
    | h :: c :: rest =>
      if (h = 'H' || h = 'L') && (c = 'd' || c = 'r') then
        (false, m.number 0) :: format always escapes name node n rest
      else
        (false, field always m name node h) :: format always escapes name node n (c :: rest)
    | [c] => [(false, field always m name node c)]
  | n + 1, '\\' :: c :: rest =>
    if !escapes then (false, "\\") :: format always escapes name node n (c :: rest)
    else
      let isOctal (c : Char) : Bool := (Number.digit? 8 c).isSome
      let isHex (c : Char) : Bool := (Number.digit? 16 c).isSome
      if isOctal c then
        let (value, rest) := Number.takeDigits 8 3 0 (c :: rest)
        (false, (Char.ofNat (value % 256)).toString) :: format always escapes name node n rest
      else if c = 'x' && (rest.head?.any isHex) then
        let (value, rest) := Number.takeDigits 16 2 0 rest
        (false, (Char.ofNat value).toString) :: format always escapes name node n rest
      else
        let known := [('"', "\""), ('\\', "\\"), ('a', "\x07"), ('b', "\x08"), ('e', "\x1b"),
          ('f', "\x0c"), ('n', "\n"), ('r', "\r"), ('t', "\t"), ('v', "\x0b")]
        match known.lookup c with
        | some text => (false, text) :: format always escapes name node n rest
        | none =>
          (true, "warning: unrecognized escape '\\" ++ c.toString ++ "'") ::
            (false, c.toString) :: format always escapes name node n rest
  | n + 1, '\\' :: [] =>
    if escapes then (true, "warning: backslash at end of format") ::
      format always escapes name node n []
    else (false, "\\") :: format always escapes name node n []
  | n + 1, c :: rest => (false, c.toString) :: format always escapes name node n rest

/-- What is written if no form is given. -/
def usual : String :=
  "  File: %N\n  Size: %-10s\tBlocks: %-10b IO Block: %-6o %F\n" ++
    "Device: %Hd,%Ld\tInode: %-10i  Links: %h\n" ++
    "Access: (%04a/%10.10A)  Uid: (%5u/%8U)   Gid: (%5g/%8G)\n" ++
    "Access: %x\nModify: %y\nChange: %z\n Birth: %w\n"

/-- What is written in short. -/
def terse : String := "%n %s %b %f %u %g %D %i %h %t %T %X %Y %Z %W %o\n"

/-- The program `stat`: writes what is known of files. -/
def run (i : Invocation) : Ended :=
  i.withOptions {
      alone := "Lft", valued := "cpC"
      long := [("dereference", 'L'), ("file-system", 'f'), ("terse", 't'), ("format", 'c'),
        ("printf", 'p'), ("cached", 'C')] } fun o =>
    if o.words.isEmpty then i.missing "operand"
    else
      let form? := o.given.reverse.find? fun (c, _) => c == 'c' || c == 'p'
      let (form, escapes) : String × Bool := match form? with
        | some ('c', form) => (form, false)
        | some (_, form) => (form, true)
        | none => (if o.has 't' then terse else usual, false)
      let ending : List (Bool × List UInt8) :=
        if form?.any fun (c, _) => c == 'c' then [(false, [10])] else []
      let results := o.words.map fun word =>
        let found := if o.has 'L' then i.files.status ⟨word⟩ else i.files.linkStatus ⟨word⟩
        match found with
        | .error e =>
          (false, [i.complaint ("cannot statx " ++ FileUtility.inQuotes word ++ ": " ++ reason e)])
        | .ok (_, node) =>
          let output := format form?.isSome escapes word node (form.length + 1) form.toList
          let fails := output.any fun (isError, text) => isError && !text.startsWith "warning"
          (!fails, output.map (fun ((isError, text) : Bool × String) =>
            if isError then i.complaint text else (false, Text.encode text)) ++
              if fails then [] else ending)
      { i.ends (if results.all (·.1) then 0 else 1) with output := results.flatMap (·.2) }

end StatusUtility

end Fleet.Shell

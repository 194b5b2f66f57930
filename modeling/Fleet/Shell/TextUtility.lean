import Fleet.Shell.Bytes
import Fleet.Shell.Condition
import Fleet.Shell.Invocation
import Fleet.Shell.Printing

namespace Fleet.Shell

/-! # Utilities for texts and conditions

Programs that write what their arguments say, that decide something, or that show bytes in another
form.
-/

namespace TextUtility

/-! ## Doing nothing -/

/-- The help of a program that only ends. -/
def helpOfEnd (name program what : String) : List String :=
  let site := "https:" ++ "//"
  ["Usage: " ++ program ++ " [ignored command line arguments]",
    "  or:  " ++ program ++ " OPTION",
    "Exit with a status code indicating " ++ what ++ ".",
    "",
    "      --help        display this help and exit",
    "      --version     output version information and exit",
    "",
    "NOTE: your shell may have its own version of " ++ name ++ ", which usually supersedes",
    "the version described here.  Please refer to your shell's documentation",
    "for details about the options it supports.",
    "",
    "GNU coreutils online help: <" ++ site ++ "www.gnu.org/software/coreutils/>",
    "Report any translation bugs to <" ++ site ++ "translationproject.org/team/>",
    "Full documentation <" ++ site ++ "www.gnu.org/software/coreutils/" ++ name ++ ">",
    "or available locally via: info '(coreutils) " ++ name ++ " invocation'"]

/-- A program that only ends, unless it is asked for help. -/
def ends (name what : String) (code : Nat) (i : Invocation) : Ended :=
  if i.args = ["--help"] then
    i.said (String.join ((helpOfEnd name i.program what).map fun line => line ++ "\n")) code
  else i.ends code

/-- The longest time that is told from other ones, in millionths of a second. -/
def longest : Nat := Nat.pow 10 24

/-- A length of time, in millionths of a second: a number with perhaps a unit behind it. -/
def duration? (text : String) : Option Nat :=
  match Floating.read? .double text.toList with
  | some (f, _, rest) =>
    let unit : Option Nat :=
      [([], 1), (['s'], 1), (['m'], 60), (['h'], 3600), (['d'], 86400)].lookup rest
    match f, unit with
    | .finite false magnitude power, some seconds =>
      let (a, b) := Floating.scaled 2 (magnitude * seconds * 1000000) 1 (min power 100)
      some (min longest (a / b))
    | .infinite false, some _ => some longest
    | .undefined false, some _ => some 0
    | _, _ => none
  | none => none

/-- A program that sleeps for some time, as far as it may. -/
def sleeping (i : Invocation) (time : Nat) : Ended :=
  match i.deadline with
  | some d =>
    if d.time < time then { i.ends 0 with status := .killed d.signal, slept := d.time }
    else { i.ends 0 with slept := time }
  | none => { i.ends 0 with slept := time }

/-- The program `sleep`: does nothing for some time. -/
def sleep (i : Invocation) : Ended :=
  i.withOptions {} fun o =>
    if o.words.isEmpty then i.missing "operand"
    else match o.words.filter fun word => (duration? word).isNone with
      | [] => sleeping i ((o.words.filterMap duration?).foldl (· + ·) 0)
      | bad => { i.ends 1 with
          output := (bad.map fun word =>
            i.complaint ("invalid time interval " ++ Options.quoted word)) ++ [i.hint] }

/-! ## Writing arguments -/

/-- The program `echo`: writes its words. -/
def echo (i : Invocation) : Ended := i.wrote (Printing.echoProgram .program i.args)

/-- The program `printf`: writes its words in a format. -/
def printf (i : Invocation) : Ended :=
  match (match i.args with
    | "--" :: rest => rest
    | args => args) with
  | [] => i.missing "operand"
  | format :: args =>
    let w := Printing.printf .program format args
    let bad := w.bad.map i.complaint
    let excess := match w.on, w.args with
      | true, arg :: _ =>
        [i.complaint ("warning: ignoring excess arguments, starting with " ++ Options.quoted arg)]
      | _, _ => []
    { output := (false, w.bytes.flatten) :: bad ++ (w.broken.toList.map i.complaint) ++ excess
      status := .exited (if bad.isEmpty && w.broken.isNone then 0 else 1)
      files := i.files }

/-- How many lines a program writes that would go on for ever. -/
def endless : Nat := 20000

/-- The program `yes`: writes a line over and over. -/
def yes (i : Invocation) : Ended :=
  i.withOptions {} fun o =>
    let line := " ".intercalate (if o.words.isEmpty then ["y"] else o.words) ++ "\n"
    i.wrote (List.replicate endless (Text.encode line)).flatten

/-! ## Sequences -/

/-- A decimal number: how many of which power of ten. -/
structure Decimal where
  value : Int
  places : Nat

/-- Reads a decimal number. -/
def decimal? (text : String) : Option Decimal :=
  let cs := text.toList.dropWhile Number.isBlank
  let (negative, cs) := match cs with
    | '-' :: rest => (true, rest)
    | '+' :: rest => (false, rest)
    | rest => (false, rest)
  let signed (n : Nat) : Int := if negative then -(n : Int) else n
  match cs with
  | '0' :: x :: rest =>
    if x == 'x' || x == 'X' then
      match Number.magnitude? 16 rest with
      | some (n, []) => some ⟨signed n, 0⟩
      | _ => none
    else plain signed cs
  | cs => plain signed cs
where
  /-- Reads digits with a point and a power of ten. -/
  plain (signed : Nat → Int) (cs : List Char) : Option Decimal :=
    let whole := cs.takeWhile Char.isDigit
    let (part, rest) : List Char × List Char := match cs.drop whole.length with
      | '.' :: rest => (rest.takeWhile Char.isDigit, rest.dropWhile Char.isDigit)
      | rest => ([], rest)
    if whole.isEmpty && part.isEmpty then none
    else
      let n := (Number.takeDigits 10 cs.length 0 (whole ++ part)).1
      let power : Option Int := match rest with
        | [] => some 0
        | e :: rest =>
          if e == 'e' || e == 'E' then
            match Number.read? 10 rest with
            | some (power, []) => some power
            | _ => none
          else none
      power.map fun power =>
        if (part.length : Int) ≤ power then
          ⟨signed (n * Nat.pow 10 (power - part.length).toNat), 0⟩
        else ⟨signed n, (part.length - power).toNat⟩

/-- A decimal number with more places. -/
def Decimal.withPlaces (d : Decimal) (places : Nat) : Int :=
  d.value * Int.ofNat (Nat.pow 10 (places - d.places))

/-- A number of parts, as many of them in a whole as the power of ten says. -/
def decimalText (places : Nat) (n : Int) : String :=
  let ds := Floating.digits (places + 1) n.natAbs
  let (whole, part) := ds.splitAt (ds.length - places)
  (if n < 0 then "-" else "") ++ String.ofList (whole ++ if part.isEmpty then [] else '.' :: part)

/-- Marks the first word as no option if it is a negative number. -/
def guardNumbers : List String → List String
  | [] => []
  | word :: rest =>
    match word.toList with
    | '-' :: c :: more =>
      if c.isDigit || c == '.' then "--" :: word :: rest
      else if more.isEmpty && (c == 's' || c == 'f') then
        match rest with
        | value :: rest => word :: value :: guardNumbers rest
        | [] => [word]
      else if c == '-' && more.isEmpty then word :: rest
      else word :: guardNumbers rest
    | _ => word :: rest

/-- The directive of a format for numbers with a point. -/
def formatOf (format : String) :
    Except String (List Printing.Piece × Printing.Directive × List Printing.Piece) :=
  let isText (p : Printing.Piece) : Bool := match p with
    | .bytes _ => true
    | _ => false
  let pieces := Printing.pieces .program format
  let front := pieces.takeWhile isText
  let named := "format " ++ Options.quoted format
  match pieces.drop front.length with
  | [] => .error (named ++ " has no % directive")
  | .directive d _ _ :: rest =>
    if "fFeEgGaA".toList.all (· != d.conversion) then
      .error (named ++ " has unknown %" ++ d.conversion.toString ++ " directive")
    else if rest.all isText then .ok (front, d, rest)
    else .error (named ++ " has too many % directives")
  | _ => .error (named ++ " has unknown % directive")

/-- The numbers of a sequence. -/
def progression (first step last : Int) : List Int :=
  let count :=
    if 0 < step then ((last - first) / step + 1).toNat
    else ((first - last) / (-step) + 1).toNat
  (List.range (min count 1000000)).map fun k => first + step * Int.ofNat k

/-- The program `seq`: writes the numbers of a sequence. -/
def sequence (i : Invocation) : Ended :=
  ({ i with args := guardNumbers i.args } : Invocation).withOptions {
      alone := "w"
      valued := "fs"
      long := [("equal-width", 'w'), ("format", 'f'), ("separator", 's')] } (fun o =>
    match o.words with
    | [] => i.missing "operand"
    | _ :: _ :: _ :: extra :: _ => i.misused ("extra operand " ++ Options.quoted extra)
    | words =>
      match words.find? fun word => (decimal? word).isNone with
      | some word => i.misused (
          if (Floating.beginsWith "nan" word.toList) then
            "invalid 'not-a-number' argument: " ++ Options.quoted word
          else "invalid floating point argument: " ++ Options.quoted word)
      | none =>
        let numbers := words.filterMap decimal?
        let (first, step, last) : Decimal × Decimal × Decimal := match numbers with
          | [a, b, c] => (a, b, c)
          | [a, b] => (a, ⟨1, 0⟩, b)
          | [a] => (⟨1, 0⟩, ⟨1, 0⟩, a)
          | _ => (⟨1, 0⟩, ⟨1, 0⟩, ⟨0, 0⟩)
        if step.value = 0 then
          i.misused ("invalid Zero increment value: " ++ Options.quoted (words.tail.headD ""))
        else
          let places := max first.places step.places
          let fine := max places last.places
          let more := Int.ofNat (Nat.pow 10 (fine - places))
          let values := (progression (first.withPlaces fine) (step.withPlaces fine)
            (last.withPlaces fine)).map fun n => n / more
          let gap := (o.value? 's').getD "\n"
          let finished (texts : List (List UInt8)) : Ended :=
            if texts.isEmpty then i.ends 0
            else i.wrote ((texts.intersperse (Text.encode gap)).flatten ++ [10])
          match o.value? 'f' with
          | some format =>
            match formatOf format with
            | .error text => i.complained text
            | .ok (front, d, back) =>
              let bytesOf (p : Printing.Piece) : List UInt8 := match p with
                | .bytes bs => bs
                | _ => []
              finished (values.map fun n =>
                front.flatMap bytesOf ++
                  (Printing.directiveBytes .program d (decimalText places n)).1 ++
                  back.flatMap bytesOf)
          | none =>
            let texts := values.map (decimalText places)
            let wide := (texts.map String.length).foldl max
              (decimalText places (last.withPlaces fine / more)).length
            let filled (text : String) : String :=
              match text.toList with
              | '-' :: ds => String.ofList ('-' :: List.replicate (wide - text.length) '0' ++ ds)
              | ds => String.ofList (List.replicate (wide - text.length) '0' ++ ds)
            finished (texts.map fun text => Text.encode (if o.has 'w' then filled text else text)))
    true

/-! ## Names of files -/

/-- The last name of a path. -/
def lastName (p : String) : List Char :=
  let trimmed := Text.dropEndWhile (· == '/') p.toList
  if trimmed.isEmpty then p.toList.take 1 else ((Text.splitOn '/' trimmed).getLast?).getD []

/-- The program `basename`: writes the last steps of paths. -/
def baseName (i : Invocation) : Ended :=
  i.withOptions {
      alone := "az"
      valued := "s"
      long := [("multiple", 'a'), ("suffix", 's'), ("zero", 'z')] } (fun o =>
    let several := o.has 'a' || o.has 's'
    match o.words with
    | [] => i.missing "operand"
    | _ :: _ :: extra :: _ =>
      if several then named i o o.words
      else i.misused ("extra operand " ++ Options.quoted extra)
    | [p, ending] =>
      if several then named i o o.words
      else named i { o with given := ('s', ending) :: o.given } [p]
    | words => named i o words)
    true
where
  /-- Writes the last names. -/
  named (i : Invocation) (o : Options) (paths : List String) : Ended :=
    let ending := ((o.value? 's').getD "").toList
    i.said (String.join (paths.map fun p =>
      let name := lastName p
      let isLonger := !ending.isEmpty && ending.isSuffixOf name && ending != name
      let name := if isLonger then name.take (name.length - ending.length) else name
      String.ofList name ++ if o.has 'z' then "\x00" else "\n"))

/-- The program `dirname`: writes paths without their last steps. -/
def directoryName (i : Invocation) : Ended :=
  i.withOptions { alone := "z", long := [("zero", 'z')] } fun o =>
    if o.words.isEmpty then i.missing "operand"
    else i.said (String.join (o.words.map fun p =>
      let trimmed := Text.dropEndWhile (· == '/') p.toList
      let front := Text.dropEndWhile (· != '/') trimmed
      let dir := Text.dropEndWhile (· == '/') front
      String.ofList (
        if !dir.isEmpty then dir
        else if front.isEmpty && (!trimmed.isEmpty || p.isEmpty) then ['.']
        else ['/']) ++ if o.has 'z' then "\x00" else "\n"))

/-! ## Conditions and the environment -/

/-- The complaint about a condition that cannot be decided. -/
def complaintAbout (words : List String) : Condition.Fault → String
  | .noNumber word => "invalid integer " ++ Options.quoted word
  | .plain text => text
  | .about word text =>
    match words with
    | [a, b] =>
      match a.toList with
      | ['-', _] => Options.quoted a ++ ": unary operator expected"
      | _ => "missing argument after " ++ Options.quoted b
    | [_, b, _] => Options.quoted b ++ ": binary operator expected"
    | _ =>
      if text = "unexpected operator" then "extra argument " ++ Options.quoted word
      else "missing argument after " ++ Options.quoted ((words.getLast?).getD "")

/-- Ends as a condition says. -/
def concluded (i : Invocation) (words : List String) : Ended :=
  match Condition.decide i.files words with
  | .ok answer => i.ends (if answer then 0 else 1)
  | .error fault => i.complained (complaintAbout words fault) 2

/-- The program `test`: decides a condition. -/
def test (i : Invocation) : Ended := concluded i i.args

/-- The program `[`: decides a condition that ends in `]`. -/
def bracket (i : Invocation) : Ended :=
  if i.args.getLast? = some "]" then concluded i i.args.dropLast
  else i.complained "missing ']'" 2

/-- The program `printenv`: writes the values of variables. -/
def printVariables (i : Invocation) : Ended :=
  i.withOptions { alone := "0", long := [("null", '0')] } (fun o =>
    let stop := if o.has '0' then "\x00" else "\n"
    match o.words with
    | [] => i.said (String.join (i.env.map fun (name, value) => name ++ "=" ++ value ++ stop))
    | names =>
      let values := names.filterMap fun name => i.env.lookup name
      i.said (String.join (values.map fun value => value ++ stop))
        (if values.length = names.length then 0 else 1))
    true 2

/-- The program `pwd`: writes the directory. -/
def workingDirectory (i : Invocation) : Ended :=
  i.withOptions { alone := "LP", long := [("logical", 'L'), ("physical", 'P')] } fun o =>
    let physical := (FileSystem.pathOf i.files.cwd).text
    let logical := match i.env.lookup "PWD" with
      | some p =>
        match i.files.status ⟨p⟩ with
        | .ok (loc, _) =>
          if loc = i.files.cwd && FileSystem.startsAtRoot p then p else physical
        | .error _ => physical
      | none => physical
    let ended := i.said ((if o.lastOf ['L', 'P'] = some 'L' then logical else physical) ++ "\n")
    if o.words.isEmpty then ended
    else { ended with output := i.complaint "ignoring non-option arguments" :: ended.output }

/-- A program that tells what the machine is called. -/
def systemName (i : Invocation) : Ended :=
  i.withOptions { alone := "som", long := [("kernel-name", 's'), ("operating-system", 'o')] }
    fun o =>
      let parts := (if o.has 's' || o.given.isEmpty then ["Linux"] else []) ++
        (if o.has 'm' then ["x86_64"] else []) ++ (if o.has 'o' then ["GNU/Linux"] else [])
      i.said (" ".intercalate parts ++ "\n")

/-- A program that tells who runs it. -/
def identity (i : Invocation) : Ended :=
  i.withOptions {
      alone := "ugn"
      long := [("user", 'u'), ("group", 'g'), ("name", 'n')] } fun o =>
    if (o.has 'u' || o.has 'g') && o.has 'n' then i.said "root\n"
    else if o.has 'u' || o.has 'g' then i.said "0\n"
    else i.said "uid=0(root) gid=0(root) groups=0(root)\n"

/-- The program `whoami`: writes the name of the user. -/
def userName (i : Invocation) : Ended := i.said "root\n"

/-- A program that takes no words. -/
def wordless (i : Invocation) (text : String) (code : Nat) : Ended :=
  i.withOptions { alone := if code = 0 then "" else "s" } (fun o =>
    match o.words with
    | [] => i.said (if o.has 's' then "" else text) code
    | word :: _ => i.misused ("extra operand " ++ Options.quoted word) (code + 1))
    false (code + 1)

/-- The program `arch`: names the machine. -/
def machine (i : Invocation) : Ended := wordless i "x86_64\n" 0

/-- The program that names the terminal, of which there is none. -/
def terminal (i : Invocation) : Ended := wordless i "not a tty\n" 1

/-! ## Other forms of bytes -/

/-- The signs that stand for six bits. -/
def sixBits : List Char :=
  "ABCDEFGHIJKLMNOPQRSTUVWXYZabcdefghijklmnopqrstuvwxyz0123456789+/".toList

/-- The signs for bytes, three by three. -/
def signsOf : List UInt8 → List Char
  | a :: b :: c :: rest => (group a b c) ++ signsOf rest
  | [a, b] => (group a b 0).take 3 ++ ['=']
  | [a] => (group a 0 0).take 2 ++ ['=', '=']
  | [] => []
where
  /-- The four signs for three bytes. -/
  group (a b c : UInt8) : List Char :=
    let n := a.toNat * 65536 + b.toNat * 256 + c.toNat
    [n / 262144, n / 4096 % 64, n / 64 % 64, n % 64].map fun k => (sixBits[k]?).getD '='

/-- The bytes for signs, four by four, and whether all signs make sense. -/
def bytesOf : List Char → List UInt8 × Bool
  | [] => ([], true)
  | a :: b :: c :: d :: rest =>
    match sixBits.idxOf? a, sixBits.idxOf? b, sixBits.idxOf? c, sixBits.idxOf? d with
    | some i, some j, some k, some l =>
      let n := i * 262144 + j * 4096 + k * 64 + l
      let (bytes, good) := bytesOf rest
      (UInt8.ofNat (n / 65536) :: UInt8.ofNat (n / 256) :: UInt8.ofNat n :: bytes, good)
    | some i, some j, some k, none =>
      let n := i * 1024 + j * 16 + k / 4
      let (bytes, good) := bytesOf rest
      ([UInt8.ofNat (n / 256), UInt8.ofNat n] ++ (if d == '=' then bytes else []),
        d == '=' && good)
    | some i, some j, none, _ =>
      let (bytes, good) := bytesOf rest
      let fits := c == '=' && d == '='
      (UInt8.ofNat (i * 4 + j / 16) :: (if fits then bytes else []), fits && good)
    | _, _, _, _ => ([], false)
  | [a, b, c] =>
    match sixBits.idxOf? a, sixBits.idxOf? b, sixBits.idxOf? c with
    | some i, some j, some k =>
      let n := i * 1024 + j * 16 + k / 4
      ([UInt8.ofNat (n / 256), UInt8.ofNat n], false)
    | some i, some j, none => ([UInt8.ofNat (i * 4 + j / 16)], false)
    | _, _, _ => ([], false)
  | [a, b] =>
    match sixBits.idxOf? a, sixBits.idxOf? b with
    | some i, some j => ([UInt8.ofNat (i * 4 + j / 16)], false)
    | _, _ => ([], false)
  | [_] => ([], false)

/-- Cuts a text into pieces of a length. -/
def cutUp {α : Type} (width : Nat) : Nat → List α → List (List α)
  | 0, _ => []
  | n + 1, xs => if xs.isEmpty then [] else xs.take width :: cutUp width n (xs.drop width)

/-- The program `base64`: writes bytes in signs for six bits each, or reads such signs. -/
def base64 (i : Invocation) : Ended :=
  i.withOptions {
      alone := "di"
      valued := "w"
      long := [("decode", 'd'), ("ignore-garbage", 'i'), ("wrap", 'w')] } fun o =>
    match o.words with
    | _ :: extra :: _ => i.misused ("extra operand " ++ Options.quoted extra)
    | names =>
      let name := names.headD "-"
      match i.content name with
      | .error e =>
        i.complained ((if e = .isDirectory then "read error" else Invocation.shown name) ++ ": " ++
          reason e)
      | .ok bytes =>
        let ended :=
          if o.has 'd' then
            let signs := (Bytes.chars bytes).filter fun c =>
              c != '\n' && (!o.has 'i' || sixBits.contains c || c == '=')
            let (found, good) := bytesOf signs
            if good then i.wrote found
            else { i.wrote found 1 with
              output := [(false, found), i.complaint "invalid input"] }
          else
            let signs := signsOf bytes
            match Number.natural? ((o.value? 'w').getD "76") with
            | none =>
              i.complained ("invalid wrap size: " ++ Options.quoted ((o.value? 'w').getD ""))
            | some 0 => i.wrote (Bytes.ofChars signs)
            | some width =>
              i.wrote (Bytes.ofChars (Bytes.unlines (cutUp width signs.length signs)))
        { ended with taken := i.takenBy names }

/-- How bytes are shown: how many make an element, how wide a column is, and the text. -/
structure Showing where
  size : Nat
  width : Nat
  text : Nat → List Char

/-- A byte as a character. -/
def characterText (n : Nat) : List Char :=
  match [(0, ['\\', '0']), (7, ['\\', 'a']), (8, ['\\', 'b']), (9, ['\\', 't']),
      (10, ['\\', 'n']), (11, ['\\', 'v']), (12, ['\\', 'f']), (13, ['\\', 'r'])].lookup n with
  | some cs => cs
  | none => if 32 ≤ n && n < 127 then [Char.ofNat n] else Printing.digits 8 3 n false

/-- The number of bytes that numbers are shown for, in a base. -/
def Showing.unsigned (base size digits : Nat) : Showing :=
  ⟨size, digits + 1, fun n => Printing.digits base (if base = 10 then 1 else digits) n false⟩

/-- Numbers with a sign. -/
def Showing.signed (size digits : Nat) : Showing :=
  ⟨size, digits + 1, fun n =>
    let top := Nat.pow 256 size
    (if 2 * n < top then toString n else "-" ++ toString (top - n)).toList⟩

/-- The form that an option asks for. -/
def showing? (kind : String) : Option Showing :=
  [("c", ⟨1, 4, characterText⟩), ("o1", .unsigned 8 1 3), ("o2", .unsigned 8 2 6),
    ("o4", .unsigned 8 4 11), ("o8", .unsigned 8 8 22), ("x1", .unsigned 16 1 2),
    ("x2", .unsigned 16 2 4), ("x4", .unsigned 16 4 8), ("x8", .unsigned 16 8 16),
    ("u1", .unsigned 10 1 3), ("u2", .unsigned 10 2 5), ("u4", .unsigned 10 4 10),
    ("u8", .unsigned 10 8 20), ("d1", .signed 1 4), ("d2", .signed 2 6), ("d4", .signed 4 11),
    ("d8", .signed 8 20), ("o", .unsigned 8 4 11), ("x", .unsigned 16 4 8),
    ("u", .unsigned 10 4 10), ("d", .signed 4 11)].lookup kind

/-- The forms that are asked for. -/
def showings (o : Options) : List Showing :=
  let asked := o.given.filterMap fun (c, value) =>
    match c with
    | 't' => showing? value
    | 'b' => showing? "o1"
    | 'c' => showing? "c"
    | 'd' => showing? "u2"
    | 's' => showing? "d2"
    | 'i' => showing? "d4"
    | 'l' => showing? "d8"
    | 'o' => showing? "o2"
    | 'x' | 'h' => showing? "x2"
    | _ => none
  if asked.isEmpty then (showing? "o2").toList else asked

/-- How many columns the elements of a whole row take. -/
def Showing.span (s : Showing) (wide : Nat) : Nat := s.width * (wide / s.size)

/-- A row of bytes; what it has more columns than it needs is shared out between its elements. -/
def Showing.row (s : Showing) (wide columns : Nat) (bytes : List UInt8) : List Char :=
  let count := wide / s.size
  let extra := columns - s.span wide
  (cutUp s.size bytes.length bytes).zipIdx.flatMap fun (piece, k) =>
    let n := piece.reverse.foldl (fun n b => 256 * n + b.toNat) 0
    let here := extra * (count - k) / count - extra * (count - k - 1) / count
    Bytes.rightAligned (s.width + here) (s.text n)

/-- The program `od`: shows bytes as numbers or characters. -/
def dump (i : Invocation) : Ended :=
  i.withOptions {
      alone := "bcdohilsxv"
      valued := "AtNjw"
      long := [("address-radix", 'A'), ("format", 't'), ("read-bytes", 'N'), ("skip-bytes", 'j'),
        ("output-duplicates", 'v')] } fun o =>
    let number (flag : Char) : Option Nat := (o.value? flag).bind Number.natural?
    let written (bytes : List UInt8) : List UInt8 :=
      let bytes := bytes.drop ((number 'j').getD 0)
      let bytes := match number 'N' with
        | some n => bytes.take n
        | none => bytes
      let forms := showings o
      let address (n : Nat) : List Char := match (o.value? 'A').getD "o" with
        | "n" => []
        | "d" => Printing.digits 10 7 n false
        | "x" => Printing.digits 16 6 n false
        | _ => Printing.digits 8 7 n false
      let unit := (forms.map (·.size)).foldl Nat.lcm 1
      let wide := match number 'w' with
        | some n => if 0 < n && n % unit = 0 then n else unit
        | none => 16
      let columns := (forms.map (·.span wide)).foldl max 0
      let rows := cutUp wide bytes.length bytes
      let shown := rows.zipIdx.flatMap fun (row, k) =>
        let isLike (j : Nat) : Bool := rows[j]? == some row
        if !o.has 'v' && 0 < k && k + 1 < rows.length && isLike (k - 1) then
          if 1 < k && isLike (k - 2) then [] else [['*']]
        else forms.zipIdx.map fun (s, f) =>
          (if f = 0 then address (wide * k) else (address 0).map fun _ => ' ') ++
            s.row wide columns row
      let last := address (((number 'j').getD 0) + bytes.length)
      Bytes.ofChars (Bytes.unlines (shown ++ if last.isEmpty then [] else [last]))
    let anyRead := (i.contents o.words).any fun (_, found) => match found with
      | .ok _ | .error .isDirectory => true
      | .error _ => false
    i.forAll o.words fun bytes => if anyRead then written bytes else []

/-! ## Comparing -/

/-- The number of the first byte that differs, and of its line. -/
def firstDifference : Nat → Nat → List UInt8 → List UInt8 → Option (Nat × Nat)
  | byte, line, a :: as, b :: bs =>
    if a == b then firstDifference (byte + 1) (if a == 10 then line + 1 else line) as bs
    else some (byte, line)
  | _, _, _, _ => none

/-- The program `cmp`: finds the first byte in which two files differ. -/
def compare (i : Invocation) : Ended :=
  let knowledge : Knowledge := {
    alone := "sbl"
    long := [("quiet", 's'), ("silent", 's'), ("print-bytes", 'b'), ("verbose", 'l')] }
  let misused (text : String) : Ended :=
    { i.ends 2 with
      output := [i.complaint text,
        i.complaint ("Try '" ++ i.program ++ " --help' for more information.")] }
  match Options.readFrom knowledge false (i.args.length + 1) {} i.args with
  | .error text => misused text
  | .ok o =>
    match o.words with
    | [] => misused ("missing operand after " ++ Options.quoted i.program)
    | _ :: _ :: _ :: _ :: extra :: _ => misused ("extra operand " ++ Options.quoted extra)
    | a :: rest =>
      let b := rest.headD "-"
      match i.content a, i.content b with
      | .error e, _ => i.complained (a ++ ": " ++ reason e) 2
      | _, .error e => i.complained (b ++ ": " ++ reason e) 2
      | .ok x, .ok y =>
        let quiet := o.has 's'
        match firstDifference 1 1 x y with
        | some (byte, line) =>
          if quiet then i.ends 1
          else i.said (a ++ " " ++ b ++ " differ: char " ++ toString byte ++ ", line " ++
            toString line ++ "\n") 1
        | none =>
          if x.length = y.length then i.ends 0
          else if quiet then i.ends 1
          else
            let (short, bytes) := if x.length < y.length then (a, x) else (b, y)
            let lines := bytes.count 10
            i.complained ("EOF on " ++ short ++
              if bytes.isEmpty then " which is empty"
              else " after byte " ++ toString bytes.length ++ ", " ++
                (if bytes.getLast? = some 10 then "line " ++ toString lines
                else "in line " ++ toString (lines + 1)))

end TextUtility

end Fleet.Shell

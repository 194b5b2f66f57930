import Fleet.Digest.Blake2
import Fleet.Digest.Checksum
import Fleet.Digest.Md5
import Fleet.Digest.Sha1
import Fleet.Shell.Bytes
import Fleet.Shell.Invocation

namespace Fleet.Shell

/-! # Utilities for digests

Programs that write digests of files, and compare files with digests that were written before.
-/

namespace DigestUtility

/-- A kind of digest: what it is called in front of a name, how many bytes it has, and how it is
made. -/
structure Kind where
  tag : String
  size : Nat
  digest : List UInt8 → List UInt8

/-- A digest of BLAKE2b with so many bytes. -/
def blake (size : Nat) : Kind :=
  ⟨if size = 64 then "BLAKE2b" else "BLAKE2b-" ++ toString (8 * size), size, Digest.Blake2.digest size⟩

/-- The kinds of digests by their names. -/
def kinds : List (String × Kind) :=
  [("md5", ⟨"MD5", 16, Digest.Md5.digest⟩), ("sha1", ⟨"SHA1", 20, Digest.Sha1.digest⟩),
    ("sha224", ⟨"SHA224", 28, Digest.Sha2.digest224⟩),
    ("sha256", ⟨"SHA256", 32, Digest.Sha2.digest256⟩),
    ("sha384", ⟨"SHA384", 48, Digest.Sha2.digest384⟩),
    ("sha512", ⟨"SHA512", 64, Digest.Sha2.digest512⟩), ("blake2b", blake 64)]

/-! ## Writing digests -/

/-- How the line of a file looks. -/
structure Form where
  /-- the kind and the name stand in front -/
  tagged : Bool := false
  /-- a star in front of the name -/
  starred : Bool := false
  /-- lines end with a zero, and names are written as they are -/
  zero : Bool := false

/-- A name in one line: a line feed, a carriage return and a backslash are marked by a backslash. -/
def escaped (name : String) : String :=
  String.ofList (name.toList.flatMap fun c =>
    match c with
    | '\n' => ['\\', 'n']
    | '\r' => ['\\', 'r']
    | '\\' => ['\\', '\\']
    | c => [c])

/-- The line of a file. -/
def line (k : Kind) (f : Form) (name : String) (bytes : List UInt8) : List UInt8 :=
  let hex := Digest.hex (k.digest bytes)
  let shown := if f.zero then name else escaped name
  let lead := if shown = name then "" else "\\"
  Text.encode (lead ++
    (if f.tagged then k.tag ++ " (" ++ shown ++ ") = " ++ hex
    else hex ++ (if f.starred then " *" else "  ") ++ shown) ++ if f.zero then "\x00" else "\n")

/-! ## Comparing -/

/-- What a line says: the kind if it says so, the name of a file and its digest. -/
structure Entry where
  tag : Option String
  name : String
  hex : String

/-- Takes back the marks in a name. -/
def unescaped : List Char → List Char
  | '\\' :: 'n' :: rest => '\n' :: unescaped rest
  | '\\' :: 'r' :: rest => '\r' :: unescaped rest
  | '\\' :: '\\' :: rest => '\\' :: unescaped rest
  | c :: rest => c :: unescaped rest
  | [] => []

/-- A hexadecimal digit. -/
def isHex (c : Char) : Bool := c.isDigit || ('a' ≤ c && c ≤ 'f') || ('A' ≤ c && c ≤ 'F')

/-- A line with the digest in front. -/
def plainLine? (cs : List Char) : Option Entry :=
  let hex := cs.takeWhile isHex
  match cs.drop hex.length with
  | ' ' :: c :: name =>
    if (c == ' ' || c == '*') && !name.isEmpty then
      some ⟨none, String.ofList name, String.ofList (hex.map Char.toLower)⟩
    else none
  | _ => none

/-- A line with the kind and the name in front. -/
def taggedLine? (cs : List Char) : Option Entry :=
  let tag := cs.takeWhile (· != ' ')
  match cs.drop tag.length with
  | ' ' :: '(' :: rest =>
    let back := rest.reverse
    let hex := back.takeWhile isHex
    match back.drop hex.length with
    | ' ' :: '=' :: ' ' :: ')' :: name =>
      some ⟨some (String.ofList tag), String.ofList name.reverse,
        String.ofList (hex.reverse.map Char.toLower)⟩
    | _ => none
  | _ => none

/-- What a line says, if it is the line of a digest. -/
def anyLine? (cs : List Char) : Option Entry :=
  let cs := cs.dropWhile fun c => c == ' ' || c == '\t'
  let (marked, cs) := match cs with
    | '\\' :: rest => (true, rest)
    | cs => (false, cs)
  (taggedLine? cs <|> plainLine? cs).map fun e =>
    if marked then { e with name := String.ofList (unescaped e.name.toList) } else e

/-- The kind of digest that a program expects from an entry.  A program for one kind does not take
another; the program for BLAKE2b takes every size. -/
def Entry.kind? (e : Entry) (own : Option Kind) : Option Kind :=
  let size := e.hex.length / 2
  let named := e.tag.map fun tag =>
    (kinds.map (·.2)).find? (fun k => k.tag == tag) <|>
      if tag = "BLAKE2b-" ++ toString (8 * size) then some (blake size) else none
  let kind := match named, own with
    | some found, none => found
    | some (some k), some own =>
      if k.tag = own.tag || (k.tag.startsWith "BLAKE2b" && own.tag.startsWith "BLAKE2b") then some k
      else none
    | some none, some _ => none
    | none, some own => some (if own.tag.startsWith "BLAKE2b" then blake size else own)
    | none, none => none
  kind.filter fun k => 0 < k.size && e.hex.length = 2 * k.size

/-- What came of comparing. -/
structure Tally where
  output : List (Bool × List UInt8) := []
  matched : Nat := 0
  mismatched : Nat := 0
  unread : Nat := 0
  malformed : Nat := 0
  wellFormed : Nat := 0

/-- A warning that counts something. -/
def warning (i : Invocation) (n : Nat) (one many : String) : List (Bool × List UInt8) :=
  if n = 0 then [] else [i.complaint ("WARNING: " ++ toString n ++ " " ++ if n = 1 then one else many)]

/-- Compares the files that are named in a list. -/
def compareListed (i : Invocation) (o : Options) (own : Option Kind) (list : String)
    (content : List UInt8) : List (Bool × List UInt8) × Bool :=
  let shownList := Invocation.shown (if list = "-" then "standard input" else list)
  let quiet := o.has 'q' || o.has 'S'
  let step (t : Tally) (entry : List Char × Nat) : Tally :=
    let (cs, number) := entry
    if cs.head? == some '#' || cs.isEmpty then t
    else
      match (anyLine? (Bytes.widen cs).toList).bind fun e => (e.kind? own).map fun k => (e, k) with
      | none =>
        { t with
          malformed := t.malformed + 1
          output := t.output ++ if o.has 'w' then [i.complaint (shownList ++ ": " ++
            toString number ++ ": improperly formatted " ++
            ((own.map (·.tag)).getD "CRC") ++ " checksum line")] else [] }
      | some (e, k) =>
        let t := { t with wellFormed := t.wellFormed + 1 }
        let said (result : String) : Bool × List UInt8 :=
          let shown := escaped e.name
          (false, Text.encode ((if shown = e.name then "" else "\\") ++ shown ++ ": " ++ result ++
            "\n"))
        match i.content e.name with
        | .error problem =>
          if o.has 'i' && problem = .noEntry then t
          else { t with
            unread := t.unread + 1
            output := t.output ++ i.unread e.name problem ::
              if o.has 'S' then [] else [said "FAILED open or read"] }
        | .ok bytes =>
          if Digest.hex (k.digest bytes) = e.hex then
            { t with
              matched := t.matched + 1
              output := t.output ++ if quiet then [] else [said "OK"] }
          else
            { t with
              mismatched := t.mismatched + 1
              output := t.output ++ if o.has 'S' then [] else [said "FAILED"] }
  let t := ((Bytes.lines (Bytes.chars content)).zipIdx 1).foldl step {}
  if t.wellFormed = 0 then
    (t.output ++ [i.complaint (shownList ++ ": no properly formatted checksum lines found")], false)
  else
    let warnings := if o.has 'S' then [] else
      warning i t.malformed "line is improperly formatted" "lines are improperly formatted" ++
        warning i t.unread "listed file could not be read" "listed files could not be read" ++
        warning i t.mismatched "computed checksum did NOT match"
          "computed checksums did NOT match" ++
        if o.has 'i' && t.matched = 0 then [i.complaint (shownList ++ ": no file was verified")]
        else []
    (t.output ++ warnings,
      0 < t.matched && t.mismatched = 0 && t.unread = 0 && (t.malformed = 0 || !o.has 's'))

/-- Compares the files that are named in lists. -/
def compareAll (i : Invocation) (o : Options) (own : Option Kind) : Ended :=
  let results := (i.contents o.words).map fun (name, found) => match found with
    | .ok content => compareListed i o own name content
    | .error e => ([if e = IoError.isDirectory then i.complaint (Invocation.shown name ++ ": read error")
        else i.unread name e], false)
  { output := results.flatMap (·.1)
    status := .exited (if results.all (·.2) then 0 else 1)
    files := i.files
    taken := i.takenBy o.words }

/-! ## Programs -/

/-- The options of programs for digests. -/
def knowledge : Knowledge where
  alone := "bctwzTqSsi"
  long := [("binary", 'b'), ("check", 'c'), ("text", 't'), ("warn", 'w'), ("zero", 'z'),
    ("tag", 'T'), ("quiet", 'q'), ("status", 'S'), ("strict", 's'), ("ignore-missing", 'i')]

/-- The options that only make sense where files are compared. -/
def forComparing : List (Char × String) :=
  [('i', "--ignore-missing"), ('S', "--status"), ('w', "--warn"), ('q', "--quiet"),
    ('s', "--strict")]

/-- Writes or compares digests of one kind. -/
def runKind (i : Invocation) (o : Options) (k : Kind) : Ended :=
  let checks := o.has 'c'
  if o.has 'T' && o.lastOf ['b', 't'] = some 't' then
    i.misused "--tag does not support --text mode"
  else if o.has 'z' && checks then
    i.misused "the --zero option is not supported when verifying checksums"
  else if o.has 'T' && checks then
    i.misused "the --tag option is meaningless when verifying checksums"
  else if checks && (o.has 'b' || o.has 't') then
    i.misused "the --binary and --text options are meaningless when verifying checksums"
  else match forComparing.find? fun (c, _) => o.has c && !checks with
    | some (_, name) =>
      i.misused ("the " ++ name ++ " option is meaningful only when verifying checksums")
    | none =>
      if checks then compareAll i o (some k)
      else
        i.forFiles o.words (line k {
          tagged := o.has 'T', starred := o.lastOf ['b', 't'] = some 'b', zero := o.has 'z' })

/-- A program for one kind of digest. -/
def run (kind : String) (i : Invocation) : Ended :=
  match kinds.lookup kind with
  | none => i.ends 1
  | some k => i.withOptions knowledge fun o => runKind i o k

/-- How many bytes a digest has that is asked for in bits, or what is wrong with that. -/
def sizeOf (text : String) : Except (List String) Nat :=
  match Number.natural? text with
  | none => .error ["invalid length: " ++ Options.quoted text]
  | some bits =>
    if bits % 8 != 0 then
      .error ["invalid length: " ++ Options.quoted text, "length is not a multiple of 8"]
    else if 512 < bits then
      .error ["invalid length: " ++ Options.quoted text,
        "maximum digest length for 'BLAKE2b' is 512 bits"]
    else .ok (if bits = 0 then 64 else bits / 8)

/-- The program `b2sum`: digests of BLAKE2b in any size. -/
def runBlake (i : Invocation) : Ended :=
  i.withOptions { knowledge with
      valued := "l", long := ("length", 'l') :: knowledge.long } fun o =>
    match sizeOf ((o.value? 'l').getD "512") with
    | .error texts => { i.ends 1 with output := texts.map i.complaint }
    | .ok size => runKind i o (blake size)

/-! ## Short checks -/

/-- A program that writes a line for every file: a check and a count, and the name if files are
named. -/
def checks (i : Invocation) (words : List String) (text : List UInt8 → String) : Ended :=
  i.forFiles words fun name bytes =>
    Text.encode (text bytes ++ (if words.isEmpty then "" else " " ++ name) ++ "\n")

/-- A sum that is turned, and how many blocks of 1024 bytes there are. -/
def turningText (bytes : List UInt8) : String :=
  let digits := (toString (Digest.Checksum.turning bytes)).toList
  String.ofList (List.replicate (5 - digits.length) '0' ++ digits) ++ " " ++
    String.ofList (Bytes.column 5 ((bytes.length + 1023) / 1024))

/-- A plain sum, and how many blocks of 512 bytes there are. -/
def plainText (bytes : List UInt8) : String :=
  toString (Digest.Checksum.plain bytes) ++ " " ++ toString ((bytes.length + 511) / 512)

/-- The rest of a division, and how many bytes there are. -/
def cyclicText (bytes : List UInt8) : String :=
  toString (Digest.Checksum.cyclic bytes) ++ " " ++ toString bytes.length

/-- The program `sum`: sums of 16 bits. -/
def runSum (i : Invocation) : Ended :=
  i.withOptions { alone := "rs", long := [("sysv", 's')] } fun o =>
    checks i o.words (if o.lastOf ['r', 's'] = some 's' then plainText else turningText)

/-- The names of the ways to check. -/
def algorithms : List String :=
  ["bsd", "sysv", "crc"] ++ (kinds.map (·.1)) ++ ["sm3"]

/-- The program `cksum`: any kind of check. -/
def runAny (i : Invocation) : Ended :=
  i.withOptions {
      alone := knowledge.alone ++ "uR"
      valued := "al"
      long := [("algorithm", 'a'), ("length", 'l'), ("untagged", 'u'), ("raw", 'R')] ++
        knowledge.long } fun o =>
    let asked := o.value? 'a'
    let name := asked.getD "crc"
    match sizeOf ((o.value? 'l').getD "512") with
    | .error texts => { i.ends 1 with output := texts.map i.complaint }
    | .ok size =>
      let kind := if name = "blake2b" then some (blake size) else kinds.lookup name
      if !(algorithms.contains name) then
        { i.ends 1 with output := [
            i.complaint ("invalid argument " ++ Options.quoted name ++ " for '--algorithm'"),
            (true, Text.encode ("Valid arguments are:\n" ++
              String.join (algorithms.map fun a => "  - " ++ Options.quoted a ++ "\n"))), i.hint] }
      else if o.has 'l' && name != "blake2b" then
        i.misused "--length is only supported with --algorithm=blake2b"
      else if o.has 'c' then
        if asked.isSome && kind.isNone then
          i.misused "--check is not supported with --algorithm=\x7bbsd,sysv,crc\x7d"
        else compareAll i o kind
      else match kind with
        | some k =>
          if o.has 'R' then i.forFiles o.words fun _ bytes => k.digest bytes
          else i.forFiles o.words (line k { tagged := !o.has 'u' || o.has 'T', zero := o.has 'z' })
        | none =>
          checks i o.words
            (if name = "bsd" then turningText else if name = "sysv" then plainText else cyclicText)

end DigestUtility

end Fleet.Shell

import Fleet.Shell.Usage

namespace Fleet.Shell

/-! # Reading into variables

How the commands of an extended shell read lines into variables and lists.
-/

namespace Intake

open Session

/-- How a line is taken. -/
structure Taking where
  /-- backslashes quote nothing -/
  raw : Bool := false
  /-- what ends the line -/
  stop : UInt8 := 10
  /-- how many characters are taken at most -/
  limit : Option Nat := none
  /-- the characters are counted whatever they are -/
  exact : Bool := false

/-- Takes a line from some bytes, each marked as quoted or not.  Says how many bytes are taken and
whether the line has an end. -/
def taken (t : Taking) : Nat → List UInt8 → List (UInt8 × Bool) × Nat × Bool
  | _, [] => ([], 0, false)
  | count, b :: rest =>
    let with1 (m : List (UInt8 × Bool)) (passed : Nat) (more : List (UInt8 × Bool) × Nat × Bool) :
        List (UInt8 × Bool) × Nat × Bool := (m ++ more.1, more.2.1 + passed, more.2.2)
    if t.limit.any (· ≤ count) then ([], 0, true)
    else if b == t.stop && !t.exact then ([], 1, true)
    else if b == 0 then with1 [] 1 (taken t count rest)
    else if b == 92 && !t.raw then
      match rest with
      | [] => ([], 1, false)
      | 10 :: rest => with1 [] 2 (taken t count rest)
      | c :: rest => with1 [(c, true)] 2 (taken t (count + 1) rest)
    else with1 [(b, false)] 1 (taken t (count + 1) rest)

/-- A line that holds as much as was asked for, though the bytes ended with it. -/
def isFull (t : Taking) (line : List (UInt8 × Bool)) : Bool :=
  t.limit.any (· ≤ line.length)

/-- The characters of bytes, which are quoted or not. -/
def marked : Nat → List (UInt8 × Bool) → List Marked
  | 0, _ => []
  | _, [] => []
  | n + 1, (b, q) :: rest =>
    let run := rest.takeWhile fun (_, r) => r == q
    (Text.decodeLossy (b :: run.map (·.1))).map (fun c => (c, q)) ++ marked n (rest.drop run.length)

/-- All fields of a line. -/
def fieldsOf (separators : String) (line : List Marked) : List String :=
  let marks := line.map fun (c, q) => Mark.char c q (!q)
  (Mark.fieldsOf separators (marks ++ [.edge false])).map plain

/-- The bytes that are left to be read from a stream, and its channel. -/
def input? (stream : Nat) : Act (Option (Nat × List UInt8)) := do
  let s ← get
  match s.shell.streams.lookup stream with
  | none => return none
  | some channel =>
    match s.world.readable channel with
    | .ok (bytes, _) => return some (channel, bytes)
    | .error _ => return none

/-- Reads a line and shares out its fields among variables. -/
def read : Builtin.Action := fun args => do
  match ← Usage.options "read" "ersa:d:i:n:N:p:t:u:" args with
  | none => return 2
  | some (given, names) =>
    let value? (c : Char) : Option String := (given.reverse.find? (·.1 == c)).map (·.2)
    let badCount := ['n', 'N'].filterMap fun c =>
      (value? c).bind fun w => if (Number.natural? w).isSome then none else some w
    let badTime := (value? 't').filter fun w => !w.toList.all fun c => c.isDigit || c == '.'
    let badStream := (value? 'u').filter fun w => (Number.natural? w).isNone
    let stream := ((value? 'u').bind Number.natural?).getD 0
    match badTime, badCount, badStream, ← input? stream with
    | some w, _, _, _ =>
      warn (w ++ ": invalid timeout specification")
      return 1
    | _, w :: _, _, _ =>
      warn (w ++ ": invalid number")
      return 1
    | _, _, some w, _ =>
      warn (w ++ ": invalid file descriptor specification")
      return 1
    | _, _, _, none =>
      warn (if stream = 0 then "read error: 0: Bad file descriptor"
        else toString stream ++ ": invalid file descriptor: Bad file descriptor")
      return 1
    | _, _, _, some (channel, bytes) =>
      let exact := given.any (·.1 == 'N')
      let t : Taking := {
        raw := given.any (·.1 == 'r')
        stop := match value? 'd' with
          | some text => (Text.encode text).headD 0
          | none => 10
        limit := (value? 'N' <|> value? 'n').bind Number.natural?
        exact }
      let (line, count, ended) := taken t 0 bytes
      changeWorld (·.passed channel count)
      let status := if ended || isFull t line then 0 else 1
      let line := marked (line.length + 1) line
      let s ← getShell
      match value? 'a', names.find? fun name => !Word.isName (name.toList.takeWhile (· != '[')) with
      | some list, _ =>
        if !Word.isName list.toList then
          Usage.noName list
          return 1
        else
          assignList list false ((fieldsOf s.separators line).map fun text => { text })
          return status
      | none, some bad =>
        Usage.noName bad
        return 1
      | none, none =>
        if names.isEmpty then assign "REPLY" (plain line)
        else
          let values := if exact then [line]
            else Builtin.valuesOf s.separators.toList names.length line
          for (name, value) in names.zip (values ++ List.replicate names.length []) do
            give name (plain value)
        return status
where
  /-- Gives a variable or a place in a list a value. -/
  give (word value : String) : Act Unit := do
    let cs := word.toList
    let name := cs.takeWhile (· != '[')
    match cs.drop name.length with
    | '[' :: rest => assignAt (String.ofList name) (String.ofList rest.dropLast) false value
    | _ => assign word value

/-- Cuts bytes behind every stop. -/
def lines (stop : UInt8) (bytes : List UInt8) : List (List UInt8) :=
  let pieces := Text.splitOn stop bytes
  let whole := pieces.dropLast.map (· ++ [stop])
  match pieces.getLast? with
  | some [] | none => whole
  | some last => whole ++ [last]

/-- Reads lines into a list. -/
def readAll (command : String) : Builtin.Action := fun args => do
  match ← Usage.options command "d:n:O:s:tu:C:c:" args with
  | none => return 2
  | some (given, names) =>
    let value? (c : Char) : Option String := (given.reverse.find? (·.1 == c)).map (·.2)
    let number (c : Char) : Option Nat := (value? c).bind Number.natural?
    let name := names.headD "MAPFILE"
    let bad := ['n', 'O', 's'].filterMap fun c =>
      (value? c).bind fun w => if (Number.natural? w).isSome then none else some (c, w)
    match bad, ← input? ((number 'u').getD 0) with
    | (c, w) :: _, _ =>
      warn (w ++ (if c == 'O' then ": invalid array origin" else ": invalid line count"))
      return 1
    | [], none =>
      warn (toString ((number 'u').getD 0) ++ ": invalid file descriptor: Bad file descriptor")
      return 1
    | [], some (channel, bytes) =>
      if !Word.isName name.toList then
        Usage.noName name
        return 1
      else
        let stop : UInt8 := match value? 'd' with
          | some text => (Text.encode text).headD 0
          | none => 10
        let skipped := (number 's').getD 0
        let found := lines stop bytes
        let count := match number 'n' with
          | some 0 | none => found.length
          | some n => n + skipped
        let used := found.take count
        changeWorld (·.passed channel (used.foldl (fun n l => n + l.length) 0))
        let trims := given.any (·.1 == 't')
        let texts := (used.drop skipped).map fun l =>
          let l := if trims && l.getLast? == some stop then l.dropLast else l
          String.ofList (Text.decodeLossy (l.filter (· != 0)))
        let first := (number 'O').getD 0
        let items : List Item := texts.zipIdx.map fun (text, k) =>
          { key := some (toString (first + k)), text }
        assignList name (given.any (·.1 == 'O')) items
        return 0

end Intake

end Fleet.Shell

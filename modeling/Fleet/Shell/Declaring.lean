import Fleet.Shell.Quotation
import Fleet.Shell.Usage

namespace Fleet.Shell

/-! # Declared variables

The commands of an extended shell that say what variables are, and how variables are listed so that
the list can be read again.
-/

namespace Declaring

open Session

/-! ## Lists of variables -/

/-- The letters that say what a variable is. -/
def letters (v : Variable) : String :=
  let kind := match v.cells with
    | some (.numbered _) => ['a']
    | some (.named _) => ['A']
    | none => []
  let trait (c : Char) : List Char := if v.traits.contains c then [c] else []
  String.ofList (kind ++ trait 'i' ++ trait 'n' ++ (if v.readOnly then ['r'] else []) ++
    (if v.exported then ['x'] else []) ++ trait 'l' ++ trait 'u')

/-- A key between brackets. -/
def keyText (key : String) : String :=
  if Quotation.needsCodes key then Quotation.coded key
  else if Quotation.hasMeaning none key.toList || key.isEmpty then Quotation.double key
  else key

/-- The values of a list, with their keys, between parentheses. -/
def cellsText (cells : Cells) : String :=
  let entries := cells.entries.map fun (k, v) => "[" ++ keyText k ++ "]=" ++ Quotation.listed v
  "(" ++ " ".intercalate entries ++
    (if cells.isNamed && !entries.isEmpty then " " else "") ++ ")"

/-- The command that declares a variable. -/
def declaration (name : String) (v : Variable) : String :=
  let marks := letters v
  "declare -" ++ (if marks.isEmpty then "-" else marks) ++ " " ++ name ++
    match v.cells, v.value with
    | some cells, _ => if v.untouched then "" else "=" ++ cellsText cells
    | none, some value => "=" ++ Quotation.listed value
    | none, none => ""

/-- A variable as it is listed with its value only. -/
def plainLine? (name : String) (v : Variable) : Option String :=
  match v.cells with
  | some cells => some (name ++ "=" ++ cellsText cells)
  | none => v.value.map fun value => name ++ "=" ++ Quotation.asNeeded value

/-- The variables in the order of their names. -/
def sorted (s : State) : List (String × Variable) :=
  s.store.mergeSort fun a b => Builtin.notBehind a.1 b.1

/-- The variables with their values only. -/
def plainLines (s : State) : List String :=
  (sorted s).filterMap fun (name, v) => plainLine? name v

/-! ## Declaring -/

/-- What a word of a declaration says. -/
structure Wish where
  name : String
  key : Option String := none
  adds : Bool := false
  value : Option String := none

/-- Reads a word of a declaration. -/
def Wish.ofWord (word : String) : Wish :=
  let (left, value) := Builtin.binding word
  let cs := left.toList
  let adds := value.isSome && cs.getLast? == some '+'
  let cs := if adds then cs.dropLast else cs
  let name := cs.takeWhile (· != '[')
  let key := match cs.drop name.length with
    | '[' :: rest => if rest.getLast? == some ']' then some (String.ofList rest.dropLast) else none
    | _ => none
  if key.isSome then { name := String.ofList name, key, adds, value }
  else { name := String.ofList cs, adds, value }

/-- What is said of all the variables that are named. -/
structure Marks where
  on : List Char := []
  off : List Char := []

/-- Reads the letters in front of the words of a declaration, if they are all known. -/
def marksOf (command : String) (known : List Char) :
    Nat → Marks → List String → Act (Option (Marks × List String))
  | 0, m, words => return some (m, words)
  | _, m, [] => return some (m, [])
  | n + 1, m, word :: rest =>
    match word.toList with
    | ['-', '-'] => return some (m, rest)
    | sign :: c :: more => do
      if sign != '-' && sign != '+' then return some (m, word :: rest)
      else match (c :: more).find? fun c => !known.contains c with
        | some bad =>
          let _ ← Usage.unknown command sign bad
          return none
        | none =>
          let m := if sign == '-' then { m with on := m.on ++ c :: more }
            else { m with off := m.off ++ c :: more }
          marksOf command known n m rest
    | _ => return some (m, word :: rest)

/-- Hides a variable until the function ends. -/
def hide (name : String) : Act Unit := change fun s =>
  match s.hidden with
  | frame :: others =>
    { s with hidden := ((name, s.store.lookup name) :: frame) :: others }.putAs name
      { value := none }
  | [] => s

/-- The letters of traits. -/
def traitLetters : List Char := ['i', 'l', 'u', 'n']

/-- The traits of a variable after something is said of it. -/
def traitsAfter (m : Marks) (old : List Char) : List Char :=
  let kept := old.filter fun c => !m.off.contains c &&
    !(m.on.contains 'l' && c == 'u') && !(m.on.contains 'u' && c == 'l')
  kept ++ (traitLetters.filter fun c => m.on.contains c && !kept.contains c)

/-- The variable as a list, if it is to be one; `none` if it is another kind of list. -/
def listed? (m : Marks) (v : Variable) : Option Variable :=
  if m.on.contains 'A' then
    match v.cells with
    | some (.numbered _) => none
    | some (.named _) => some v
    | none => some { v with cells := some (.named (v.value.toList.map fun t => ("0", t))) }
  else if m.on.contains 'a' then
    match v.cells with
    | some (.named _) => none
    | some (.numbered _) => some v
    | none => some { v with cells := some (.ofValues v.value.toList) }
  else some v

/-- Declares one variable as a word says: whether it could be done. -/
def declareOne (m : Marks) (inFunction : Bool) (word : String) : Act Bool := do
  let wish := Wish.ofWord word
  let items := (← getShell).lists.lookup word
  if !Word.isName wish.name.toList then
    Usage.noName word
    return false
  else
    let s ← getShell
    let name := if m.on.contains 'n' then wish.name else s.meant wish.name
    let held := s.store.lookup name
    let gives := wish.value.isSome || items.isSome
    if held.any (·.readOnly) && (gives || m.off.contains 'r' || inFunction) then
      warn (name ++ ": readonly variable")
      return false
    else
      if inFunction then hide name
      let old := ((← getShell).store.lookup name).getD { value := none }
      let isList := items.isSome && old.cells.isNone && !m.on.contains 'A'
      let m := if isList then { m with on := 'a' :: m.on } else m
      match listed? m old with
      | none =>
        warn (name ++ ": cannot convert " ++ (if old.isNamed then "associative to indexed"
          else "indexed to associative") ++ " array")
        return false
      | some v =>
        let untouched := !gives && old.cells.isNone && v.cells.isSome && old.value.isNone
        let v := { v with
          traits := traitsAfter m v.traits
          untouched := v.untouched || untouched
          exported := (v.exported || m.on.contains 'x') && !m.off.contains 'x' }
        change fun s => s.putAs name v
        if m.on.contains 'n' then
          match wish.value with
          | some value => change fun s => s.putAs name { v with value := some value }
          | none => pure ()
        else match items, wish.value, wish.key with
          | some items, _, _ => assignList name wish.adds items
          | none, some value, some key => assignAt name key wish.adds value
          | none, some value, none => if wish.adds then assignMore name value else assign name value
          | none, none, _ => pure ()
        if m.on.contains 'r' then
          change fun s => s.putAs name { (s.store.lookup name).getD v with readOnly := true }
        return true

/-- Declares variables as words say: the status. -/
def declareAll (m : Marks) (inFunction : Bool) (words : List String) : Act Nat := do
  let mut status := 0
  for word in words do
    if !(← declareOne m inFunction word) then status := 1
  return status

/-- A variable is what the letters say. -/
def fits (m : Marks) (v : Variable) : Bool :=
  let own := (letters v).toList
  m.on.all fun c => c == 'p' || c == 'g' || own.contains c

/-- Lists variables that are what the letters say. -/
def list (m : Marks) : Act Nat := do
  let s ← getShell
  Usage.printLines (((sorted s).filter fun (_, v) => fits m v).map fun (name, v) =>
    declaration name v)

/-- Lists the variables of some names. -/
def listNamed (words : List String) : Act Nat := do
  let mut status := 0
  for name in words do
    let s ← getShell
    match s.store.lookup name <|> s.computed? name with
    | some v =>
      let _ ← Usage.printLines [declaration name v]
    | none =>
      warn (name ++ ": not found")
      status := 1
  return status

/-- Lists the names of functions. -/
def listFunctions (words : List String) : Act Nat := do
  let s ← getShell
  if words.isEmpty then
    let names := (s.functions.map (·.1)).mergeSort Builtin.notBehind
    Usage.printLines (names.map fun name => "declare -f " ++ name)
  else
    let known := words.filter fun name => (s.functions.lookup name).isSome
    let _ ← Usage.printLines known
    return if known.length = words.length then 0 else 1

/-- Says what variables are, or lists them. -/
def declareWith (command : String) (isLocal : Bool) (args : List String) : Act Nat := do
  let s ← getShell
  let inFunction := !s.calls.isEmpty
  if isLocal && !inFunction then
    warn "can only be used in a function"
    return 1
  else
    match ← marksOf command "aAfFgiIlnprtux".toList (args.length + 1) {} args with
    | none => return 2
    | some (m, words) =>
      if m.on.contains 'f' || m.on.contains 'F' then
        if m.on.contains 'F' then listFunctions words
        else return if words.all fun w => (s.functions.lookup w).isSome then 0 else 1
      else if words.isEmpty then
        if isLocal then
          let names := ((s.hidden.headD []).map (·.1)).eraseDups.mergeSort Builtin.notBehind
          Usage.printLines (names.filterMap fun name =>
            (s.store.lookup name).map (declaration name))
        else if m.on.isEmpty then Usage.printLines (plainLines s)
        else list m
      else if m.on.contains 'p' then listNamed words
      else declareAll m (inFunction && (isLocal || !m.on.contains 'g')) words

/-- Says what variables are, in a function until it ends. -/
def declareAny (command : String) : Builtin.Action := declareWith command false

/-- Says what variables of a function are. -/
def declareLocal : Builtin.Action := declareWith "local" true

/-- Gives variables to the programs that are started. -/
def exportAll : Builtin.Action := fun args => do
  match ← Usage.options "export" "fnp" args with
  | none => return 2
  | some (given, words) =>
    let has (c : Char) : Bool := given.any fun (d, _) => d == c
    if words.isEmpty then list { on := ['x'] }
    else if has 'f' then
      let s ← getShell
      let missing := words.filter fun name => (s.functions.lookup name).isNone
      for name in missing do warn (name ++ ": not a function")
      return if missing.isEmpty then 0 else 1
    else declareAll (if has 'n' then { off := ['x'] } else { on := ['x'] }) false words

/-- Makes variables such as are not to be changed. -/
def fixAll : Builtin.Action := fun args => do
  match ← Usage.options "readonly" "aAfp" args with
  | none => return 2
  | some (given, words) =>
    if words.isEmpty then list { on := ['r'] }
    else
      let kinds := (given.map (·.1)).filter fun c => c == 'a' || c == 'A'
      declareAll { on := 'r' :: kinds } false words

/-- Forgets one variable or place: whether that could be done. -/
def forget (name : String) : Act Bool := do
  let wish := Wish.ofWord name
  let s ← getShell
  match s.holding? wish.name, wish.key with
  | none, _ => return true
  | some v, key =>
    if v.readOnly then
      warn (wish.name ++ ": cannot unset: readonly variable")
      return false
    else match key with
      | none =>
        change fun s => s.without (s.meant name)
        return true
      | some "@" | some "*" =>
        change fun s => s.without (s.meant wish.name)
        return true
      | some key =>
        match v.cells with
        | none =>
          if key = "0" then
            change fun s => s.without (s.meant wish.name)
            return true
          else
            warn (wish.name ++ ": not an array variable")
            return false
        | some cells =>
          let key ← if v.isNamed then pure key else keyOf wish.name key
          change fun s => s.put wish.name (v.withCells (cells.erase key))
          return true

/-- Forgets variables, places and functions. -/
def unset : Builtin.Action := fun args => do
  match ← Usage.options "unset" "fvn" args with
  | none => return 2
  | some (given, words) =>
    let has (c : Char) : Bool := given.any fun (d, _) => d == c
    if has 'f' && has 'v' then
      warn "cannot simultaneously unset a function and a variable"
      return 1
    else
      let mut status := 0
      for name in words do
        let s ← getShell
        let isFunction := has 'f' ||
          (!has 'v' && (s.holding? (Wish.ofWord name).name).isNone)
        if has 'n' then change fun s => s.without name
        else if isFunction then
          change fun s => { s with functions := s.functions.filter fun (n, _) => n != name }
        else if !(← forget name) then status := 1
      return status

end Declaring

end Fleet.Shell

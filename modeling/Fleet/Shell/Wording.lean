import Fleet.Shell.Braces
import Fleet.Shell.Runner
import Fleet.Shell.Sense

namespace Fleet.Shell

/-! # Expanding words

What becomes of the words of a command: parameters, numbers and the output of other commands take
their places, and the fields of the result are paths if they are patterns.
-/

namespace Runner

open Session Process

/-- Expands a word that stands in the place of a value. -/
def useWord (r : Runner) (purpose : Purpose) (quoted : Bool) (word : Word) : Act (List Mark) := do
  let home := (← getShell).home?
  let word := if quoted then word else Expansion.withHomes home false true word
  r.word purpose (!quoted) word

/-- A pattern whose word is expanded. -/
def shapes (grouping : Bool) (marks : List Mark) : Shapes := Shapes.read grouping (Mark.textOf marks)

/-- Expands a parameter. -/
def parameter (r : Runner) (purpose : Purpose) (name : String) (use : Use) (argument : Word)
    (quoted : Bool) : Act (List Mark) := do
  let s ← getShell
  let isMissing (orEmpty : Bool) : Bool := Expansion.isUnset s name ||
    (orEmpty && (if Expansion.isAll name then Expansion.joined s
      else (s.parameter? name).getD "").isEmpty)
  let own (change : String → String) : Act (List Mark) :=
    Expansion.own purpose quoted name change
  match use with
  | .value =>
    Expansion.check name
    let marks ← own id
    return marks ++ (← r.useWord purpose quoted argument)
  | .length =>
    Expansion.check name
    let size := toString (Expansion.size s name)
    return Expansion.marksOf (purpose == .fields) quoted size
  | .orElse orEmpty =>
    if isMissing orEmpty then r.useWord purpose quoted argument else own id
  | .instead orEmpty =>
    if isMissing orEmpty then return [] else r.useWord purpose quoted argument
  | .assign orEmpty =>
    if isMissing orEmpty && !Expansion.isAll name then
      let marks ← r.useWord .text quoted argument
      Builtin.checkName name
      assign name (plain (Mark.textOf marks))
    own id
  | .require orEmpty =>
    if isMissing orEmpty then
      let marks ← r.useWord .text quoted argument
      let absence := "parameter not set" ++ if orEmpty then " or null" else ""
      fail (name ++ ": " ++
        if argument.isEmpty then absence else plain (Mark.textOf marks))
    else own id
  | .dropFront longest =>
    Expansion.check name
    let marks ← r.word .text false argument
    own ((shapes false marks).dropFront longest)
  | .dropEnd longest =>
    Expansion.check name
    let marks ← r.word .text false argument
    own ((shapes false marks).dropEnd longest)
  | _ => fail "Bad substitution"

/-- What a parameter of an extended shell stands for. -/
def sense (r : Runner) (name : String) (key : Option Key) (indirect : Bool) : Act Sense := do
  let key ← match key with
    | none => pure none
    | some (.all joined) => pure (some (if joined then "*" else "@"))
    | some (.at word) => do
      let marks ← r.word .text false word
      pure (some (plain (Mark.textOf marks)))
  let m ← Sense.of name key
  if indirect then m.named else return m

/-- A number that a word says. -/
def numberOf (r : Runner) (word : Word) : Act (String × Int) := do
  let text := plain (Mark.textOf (← r.word .text false word))
  return (text, ← workedOut text)

/-- Expands a parameter of an extended shell. -/
def element (r : Runner) (purpose : Purpose) (name : String) (key : Option Key) (indirect : Bool)
    (use : Use) (arguments : List Word) (quoted : Bool) : Act (List Mark) := do
  let first := arguments.headD []
  let second := arguments.tail.head?
  if use = .unknown then
    failPlainly (String.ofList (Word.characters first) ++ ": bad substitution")
  let m ← r.sense name key (indirect && use ≠ .keys)
  let own (values : List String) : Act (List Mark) := m.marks purpose quoted values
  let pattern : Act Shapes := do
    m.check
    let marks ← r.word .text false first
    return shapes ((← getShell).customs.contains "extglob") marks
  match use with
  | .length =>
    m.check
    return Expansion.marksOf (purpose == .fields) quoted (toString m.size)
  | .orElse orEmpty =>
    if m.isMissing orEmpty then r.useWord purpose quoted first else own m.values
  | .instead orEmpty =>
    if m.isMissing orEmpty then return [] else r.useWord purpose quoted first
  | .assign orEmpty =>
    if m.isMissing orEmpty then
      let marks ← r.useWord .text quoted first
      m.assign (plain (Mark.textOf marks))
      own (← r.sense name key indirect).values
    else own m.values
  | .require orEmpty =>
    if m.isMissing orEmpty then
      let marks ← r.useWord .text quoted first
      m.require (if first.isEmpty then "parameter " ++ (if orEmpty then "null or " else "") ++
        "not set" else plain (Mark.textOf marks))
    else own m.values
  | .dropFront longest =>
    let p ← pattern
    own (m.values.map (p.dropFront longest))
  | .dropEnd longest =>
    let p ← pattern
    own (m.values.map (p.dropEnd longest))
  | .letters large all =>
    let p ← pattern
    let p := if first.isEmpty then [.plain [.anyOne]] else p
    own (m.values.map (Alteration.lettered p large all))
  | .replace place =>
    let p ← pattern
    let marks ← r.useWord .text false (second.getD [])
    own (m.values.map (Alteration.replaced place p (Mark.textOf marks)))
  | .slice =>
    m.check
    let (_, start) ← r.numberOf first
    let count ← second.mapM r.numberOf
    match m.slice? (← getShell) start (count.map (·.2)) with
    | some values => own values
    | none => failPlainly ((count.map (·.1)).getD "" ++ ": substring expression < 0")
  | .told letter =>
    m.check
    match m.told? (← getShell) letter with
    | some values => own values
    | none => failPlainly ("$\x7b" ++ m.label ++ "@" ++ letter.toString ++ "\x7d: bad substitution")
  | .keys => own (m.entries.map (·.1))
  | _ =>
    m.check
    own m.values

/-- Expands the names of variables that begin with a text. -/
def names (purpose : Purpose) (start : String) (joined quoted : Bool) : Act (List Mark) := do
  let s ← getShell
  let found := (s.store.map (·.1)).filter fun name => start.toList.isPrefixOf name.toList
  return Expansion.marksOfAll s joined (purpose == .fields) quoted (Bytes.sorted found)

/-- The text of a formula, in which double quotes do not count. -/
def formula (r : Runner) (body : Word) : Act String := do
  let marks ← r.word .document false body
  return String.ofList ((plain (Mark.textOf marks)).toList.filter (· != '"'))

/-- Expands a piece of a word. -/
def part (r : Runner) (purpose : Purpose) (inUse : Bool) (p : Part) : Act (List Mark) := do
  let splits := purpose == .fields
  match p with
  | .text cs true =>
    return if cs.isEmpty then [.quote] else cs.map fun c => .char c true false
  | .text cs false =>
    if inUse then return (cs.map fun c => Mark.char c false splits) ++ [.edge false]
    else return cs.map fun c => .char c false false
  | .substitution body quoted => return Expansion.marksOf splits quoted (← r.substituted body)
  | .arithmetic body quoted =>
    let v ← if (← getShell).extended then workedOut (← r.formula body)
      else do
        let marks ← r.word .document false body
        Expansion.arithmetic (plain (Mark.textOf marks))
    return Expansion.marksOf splits quoted (toString v)
  | .parameter name use argument quoted =>
    if (← getShell).extended then r.element purpose name none false use [argument] quoted
    else r.parameter purpose name use argument quoted
  | .element name key indirect use arguments quoted =>
    r.element purpose name key indirect use arguments quoted
  | .names start joined quoted => names purpose start joined quoted
  | .stream body reads => return Expansion.marksOf splits true (← r.streamPath body reads)
  | p => return (Word.characters [p]).map fun c => .char c true false

/-- Expands the pieces of a word. -/
def parts (r : Runner) (purpose : Purpose) (inUse : Bool) : Word → Act (List Mark)
  | [] => return []
  | p :: rest => do
    let own ← r.part purpose inUse p
    let others ← parts r purpose inUse rest
    return own ++ others

/-- Expands a word. -/
def expand (r : Runner) (purpose : Purpose) (word : Word) : Act (List Mark) := do
  let home := (← getShell).home?
  match purpose with
  | .document => r.parts purpose false word
  | .value => r.parts purpose false (Expansion.withHomes home true true word)
  | _ => r.parts purpose false (Expansion.withHomes home false true word)

/-- Expands a word to a text. -/
def textOfWord (r : Runner) (purpose : Purpose) (word : Word) : Act String := do
  return plain (Mark.textOf (← r.expand purpose word))

/-! ## Fields -/

/-- How the paths are looked for that a field matches. -/
def globbing (s : State) : Globbing :=
  let has (name : String) : Bool := s.extended && s.customs.contains name
  { extended := s.extended, grouping := has "extglob", hidden := has "dotglob",
    deep := has "globstar", ignoresCase := has "nocaseglob" }

/-- The paths that a field matches, or what else becomes of it. -/
def pathsOf (field : List Marked) : Act (List String) := do
  let s ← get
  if s.shell.has 'f' then return [plain field]
  else match Field.paths? (globbing s.shell) s.world.files field with
    | none => return [plain field]
    | some [] =>
      if s.shell.extended && s.shell.customs.contains "failglob" then
        failPlainly ("no match: " ++ plain field)
      else if s.shell.extended && s.shell.customs.contains "nullglob" then return []
      else return [plain field]
    | some paths => return paths

/-- Expands a word to fields. -/
def fieldsOf (r : Runner) (word : Word) : Act (List String) := do
  let marks ← r.expand .fields word
  let found := Mark.fieldsOf (← getShell).separators marks
  let paths ← found.mapM pathsOf
  return paths.flatten

/-- The words that a word becomes before anything else. -/
def spread (s : State) (word : Word) : List Word :=
  if s.extended && s.has 'B' then Braces.expand word else [word]

/-- Expands a word to fields, after its braces. -/
def allFieldsOf (r : Runner) (word : Word) : Act (List String) := do
  let fields ← (spread (← getShell) word).mapM r.fieldsOf
  return fields.flatten

/-- The items of a list that a variable is given. -/
def items (r : Runner) : List Word → Act (List Item)
  | [] => return []
  | word :: rest => do
    let own ← match word with
      | .target "" key adds :: value => do
        let key ← r.textOfWord .text key
        let text ← r.textOfWord .value value
        pure [({ key := some key, adds, text } : Item)]
      | word => do
        let fields ← r.allFieldsOf word
        pure (fields.map fun text => { text })
    let others ← items r rest
    return own ++ others

/-- The word of a declaration: the name and the sign, and the value behind them. -/
def declared (r : Runner) (binding : Assignment) : Act String := do
  match binding with
  | .mk name key adds value =>
    let place ← match key with
      | some key => do
        let text ← r.textOfWord .text key
        pure ("[" ++ text ++ "]")
      | none => pure ""
    let lead := name ++ place ++ if adds then "+=" else "="
    match value with
    | [.list words] =>
      let items ← r.items words
      change fun s => { s with lists := (lead, items) :: s.lists }
      return lead
    | value =>
      let text ← r.textOfWord .value value
      return lead ++ text

/-- Expands words to fields; `before` are the fields of the words in front of them. -/
def fields (r : Runner) (before : List String) : List Word → Act (List String)
  | [] => return before
  | word :: rest => do
    let s ← getShell
    let words := spread s word
    let own ← words.mapM fun word => do
      match if declares before then word.assignment? s.extended else none with
      | some binding =>
        let text ← r.declared binding
        return [text]
      | none => r.fieldsOf word
    fields r (before ++ own.flatten) rest

/-! ## Redirections -/

/-- The target of a redirection of an extended shell. -/
def targetsOf (r : Runner) (stream : Nat) (kind : Redirection) (word : Word) :
    Act (List (Nat × Expansion.Target)) := do
  match kind with
  | .here =>
    let text ← r.textOfWord .document word
    return [(stream, .document text)]
  | .line =>
    let text ← r.textOfWord .text word
    return [(stream, .document (text ++ "\n"))]
  | kind =>
    let refused := [(stream, Expansion.Target.refused
      (String.ofList (Word.characters word) ++ ": ambiguous redirect"))]
    match ← r.allFieldsOf word with
    | [text] =>
      match kind with
      | .both appends =>
        return [(1, .path (if appends then .append else .write) text), (2, .stream 1)]
      | .duplicate input =>
        let digits := text.toList.takeWhile Char.isDigit
        let number := Number.natural? (String.ofList digits)
        match number, text.toList.drop digits.length with
        | none, ['-'] => return [(stream, .closed)]
        | some n, [] => return [(stream, .stream n)]
        | some n, ['-'] => return [(stream, .stream n), (n, .closed)]
        | _, _ =>
          if !input && stream = 1 then return [(1, .path .write text), (2, .stream 1)]
          else return refused
      | kind => return [(stream, .path kind text)]
    | _ => return refused

/-- Expands the targets of redirections. -/
def targets (r : Runner) : List Redirect → Act (List (Nat × Expansion.Target))
  | [] => return []
  | .mk stream kind word :: rest => do
    let own ← if (← getShell).extended then r.targetsOf stream kind word
      else do
        let text ← r.textOfWord (if kind == .here then .document else .text) word
        let target ← Expansion.target kind text
        pure [(stream, target)]
    let others ← targets r rest
    return own ++ others

/-! ## Assignments -/

/-- Gives a variable a value as an assignment says: how that is shown. -/
def assignOne (r : Runner) (binding : Assignment) : Act String := do
  match binding with
  | .mk name key adds value =>
    let sign := if adds then "+=" else "="
    match key, value with
    | none, [.list words] =>
      let items ← r.items words
      assignList name adds items
      return name ++ sign ++ "(" ++ " ".intercalate (items.map shown) ++ ")"
    | some word, value =>
      let key ← r.textOfWord .text word
      let text ← r.textOfWord .value value
      assignAt name key adds text
      return name ++ "[" ++ key ++ "]" ++ sign ++ Quotation.asNeeded text
    | none, value =>
      let text ← r.textOfWord .value value
      if adds then assignMore name text else assign name text
      return name ++ sign ++ if (← getShell).extended then Quotation.asNeeded text else text
where
  /-- An item as it is shown. -/
  shown (item : Item) : String :=
    let text := Quotation.asNeeded item.text
    match item.key with
    | some key => "[" ++ key ++ "]" ++ (if item.adds then "+=" else "=") ++ text
    | none => if text.isEmpty then "''" else text

/-- Gives variables their values: how that is shown. -/
def assignAll (r : Runner) : List Assignment → Act (List String)
  | [] => return []
  | binding :: rest => do
    let first ← r.assignOne binding
    let others ← assignAll r rest
    return first :: others

/-- Gives variables values that are hidden again; a variable of an extended shell that is not to be
changed is passed over. -/
def assignAllHidden (r : Runner) : List Assignment → Act (List String)
  | [] => return []
  | .mk name key adds value :: rest => do
    let v := ((← getShell).holding? name).getD { value := none }
    let text ← r.textOfWord .value value
    let isFixed := (← getShell).extended && v.readOnly
    if isFixed then warnPlainly (name ++ ": readonly variable")
    else if key.isNone then
      assignHidden name (← if adds then added v v.value text else pure text)
    let others ← assignAllHidden r rest
    if isFixed then return others
    else
      let shown := if (← getShell).extended then Quotation.asNeeded text else text
      return (name ++ (if adds then "+=" else "=") ++ shown) :: others

end Runner

end Fleet.Shell

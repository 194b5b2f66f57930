import Fleet.Shell.Bytes
import Fleet.Shell.Number
import Fleet.Shell.Token

namespace Fleet.Shell

/-! # Reading a script

A script is read one complete line of commands at a time, so that the commands of one line run
before the next is read.  Words and commands stand inside each other: a word may hold a
substitution, which is a list of commands.  In every reader `n` bounds how deep it goes.
-/

namespace Script

/-- Where a piece of text stands. -/
inductive Setting where
  | plain
  /-- between double quotes -/
  | double
  | document
  /-- between two pairs of parentheses; `depth` more are open -/
  | arithmetic (depth : Nat)
  /-- between braces, and up to `stop` if there is such a sign; `inner` if inside double quotes that
  were opened there -/
  | braces (quoted inner : Bool) (stop : Option Char)
  /-- between brackets behind a name; `depth` more are open -/
  | subscript (depth : Nat)
  /-- a regular expression, in which `depth` parentheses are open -/
  | expression (depth : Nat)
  /-- the patterns of a group -/
  | group
  deriving DecidableEq, Repr

namespace Setting

/-- What stands here is quoted. -/
def isQuoted : Setting → Bool
  | plain | subscript _ | expression _ | group => false
  | double | document | arithmetic _ => true
  | braces quoted _ _ => quoted

/-- The text ends before these characters. -/
def endsAt : Setting → List Char → Bool
  | plain, c :: _ => endsWord c
  | double, '"' :: _ => true
  | arithmetic 0, ')' :: ')' :: _ => true
  | braces _ false stop, c :: _ => c == '\x7d' || some c == stop
  | subscript 0, ']' :: _ => true
  | expression 0, c :: _ => c == ' ' || c == '\t' || c == '\n'
  | group, ')' :: _ => true
  | plain, [] | document, [] | expression _, [] => true
  | _, _ => false

/-- What is missing if the script ends here. -/
def absence : Setting → String
  | double | braces true _ _ => "Unterminated quoted string"
  | arithmetic _ => "Missing '))'"
  | _ => "Missing '\x7d'"

/-- The sign that is missing if the script ends here. -/
def closing : Setting → String
  | double => "\""
  | arithmetic _ | group => ")"
  | subscript _ => "]"
  | _ => "\x7d"

/-- The characters that a backslash takes their meaning. -/
def escapes (setting : Setting) (c : Char) : Bool :=
  c == '\\' || c == '\x60' || c == '$' ||
    (match setting with
    | double => c == '"'
    | braces _ _ _ => c == '"' || c == '\x7d'
    | _ => false)

end Setting

/-- Gives up at a token that cannot stand here. -/
def unexpected {α : Type} (found : Token) (wanted : Option Token := none) : Reader α :=
  refuse (found.name ++ " unexpected" ++
    match wanted with
    | some token => " (expecting " ++ token.name ++ ")"
    | none => "") (if found.isEnd then .ended else .token found.sign)

/-- Gives a token back. -/
def giveBack (t : Token) : Reader Unit := modify fun s => { s with pushed := some t }

/-- What may be made of the next token. -/
structure Reading where
  /-- ends of lines are passed -/
  passLines : Bool := false
  keywords : Bool := false
  /-- it may be the first word of a command, or an assignment in front of it -/
  leads : Bool := false

/-- Where a command may begin. -/
def atCommand : Reading := ⟨true, true, true⟩

/-- The commands that no function may have the name of. -/
def specialCommands : List String :=
  [".", ":", "break", "continue", "eval", "exec", "exit", "export", "readonly", "return", "set",
    "shift", "times", "trap", "unset"]

/-- The text of an alias, unless it is being read already. -/
def alias? (name : List Char) : Reader (Option String) := fun s =>
  if s.aliases.isEmpty then .ok none s
  else
    let length := s.rest.length
    let active := s.active.filter fun (_, left) => left < length
    let name := String.ofList name
    if active.any fun (other, _) => other == name then .ok none { s with active }
    else match s.aliases.lookup name with
      | none => .ok none { s with active }
      | some text => .ok (some text) { s with
          rest := text.toList ++ s.rest
          active := (name, length) :: active }

/-! ## Parameters of an extended shell -/

/-- A parameter between braces: whether its length is asked for, or what its value names. -/
structure Subject where
  name : String
  size : Bool := false
  indirect : Bool := false

/-- The parameter at the start of a text between braces, and what stands behind its name. -/
def Subject.at? (cs : List Char) : Option (Subject × List Char) :=
  let named (size indirect : Bool) (cs : List Char) : Option (Subject × List Char) :=
    (parameterName cs).map fun name =>
      ({ name := String.ofList name, size, indirect }, cs.drop name.length)
  match cs with
  | '#' :: rest =>
    match named true false rest with
    | some (subject, after) =>
      if after.head? == some '\x7d' || (after.head? == some '[' && Word.isName subject.name.toList)
      then some (subject, after) else some ({ name := "#" }, rest)
    | none => some ({ name := "#" }, rest)
  | '!' :: c :: rest =>
    if Word.isNameChar c then named false true (c :: rest)
    else some ({ name := "!" }, c :: rest)
  | _ => named false false cs

/-- What stands behind the bracket that closes one; `depth` more are open. -/
def behindBracket : Nat → Option Char → List Char → Option (List Char)
  | _, _, [] => none
  | depth, some quote, c :: rest => behindBracket depth (if c == quote then none else some quote) rest
  | depth, none, '\\' :: _ :: rest => behindBracket depth none rest
  | depth, none, c :: rest =>
    if c == '"' || c == '\'' then behindBracket depth (some c) rest
    else if c == '[' then behindBracket (depth + 1) none rest
    else if c == ']' then
      match depth with
      | 0 => some rest
      | depth + 1 => behindBracket depth none rest
    else if c == '\n' then none
    else behindBracket depth none rest

/-- The name in front of a place in a list that is given a value, at the start of a text. -/
def targetName? (cs : List Char) : Option (List Char) :=
  let name := cs.takeWhile Word.isNameChar
  match cs.drop name.length with
  | '[' :: rest =>
    match behindBracket 0 none rest with
    | some ('=' :: _) | some ('+' :: '=' :: _) =>
      if name.isEmpty || Word.isName name then some name else none
    | _ => none
  | _ => none

/-- What becomes of a parameter, for an extended shell, and what stands behind that.  A use that is
said in one sign has no words. -/
def furtherUse? (cs : List Char) : Option (Use × List Char) :=
  match cs with
  | '\x7d' :: _ => some (.value, cs)
  | ':' :: c :: _ =>
    if ['-', '=', '+', '?'].contains c then some (use cs) else some (.slice, cs.drop 1)
  | '/' :: '/' :: rest => some (.replace .everywhere, rest)
  | '/' :: '#' :: rest => some (.replace .front, rest)
  | '/' :: '%' :: rest => some (.replace .back, rest)
  | '/' :: rest => some (.replace .first, rest)
  | '^' :: '^' :: rest => some (.letters true true, rest)
  | '^' :: rest => some (.letters true false, rest)
  | ',' :: ',' :: rest => some (.letters false true, rest)
  | ',' :: rest => some (.letters false false, rest)
  | '@' :: c :: '\x7d' :: rest => some (.told c, '\x7d' :: rest)
  | _ =>
    match use cs with
    | (.unknown, _) => none
    | found => some found

/-- The sign that separates the two words behind a use. -/
def stopOf : Use → Option Char
  | .slice => some ':'
  | .replace _ => some '/'
  | _ => none

/-- The bytes of a text between `$'` and `'`, and what stands behind it. -/
def escapedText : Nat → List Char → Option (List UInt8 × List Char)
  | 0, _ => none
  | _, [] => none
  | _, '\'' :: rest => some ([], rest)
  | n + 1, '\\' :: c :: rest =>
    let next (bytes : List UInt8) (rest : List Char) : Option (List UInt8 × List Char) :=
      (escapedText n rest).map fun (more, rest) => (bytes ++ more, rest)
    let number (base most : Nat) (cs : List Char) : Option (Nat × List Char) :=
      let digits := (cs.take most).takeWhile fun c => (Number.digit? base c).isSome
      if digits.isEmpty then none
      else some ((Number.takeDigits base most 0 digits).1, cs.drop digits.length)
    let unicode (letter : Char) (least most : Nat) : Option (List UInt8 × List Char) :=
      match number 16 most rest with
      | some (code, rest) =>
        if code < 128 then next [UInt8.ofNat code] rest
        else
          let digits := (Nat.toDigits 16 code).map Char.toUpper
          let zeros := List.replicate (least - digits.length) '0'
          next (Text.encode (String.ofList ('\\' :: letter :: zeros ++ digits))) rest
      | none => next [92, UInt8.ofNat letter.toNat] rest
    match ([('a', 7), ('b', 8), ('e', 27), ('E', 27), ('f', 12), ('n', 10), ('r', 13), ('t', 9),
        ('v', 11), ('\\', 92), ('\'', 39), ('"', 34), ('?', 63)] : List (Char × UInt8)).lookup c with
    | some b => next [b] rest
    | none =>
      if c == 'x' then
        match number 16 2 rest with
        | some (code, rest) => next [UInt8.ofNat code] rest
        | none => next [92, 120] rest
      else if c == 'u' then unicode 'u' 4 4
      else if c == 'U' then unicode 'U' 8 8
      else if c == 'c' then
        match rest with
        | d :: rest => next [UInt8.ofNat (d.toUpper.toNat % 32)] rest
        | [] => none
      else match number 8 3 (c :: rest) with
        | some (code, rest) => next [UInt8.ofNat code] rest
        | none => next (92 :: Text.encode c.toString) rest
  | n + 1, c :: rest =>
    (escapedText n rest).map fun (more, rest) => (Text.encode c.toString ++ more, rest)

/-- The commands whose words may be assignments. -/
def declaring : List String := ["declare", "typeset", "local", "export", "readonly"]

/-- The pieces of a word between the signs that separate them. -/
def pieces (separator : Char) (word : Word) : List Word :=
  word.foldr (fun part pieces =>
    match part with
    | .text cs quoted =>
      let texts := (Text.splitOn separator cs).map fun cs => ([.text cs quoted] : Word)
      texts.dropLast ++ [texts.getLastD [] ++ pieces.headD []] ++ pieces.tail
    | part => [part :: pieces.headD []] ++ pieces.tail) [[]]

/-- The use of all parameters leaves nothing if there are none. -/
def leavesNothing : Use → Bool
  | .value | .dropFront _ | .dropEnd _ | .slice | .replace _ | .letters _ _ | .told _ | .keys => true
  | _ => false

/-- A piece between double quotes may stand for no word at all. -/
def mayVanish : Part → Bool
  | .parameter name use _ _ => name == "@" && leavesNothing use
  | .element name key indirect use _ _ =>
    leavesNothing use && match key with
      | some (.all joined) => !joined
      | some (.at _) => false
      | none => name == "@" && !indirect
  | .names _ joined _ => !joined
  | _ => false

/-- Gives up on a question. -/
def refuseQuestion {α : Type} (text place : String) : Reader α :=
  refuse text (.words [text, "syntax error near \x60" ++ place ++ "'"])

/-! ## Words and commands -/

mutual

/-- Reads the pieces of a text up to its end, which is not taken. -/
def parts : Nat → Setting → Reader Word
  | 0, _ => refuse "out of memory"
  | n + 1, setting => do
    let line := (← get).line
    partsFrom n line setting

/-- Reads the pieces of a text that begins in a line. -/
def partsFrom : Nat → Nat → Setting → Reader Word
  | 0, _, _ => refuse "out of memory"
  | n + 1, line, setting => do
    let _ ← peek
    let rest := (← get).rest
    if setting.endsAt rest then return []
    else if rest.isEmpty then refuseFrom line setting.absence (.missing setting.closing)
    else
      let (first, setting) ← part n setting
      let others ← partsFrom n line setting
      return first ++ others

/-- Reads one piece of a text. -/
def part : Nat → Setting → Reader (Word × Setting)
  | 0, _ => refuse "out of memory"
  | n + 1, setting => do
    let quoted := setting.isQuoted
    match ← take with
    | none => return ([], setting)
    | some '\\' =>
      match (← get).rest.head? with
      | none => return ([.text ['\\'] true], setting)
      | some c =>
        let _ ← takeRaw
        if quoted && !setting.escapes c then return ([.text ['\\', c] true], setting)
        else return ([.text [c] true], setting)
    | some '\'' =>
      if quoted then return ([.text ['\''] true], setting)
      else return ([.text (← takeUpTo '\'') true], setting)
    | some '"' =>
      match setting with
      | .plain | .braces false _ _ | .subscript _ | .expression _ | .group =>
        let body ← parts n .double
        let _ ← take
        let isExtended := (← get).extended
        let vanishes := match body with
          | [.parameter "@" .value _ _] => true
          | body => isExtended && !body.isEmpty && body.all mayVanish
        return (if vanishes then body else .text [] true :: body, setting)
      | .braces true inner stop => return ([.text [] true], .braces true (!inner) stop)
      | _ => return ([.text ['"'] true], setting)
    | some '\x60' => return (← backquoted n quoted, setting)
    | some '$' => return (← dollar n quoted, setting)
    | some c =>
      let s ← get
      let groups : Bool := match setting with
        | .plain | .group | .braces false _ _ =>
          s.grouping && ['?', '*', '+', '@', '!'].contains c && s.rest.head? == some '('
        | _ => false
      if groups then
        let _ ← takeRaw
        let inner ← parts n .group
        let _ ← takeRaw
        return (.text [c, '('] false :: inner ++ [.text [')'] false], setting)
      else
        let next : Setting := match setting, c with
          | .arithmetic depth, '(' => .arithmetic (depth + 1)
          | .arithmetic depth, ')' => .arithmetic (depth - 1)
          | .expression depth, '(' => .expression (depth + 1)
          | .expression depth, ')' => .expression (depth - 1)
          | .subscript depth, '[' => .subscript (depth + 1)
          | .subscript depth, ']' => .subscript (depth - 1)
          | _, _ => setting
        return ([.text [c] quoted], next)

/-- Reads a substitution between backquotes behind the first of them. -/
def backquoted : Nat → Bool → Reader Word
  | 0, _ => refuse "out of memory"
  | n + 1, quoted => do
    let s ← get
    match unquoteBody quoted [] s.rest with
    | none =>
      set (s.moveTo [] (s.rest.count '\n'))
      refuseFrom s.line "EOF in backquote substitution" (.missing "\x60")
    | some (body, rest) =>
      let passed := (s.rest.take (s.rest.length - rest.length)).count '\n'
      let inside := s.within body
      set (if s.extended then inside else { inside with line := 1 })
      let inner ← list n false true none
      set (s.moveTo rest passed)
      return [.substitution (inner.getD .nothing) quoted]

/-- Reads what stands behind a dollar sign. -/
def dollar : Nat → Bool → Reader Word
  | 0, _ => refuse "out of memory"
  | n + 1, quoted => do
    let _ ← peek
    let s ← get
    match s.rest with
    | '(' :: '(' :: rest =>
      if s.extended then
        match (calculation n).run { s with rest } with
        | .ok body t =>
          set t
          return [.arithmetic body quoted]
        | .error flaw _ =>
          match (substitution n).run { s with rest := '(' :: rest } with
          | .ok inner t =>
            set t
            return [.substitution inner quoted]
          | .error _ _ => throw flaw
      else
        modify fun s => { s with rest }
        let body ← calculation n
        return [.arithmetic body quoted]
    | '(' :: rest =>
      modify fun s => { s with rest }
      let inner ← substitution n
      return [.substitution inner quoted]
    | '\x7b' :: rest =>
      if s.extended then
        let start := { s with rest }
        set start
        match ← attempt (element n quoted) with
        | some part => return [part]
        | none =>
          let _ ← parts n (.braces quoted false none)
          let _ ← takeRaw
          let left := (← get).rest.length
          let raw := '$' :: s.rest.take (s.rest.length - left)
          return [.element "" none false .unknown [[.text raw true]] quoted]
      else
        let (name, use, rest) := parameterUse rest
        modify fun s => { s with rest }
        let argument ← parts n (.braces (quoted && !use.isPattern) false none)
        let _ ← takeRaw
        return [.parameter name use argument quoted]
    | '\'' :: rest =>
      if s.extended && !quoted then
        match escapedText (rest.length + 1) rest with
        | some (bytes, after) =>
          set (s.moveTo after ((rest.take (rest.length - after.length)).count '\n'))
          return [.text (Text.decodeLossy (bytes.takeWhile (· != 0))) true]
        | none => refuseFrom s.line "Unterminated quoted string" (.missing "'")
      else return [.text ['$'] quoted]
    | '"' :: _ =>
      return if s.extended && !quoted then [] else [.text ['$'] quoted]
    | rest =>
      match parameterName rest with
      | some name =>
        -- only one digit belongs to a number without braces
        let name := if name.all Char.isDigit then name.take 1 else name
        modify fun s => { s with rest := rest.drop name.length }
        return [.parameter (String.ofList name) .value [] quoted]
      | none => return [.text ['$'] quoted]

/-- Reads an expression up to the two parentheses that end it. -/
def calculation : Nat → Reader Word
  | 0 => refuse "out of memory"
  | n + 1 => do
    let body ← parts n (.arithmetic 0)
    let _ ← takeRaw
    let _ ← takeRaw
    return body

/-- Reads the commands of a substitution up to the parenthesis that ends it. -/
def substitution : Nat → Reader Command
  | 0 => refuse "out of memory"
  | n + 1 => do
    let inner ← list n false true none
    match ← token n {} with
    | .closed => return inner.getD .nothing
    | other =>
      if (← get).extended && other.isEnd then refuse "EOF" (.missing ")")
      else unexpected other (some .closed)

/-- Reads a parameter between braces for an extended shell, if there is one. -/
def element : Nat → Bool → Reader (Option Part)
  | 0, _ => refuse "out of memory"
  | n + 1, quoted => do
    match Subject.at? (← get).rest with
    | none => return none
    | some (subject, rest) =>
      modify fun s => { s with rest }
      let found ← match rest with
        | '[' :: _ => if Word.isName subject.name.toList then key n else pure (some none)
        | _ => pure (some none)
      match found with
      | none => return none
      | some key =>
        let rest := (← get).rest
        let ends := rest.head? == some '\x7d'
        match subject.size, subject.indirect, key, rest with
        | true, _, _, _ =>
          if !ends then return none
          else
            let _ ← takeRaw
            return some (.element subject.name key false .length [] quoted)
        | _, true, none, '@' :: '\x7d' :: rest =>
          modify fun s => { s with rest }
          return some (.names subject.name false quoted)
        | _, true, none, '*' :: '\x7d' :: rest =>
          modify fun s => { s with rest }
          return some (.names subject.name true quoted)
        | _, indirect, key, rest =>
          match furtherUse? rest with
          | none => return none
          | some (use, rest) =>
            modify fun s => { s with rest }
            let inside := quoted && !use.isPattern
            let first ← parts n (.braces inside false (stopOf use))
            let hasTwo := (← get).rest.head? != some '\x7d'
            let arguments ← if hasTwo then do
                let _ ← takeRaw
                pure [first, ← parts n (.braces inside false none)]
              else pure [first]
            let _ ← takeRaw
            match key, indirect, use with
            | none, false, .slice | none, false, .replace _ | none, false, .letters _ _
            | none, false, .told _ | some _, _, _ | _, true, _ =>
              let all := match key with
                | some (.all _) => true
                | _ => false
              let use := if indirect && all && use == .value then .keys else use
              return some (.element subject.name key indirect use arguments quoted)
            | none, false, use => return some (.parameter subject.name use first quoted)

/-- Reads a key between brackets, if there is one. -/
def key : Nat → Reader (Option (Option Key))
  | 0 => refuse "out of memory"
  | n + 1 => do
    match (← get).rest with
    | '[' :: '@' :: ']' :: rest =>
      modify fun s => { s with rest }
      return some (some (.all false))
    | '[' :: '*' :: ']' :: rest =>
      modify fun s => { s with rest }
      return some (some (.all true))
    | '[' :: rest =>
      match behindBracket 0 none rest with
      | none => return none
      | some _ =>
        modify fun s => { s with rest }
        let subscript ← parts n (.subscript 0)
        let _ ← takeRaw
        return if subscript.isEmpty then none else some (some (.at (Word.joined subscript)))
    | _ => return some none

/-- Reads an assignment to a place in a list, behind the name of the list. -/
def target : Nat → List Char → Reader Word
  | 0, _ => refuse "out of memory"
  | n + 1, name => do
    modify fun s => { s with rest := s.rest.drop (name.length + 1) }
    let key ← parts n (.subscript 0)
    let _ ← takeRaw
    let adds := (← takeRaw) == some '+'
    if adds then
      let _ ← takeRaw
    let value ← parts n .plain
    return .target (String.ofList name) (Word.joined key) adds :: Word.joined value

/-- Reads the items of a list up to its end. -/
def items : Nat → Reader (List Word)
  | 0 => refuse "out of memory"
  | n + 1 => do
    match ← token n ⟨true, false, true⟩ with
    | .word w =>
      let others ← items n
      return w :: others
    | .closed => return []
    | .endOfText => refuse "EOF" (.missing ")")
    | other => unexpected other

/-- Reads a token from the text; `leads` if it may be an assignment. -/
def freshToken : Nat → Bool → Reader Token
  | 0, _ => refuse "out of memory"
  | n + 1, leads => do
    modify fun s =>
      let (passed, rest) := Source.withoutBlanks false s.rest
      s.moveTo rest passed
    let s ← get
    match if s.extended then furtherSign? s.rest else sign? s.rest with
    | some (.newline, rest) =>
      set (s.moveTo rest 1)
      return .newline
    | some (t, rest) =>
      set { s with rest }
      return t
    | none =>
      match s.rest with
      | sign :: '(' :: rest =>
        if s.extended && (sign == '<' || sign == '>') then
          set { s with rest }
          let inner ← substitution n
          let others ← parts n .plain
          return .word (.stream inner (sign == '>') :: Word.joined others)
        else wordToken n leads
      | _ => wordToken n leads

/-- Reads a word. -/
def wordToken : Nat → Bool → Reader Token
  | 0, _ => refuse "out of memory"
  | n + 1, leads => do
    let s ← get
    match if s.extended && leads then targetName? s.rest else none with
    | some name => return .word (← target n name)
    | none => return .word (Word.joined (← parts n .plain))

/-- Reads a token. -/
def token : Nat → Reading → Reader Token
  | 0, _ => refuse "out of memory"
  | n + 1, reading => do
    let t ← match (← get).pushed with
      | some t => do
        modify fun s => { s with pushed := none }
        pure t
      | none => freshToken n reading.leads
    match t with
    | .newline => if reading.passLines then token n reading else return t
    | .word w =>
      match w.literal? with
      | none => return t
      | some cs =>
        let text := String.ofList cs
        let isKeyword := Token.keywords.contains text ||
          ((← get).extended && Token.furtherKeywords.contains text)
        if reading.keywords && isKeyword then return .keyword text
        else if reading.leads then
          match ← alias? cs with
          | some _ => token n reading
          | none => return t
        else return t
    | _ => return t

/-- Reads a list of commands.  The list of a script ends with the line; others go on up to a token
that ends them, and if `mayEnd` there may be none. -/
def list : Nat → Bool → Bool → Option Command → Reader (Option Command)
  | 0, _, _, _ => refuse "out of memory"
  | n + 1, ofScript, mayEnd, before => do
    let t ← token n ⟨!ofScript, true, true⟩
    match t with
    | .newline => return before
    | .endOfText =>
      giveBack t
      return before
    | _ =>
      giveBack t
      if !ofScript && mayEnd && t.endsList then return before
      else
        let next ← andOr n
        let line := (← get).line
        let after ← token n {}
        let next := match after with
          | .ampersand => .background line next
          | _ => next
        let all : Command := match before with
          | some before => .sequence before next
          | none => next
        match after with
        | .newline | .endOfText =>
          giveBack after
          list n ofScript true (some all)
        | .ampersand | .semicolon => list n ofScript true (some all)
        | _ =>
          if ofScript then unexpected after
          else
            giveBack after
            return some all

/-- Reads a list of commands that is not empty. -/
def body : Nat → Reader Command
  | 0 => refuse "out of memory"
  | n + 1 => do
    let commands ← list n false false none
    return commands.getD .nothing

/-- Takes a token that must stand here. -/
def expect : Nat → String → Reader Unit
  | 0, _ => refuse "out of memory"
  | n + 1, word => do
    let t ← token n {}
    if t.isKeyword word then return ()
    else unexpected t (some (.keyword word))

/-- Reads pipelines joined by `&&` and `||`. -/
def andOr : Nat → Reader Command
  | 0 => refuse "out of memory"
  | n + 1 => do
    let first ← pipeline n {}
    andOrFrom n first

/-- Reads on behind a pipeline. -/
def andOrFrom : Nat → Command → Reader Command
  | 0, _ => refuse "out of memory"
  | n + 1, first => do
    match ← token n {} with
    | .andIf =>
      let second ← pipeline n atCommand
      andOrFrom n (.both first second)
    | .orIf =>
      let second ← pipeline n atCommand
      andOrFrom n (.either first second)
    | other =>
      giveBack other
      return first

/-- Reads commands joined by `|`. -/
def pipeline : Nat → Reading → Reader Command
  | 0, _ => refuse "out of memory"
  | n + 1, reading => do
    let t ← token n reading
    if t.isKeyword "time" then
      let next ← token n ⟨false, true, true⟩
      match next with
      | .newline | .endOfText | .semicolon =>
        giveBack next
        return .timed .nothing
      | .word w =>
        if w.literal? == some ['-', 'p'] then return .timed (← pipeline n ⟨false, true, true⟩)
        else
          giveBack next
          return .timed (← pipeline n {})
      | _ =>
        giveBack next
        return .timed (← pipeline n {})
    else
      let negated := t.isKeyword "!"
      let first ← if negated then command n ⟨false, true, true⟩
        else do
          giveBack t
          command n {}
      let all ← pipelineFrom n first
      let whole : Command := match all with
        | [one] => one
        | all => .pipe all
      return if negated then .negate whole else whole

/-- Reads on behind a command of a pipeline: the commands of it. -/
def pipelineFrom : Nat → Command → Reader (List Command)
  | 0, _ => refuse "out of memory"
  | n + 1, first => do
    let line := (← get).line
    match ← token n {} with
    | .bar =>
      let next ← command n atCommand
      let others ← pipelineFrom n next
      return first :: others
    | .barBoth =>
      let next ← command n atCommand
      let others ← pipelineFrom n next
      let joining : Redirect := .mk 2 (.duplicate false) [.text ['1'] false]
      return .redirected line first [joining] :: others
    | other =>
      giveBack other
      return [first]

/-- Reads one command. -/
def command : Nat → Reading → Reader Command
  | 0, _ => refuse "out of memory"
  | n + 1, reading => do
    let line := (← get).line
    let t ← token n reading
    match t with
    | .keyword "if" =>
      let inner ← branch n
      redirected n line inner
    | .keyword "while" =>
      let inner ← loop n false
      redirected n line inner
    | .keyword "until" =>
      let inner ← loop n true
      redirected n line inner
    | .keyword "for" =>
      let inner ← forEach n line
      redirected n line inner
    | .keyword "[[" =>
      let grouping := (← get).grouping
      modify fun s => { s with grouping := true }
      let question ← anyQuestion n
      modify fun s => { s with grouping }
      match ← token n {} with
      | .word w =>
        if w.literal? == some [']', ']'] then redirected n line (.ask line question)
        else unexpected (.word w)
      | other => unexpected other
    | .keyword "function" =>
      match ← token n {} with
      | .word w =>
        let t ← token n ⟨true, true, true⟩
        let t ← match t with
          | .opened => do
            match ← token n {} with
            | .closed => token n ⟨true, true, true⟩
            | other => unexpected other
          | t => pure t
        giveBack t
        functionBody n (String.ofList w.characters)
      | other => unexpected other
    | .keyword "case" =>
      let inner ← choose n line
      redirected n line inner
    | .keyword "\x7b" =>
      let inner ← body n
      expect n "\x7d"
      redirected n line inner
    | .opened =>
      let s ← get
      match if s.extended then s.rest else [] with
      | '(' :: rest =>
        match (calculation n).run { s with rest } with
        | .ok text t =>
          set t
          redirected n line (.calculate line text)
        | .error flaw _ =>
          match (apart n line).run s with
          | .ok inner t =>
            set t
            return inner
          | .error _ _ => throw flaw
      | _ => apart n line
    | .word _ | .redirect _ _ _ =>
      giveBack t
      simple n line true [] [] []
    | _ => unexpected t

/-- Reads commands up to a parenthesis. -/
def apart : Nat → Nat → Reader Command
  | 0, _ => refuse "out of memory"
  | n + 1, line => do
    let inner ← body n
    match ← token n {} with
    | .closed => redirected n line (.apart line inner)
    | other => unexpected other (some .closed)

/-- Reads the body of a function, which has to be a command with an end of its own. -/
def functionBody : Nat → String → Reader Command
  | 0, _ => refuse "out of memory"
  | n + 1, name => do
    let line := (← get).line
    let t ← token n atCommand
    match t with
    | .word _ | .redirect _ _ _ => unexpected t
    | _ =>
      giveBack t
      let inner ← command n {}
      return .define line name inner

/-- Reads a question up to its end. -/
def anyQuestion : Nat → Reader Question
  | 0 => refuse "out of memory"
  | n + 1 => do
    let first ← allQuestions n
    match ← token n ⟨true, false, false⟩ with
    | .orIf => return .either first (← anyQuestion n)
    | other =>
      giveBack other
      return first

/-- Reads questions joined by `&&`. -/
def allQuestions : Nat → Reader Question
  | 0 => refuse "out of memory"
  | n + 1 => do
    let first ← oneQuestion n
    match ← token n ⟨true, false, false⟩ with
    | .andIf => return .both first (← allQuestions n)
    | other =>
      giveBack other
      return first

/-- Reads one question. -/
def oneQuestion : Nat → Reader Question
  | 0 => refuse "out of memory"
  | n + 1 => do
    let t ← token n ⟨true, false, false⟩
    match t with
    | .opened =>
      let inner ← anyQuestion n
      match ← token n ⟨true, false, false⟩ with
      | .closed => return inner
      | other =>
        let text := "unexpected token \x60" ++ other.sign ++ "', expected \x60)'"
        refuseQuestion text other.sign
    | .word w =>
      let text := String.ofList (w.literal?.getD [])
      if text = "!" then return .no (← oneQuestion n)
      else if text = "]]" then
        giveBack t
        refuse "syntax error" (.words ["syntax error near \x60]]'"])
      else if Question.unarySigns.contains text then
        let next ← token n {}
        match next with
        | .word v =>
          if v.literal? == some [']', ']'] then
            let text := "unexpected argument \x60]]' to conditional unary operator"
            refuseQuestion text "]]"
          else return .about text v
        | other =>
          let text := "unexpected argument \x60" ++ other.sign ++
            "' to conditional unary operator"
          refuseQuestion text (if other.isEnd then "newline" else other.sign)
      else comparison n w
    | other =>
      if other.isEnd then unexpected other
      else
        let text := "unexpected token \x60" ++ other.sign ++ "' in conditional command"
        refuseQuestion text other.sign

/-- Reads a question behind its first word. -/
def comparison : Nat → Word → Reader Question
  | 0, _ => refuse "out of memory"
  | n + 1, left => do
    let t ← token n {}
    let second (sign : String) : Reader Question := do
      if sign = "=~" then
        modify fun s =>
          let (passed, rest) := Source.withoutBlanks false s.rest
          s.moveTo rest passed
        let right ← parts n (.expression 0)
        return .between sign left (Word.joined right)
      else
        let next ← token n {}
        match next with
        | .word right =>
          if right.literal? == some [']', ']'] then
            let text := "unexpected argument \x60]]' to conditional binary operator"
            refuseQuestion text "]]"
          else return .between sign left right
        | other =>
          let text := "unexpected argument \x60" ++ other.sign ++
            "' to conditional binary operator"
          refuseQuestion text other.sign
    match t with
    | .redirect _ .read _ => second "<"
    | .redirect _ .write _ => second ">"
    | .andIf | .orIf | .closed =>
      giveBack t
      return .holds left
    | .word w =>
      let sign := String.ofList (w.literal?.getD [])
      if sign = "]]" then
        giveBack t
        return .holds left
      else if sign = "=~" || Question.binarySigns.contains sign then second sign
      else refuseQuestion "conditional binary operator expected" (String.ofList w.characters)
    | other =>
      let text := "unexpected token \x60" ++ other.sign ++
        "', conditional binary operator expected"
      refuseQuestion text (String.ofList left.characters)

/-- Reads the redirections behind a command. -/
def redirected : Nat → Nat → Command → Reader Command
  | 0, _, _ => refuse "out of memory"
  | n + 1, line, inner => do
    let redirects ← redirections n
    return if redirects.isEmpty then inner else .redirected line inner redirects

/-- Reads redirections. -/
def redirections : Nat → Reader (List Redirect)
  | 0 => refuse "out of memory"
  | n + 1 => do
    match ← token n ⟨false, true, true⟩ with
    | .redirect stream kind tabs =>
      let first ← redirection n stream kind tabs
      let others ← redirections n
      return first :: others
    | other =>
      giveBack other
      return []

/-- Reads what a redirection is to or from. -/
def redirection : Nat → Nat → Redirection → Bool → Reader Redirect
  | 0, _, _, _ => refuse "out of memory"
  | n + 1, stream, kind, tabs => do
    match ← token n {} with
    | .word target =>
      match kind with
      | .here =>
        let s ← get
        let (text, s) := s.takeDocument target.characters tabs
        if target.hasQuotes then
          set s
          return .mk stream kind [.text text true]
        else
          set { s.within text with line := s.line + 1 }
          let content ← parts n .document
          set s
          return .mk stream kind (Word.joined content)
      | _ => return .mk stream kind target
    | other => unexpected other

/-- Reads the words, assignments and redirections of a simple command; assignments stand first. -/
def simple : Nat → Nat → Bool → List Assignment → List Word → List Redirect → Reader Command
  | 0, _, _, _, _, _ => refuse "out of memory"
  | n + 1, line, leading, given, said, targets => do
    let t ← token n ⟨false, false, leading⟩
    let s ← get
    -- an extended shell counts a command to the line where its second word ends
    let isSecond := given.length + said.length + targets.length = 1
    let line := match t with
      | .word _ => if s.extended && isSecond then s.line else line
      | _ => line
    match t with
    | .word w =>
      let declares := match said.getLast?.bind Word.literal? with
        | some name => declaring.contains (String.ofList name)
        | none => false
      let binding := w.assignment? s.extended
      let opensList := match binding with
        | some (.mk _ _ _ []) => s.extended && s.rest.head? == some '('
        | _ => false
      if opensList && (leading || declares) then
        let _ ← takeRaw
        let values ← items n
        let w := w ++ [.list values]
        match leading, w.assignment? true with
        | true, some binding => simple n line true (binding :: given) said targets
        | _, _ => simple n line false given (w :: said) targets
      else match leading, binding with
        | true, some binding => simple n line true (binding :: given) said targets
        | _, _ => simple n line false given (w :: said) targets
    | .redirect stream kind tabs =>
      let next ← redirection n stream kind tabs
      simple n line leading given said (next :: targets)
    | .opened =>
      match said, given, targets with
      | [name], [], [] =>
        match ← token n {} with
        | .closed =>
          let text := name.literal?.getD []
          if s.extended then functionBody n (String.ofList name.characters)
          else if Word.isName text && !specialCommands.contains (String.ofList text) then
            let here := (← get).line
            let inner ← command n atCommand
            return .define here (String.ofList text) inner
          else refuse "Bad function name"
        | other => unexpected other (some .closed)
      | _, _, _ =>
        giveBack t
        return .simple line given.reverse said.reverse targets.reverse
    | _ =>
      giveBack t
      return .simple line given.reverse said.reverse targets.reverse

/-- Reads what stands behind `if` or `elif`. -/
def branch : Nat → Reader Command
  | 0 => refuse "out of memory"
  | n + 1 => do
    let condition ← body n
    expect n "then"
    let yes ← body n
    let t ← token n {}
    if t.isKeyword "elif" then
      return .branch condition yes (← branch n)
    else if t.isKeyword "else" then
      let no ← body n
      expect n "fi"
      return .branch condition yes no
    else if t.isKeyword "fi" then return .branch condition yes .nothing
    else unexpected t (some (.keyword "fi"))

/-- Reads `do`, a list and `done`. -/
def doBody : Nat → Reader Command
  | 0 => refuse "out of memory"
  | n + 1 => do
    expect n "do"
    let inner ← body n
    expect n "done"
    return inner

/-- Reads what stands behind `while` or `until`. -/
def loop : Nat → Bool → Reader Command
  | 0, _ => refuse "out of memory"
  | n + 1, negated => do
    let condition ← body n
    let inner ← doBody n
    return .loop condition inner negated

/-- Reads what stands behind `for`. -/
def forEach : Nat → Nat → Reader Command
  | 0, _ => refuse "out of memory"
  | n + 1, line => do
    let t ← token n {}
    let s ← get
    let name : List Char := match t with
      | .word w => if s.extended then w.characters else w.literal?.getD []
      | _ => []
    let opensTwo := match t with
      | .opened => s.extended && s.rest.head? == some '('
      | _ => false
    if opensTwo then
      let _ ← takeRaw
      let text ← calculation n
      match pieces ';' text with
      | [first, test, next] =>
        let t ← token n atCommand
        let t ← match t with
          | .semicolon => token n atCommand
          | t => pure t
        giveBack t
        let inner ← if t.isKeyword "\x7b" then do
            let _ ← token n {}
            let inner ← body n
            expect n "\x7d"
            pure inner
          else doBody n
        return .count line first test next inner
      | _ =>
        let raw := "((" ++ String.ofList (Word.characters text) ++ "))"
        refuse "Bad for loop" (.words ["syntax error: arithmetic expression required",
          "syntax error: \x60" ++ raw ++ "'"])
    else if s.extended && name.isEmpty then unexpected t
    else if !s.extended && !Word.isName name then refuse "Bad for loop variable"
    else
      let t ← token n atCommand
      let said ← if t.isKeyword "in" then words n
        else do
          match t with
          | .semicolon => pure ()
          | _ => giveBack t
          pure [[.parameter "@" .value [] true]]
      let t ← token n atCommand
      giveBack t
      let inner ← doBody n
      return .forEach line (String.ofList name) said inner

/-- Reads words up to the end of the command. -/
def words : Nat → Reader (List Word)
  | 0 => refuse "out of memory"
  | n + 1 => do
    match ← token n {} with
    | .word w =>
      let others ← words n
      return w :: others
    | .newline | .semicolon => return []
    | other => unexpected other

/-- Reads what stands behind `case`. -/
def choose : Nat → Nat → Reader Command
  | 0, _ => refuse "out of memory"
  | n + 1, line => do
    match ← token n {} with
    | .word subject =>
      let t ← token n atCommand
      if t.isKeyword "in" then
        let cases ← arms n
        return .choose line subject cases
      else unexpected t (some (.keyword "in"))
    | other => unexpected other (some (.word []))

/-- Reads the cases up to `esac`. -/
def arms : Nat → Reader (List (List Word × Command × Passage))
  | 0 => refuse "out of memory"
  | n + 1 => do
    let t ← token n ⟨true, true, false⟩
    if t.isKeyword "esac" then return []
    else
      let t ← match t with
        | .opened => token n {}
        | t => pure t
      let accepted ← patterns n [.text ['i', 'n'] false] t
      let inner ← list n false true none
      let t ← token n ⟨true, true, false⟩
      match t with
      | .caseEnd passage =>
        let others ← arms n
        return (accepted, inner.getD .nothing, passage) :: others
      | _ =>
        if t.isKeyword "esac" then return [(accepted, inner.getD .nothing, .finish)]
        else unexpected t (some (.caseEnd .finish))

/-- Reads the patterns of a case, up to their `)`.  A sign in the place of a pattern stands for the
word before it. -/
def patterns : Nat → Word → Token → Reader (List Word)
  | 0, _, _ => refuse "out of memory"
  | n + 1, before, t => do
    let first : Word := match t with
      | .word w => w
      | .keyword text => [.text text.toList false]
      | _ => before
    match ← token n {} with
    | .bar =>
      let next ← token n {}
      let others ← patterns n first next
      return first :: others
    | .closed => return [first]
    | other => unexpected other (some .closed)

end

/-- How deep reading a text goes at most. -/
def depth (text : List Char) : Nat := 16 * text.length + 64

/-- A line of commands, or the end of the script. -/
inductive Line where
  | commands (c : Command)
  | nothing
  | finished

/-- Reads the next line of commands. -/
def line : Reader Line := do
  modify fun s => { s with pushed := none }
  let extra := (← get).aliases.map fun (name, text) => name.toList ++ text.toList
  let found ← list (16 * depth ((← get).rest ++ extra.flatten)) true false none
  let atEnd := ((← get).pushed.map Token.isEnd).getD false
  match found with
  | some c => return .commands c
  | none => return if atEnd then .finished else .nothing

end Script

end Fleet.Shell

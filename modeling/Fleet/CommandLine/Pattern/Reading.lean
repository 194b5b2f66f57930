import Fleet.CommandLine.Pattern.Tree
import Fleet.Text.Alphanumeric
import Fleet.Text.Blank

namespace Fleet.CommandLine.Pattern

/-! # Reading a pattern

Patterns are read from left to right, with a stack of the groups and sets that are not closed yet.
In a spaced pattern white space does not count, nor does anything from a `#` to the end of a line.

Loops take a bound for their rounds.  No round of any loop leaves a pattern as long as it was, so
the length of the pattern is always enough.
-/

/-- What is left of a pattern, and what was read of it. -/
structure Cursor where
  rest : List Char
  spot : Spot := {}
  /-- white space does not count -/
  spaced : Bool := false
  /-- the names of groups, and where they stand -/
  names : List (String × Span) := []

/-- A part of the reader. -/
abbrev Reader := StateT Cursor (Except Finding)

namespace Reader

/-- The rest of a text behind white space and comments. -/
def behindBlanks : Bool → List Char → Spot → List Char × Spot
  | _, [], spot => ([], spot)
  | inComment, c :: rest, spot =>
    if inComment then behindBlanks (c != '\n') rest (spot.after c)
    else if Text.isBlank c then behindBlanks false rest (spot.after c)
    else if c == '#' then behindBlanks true rest (spot.after c)
    else (c :: rest, spot)

/-- The next character. -/
def peek? : Reader (Option Char) := return (← get).rest.head?

/-- The pattern is at its end. -/
def atEnd : Reader Bool := return (← get).rest.isEmpty

/-- The current place. -/
def here : Reader Spot := return (← get).spot

/-- From a place up to the current one. -/
def since (start : Spot) : Reader Span := return ⟨start, ← here⟩

/-- The next character as a part of the pattern. -/
def next : Reader Span := do
  let c ← get
  return ⟨c.spot, match c.rest with
    | x :: _ => c.spot.after x
    | [] => c.spot⟩

/-- Passes the next character. -/
def skip : Reader Unit := modify fun c =>
  match c.rest with
  | [] => c
  | x :: rest => { c with rest, spot := c.spot.after x }

/-- Passes white space in a spaced pattern. -/
def skipBlanks : Reader Unit := modify fun c =>
  if c.spaced then
    let (rest, spot) := behindBlanks false c.rest c.spot
    { c with rest, spot }
  else c

/-- Passes the next character, and white space in a spaced pattern. -/
def advance : Reader Unit := do
  skip
  skipBlanks

/-- Passes a text if it comes next. -/
def skipText (text : String) : Reader Bool := do
  let c ← get
  if text.toList.isPrefixOf c.rest then
    for _ in text.toList do skip
    return true
  else return false

/-- The pattern is at fault. -/
def fail {α : Type} (flaw : Flaw) (span : Span) (reason : Option Span := none) : Reader α :=
  throw ⟨flaw, span, reason⟩

/-- The pattern is at fault at the current place. -/
def failHere {α : Type} (flaw : Flaw) : Reader α := do fail flaw ⟨← here, ← here⟩

/-- The pattern is at fault from a place up to the current one. -/
def failSince {α : Type} (flaw : Flaw) (start : Spot) : Reader α := do fail flaw (← since start)

/-- The character behind the next one, white space in a spaced pattern not counted. -/
def second? : Reader (Option Char) := do
  let c ← get
  let rest := c.rest.drop 1
  return if c.spaced then behind false rest else rest.head?
where
  /-- The first character that is neither white space nor the first sign of a comment. -/
  behind : Bool → List Char → Option Char
    | _, [] => none
    | inComment, c :: rest =>
      if Text.isBlank c then behind inComment rest
      else if c == '#' && !inComment then behind true rest
      else some c

/-! ## Escapes -/

/-- The characters that mean something in a pattern. -/
def isMeta (c : Char) : Bool :=
  ['\\', '.', '+', '*', '?', '(', ')', '|', '[', ']', '{', '}', '^', '$', '#', '&', '-',
    '~'].contains c

/-- The value of a hexadecimal digit. -/
def hexDigit? (c : Char) : Option Nat :=
  if c.isDigit then some (c.toNat - '0'.toNat)
  else if 'a' ≤ c && c ≤ 'f' then some (c.toNat - 'a'.toNat + 10)
  else if 'A' ≤ c && c ≤ 'F' then some (c.toNat - 'A'.toNat + 10)
  else none

/-- The character of a code, if there is one. -/
def charOf? (code : Nat) : Option Char :=
  if code < 0xD800 || (0xDFFF < code && code < 0x110000) then some (Char.ofNat code) else none

/-- Reads a given number of hexadecimal digits. -/
def hexDigits : Nat → Nat → Reader Nat
  | 0, value => return value
  | n + 1, value => do
    match ← peek? with
    | none => failHere .cutEscape
    | some c =>
      match hexDigit? c with
      | none => fail .hexDigit (← next)
      | some d =>
        advance
        hexDigits n (value * 16 + d)

/-- Reads hexadecimal digits up to a brace.  Gives their value and whether there were any. -/
def hexUpToBrace (brace : Spot) : Nat → Nat → Bool → Reader (Nat × Bool)
  | 0, value, any => return (value, any)
  | n + 1, value, any => do
    match ← peek? with
    | none => failSince .cutEscape brace
    | some '}' => return (value, any)
    | some c =>
      match hexDigit? c with
      | none => fail .hexDigit (← next)
      | some d =>
        advance
        hexUpToBrace brace n (value * 16 + d) true

/-- Reads a character by its code, behind the backslash at `start`. -/
def hex (start : Spot) (letter : Char) : Reader Literal := do
  advance
  if ← atEnd then failHere .cutEscape
  if (← peek?) = some '{' then
    let brace ← here
    let inside := (← next).stop
    advance
    let (code, any) ← hexUpToBrace brace ((← get).rest.length + 1) 0 false
    let stop ← here
    advance
    if !any then failSince .emptyHex brace
    match charOf? code with
    | some c => return { span := ← since start, char := c }
    | none => fail .noCharacter ⟨inside, stop⟩
  else
    let first ← here
    let code ← hexDigits (match letter with | 'x' => 2 | 'u' => 4 | _ => 8) 0
    match charOf? code with
    | some c => return { span := ← since start, char := c, byte := letter == 'x' }
    | none => failSince .noCharacter first

/-- The characters up to a brace, white space in a spaced pattern not counted. -/
def upToBrace : Nat → Reader (List Char)
  | 0 => return []
  | n + 1 => do
    match ← peek? with
    | none => failHere .cutEscape
    | some '}' => return []
    | some c =>
      advance
      return c :: (← upToBrace n)

/-- A text up to the first place where another stands, and the text behind that. -/
def cutAt? (mark : List Char) : List Char → Option (List Char × List Char)
  | [] => none
  | c :: rest =>
    if mark.isPrefixOf (c :: rest) then some ([], (c :: rest).drop mark.length)
    else (cutAt? mark rest).map fun (before, after) => (c :: before, after)

/-- What a property between braces says. -/
def propertyOf (text : List Char) : Property :=
  let valued (mark : List Char) (equal : Bool) : Option Property :=
    (cutAt? mark text).map fun (name, value) =>
      .valued (String.ofList name) (String.ofList value) equal
  (valued ['!', '='] false <|> valued [':'] true <|> valued ['='] true).getD
    (.named (String.ofList text))

/-- Reads a property. -/
def property : Reader Property := do
  advance
  match ← peek? with
  | none => failHere .cutEscape
  | some '{' =>
    advance
    let text ← upToBrace ((← get).rest.length + 1)
    skip
    return propertyOf text
  | some c =>
    if c == '\\' then fail .badProperty (← next)
    advance
    return .named c.toString

/-- Reads the word of a boundary. -/
def boundaryWord : Nat → Reader (List Char)
  | 0 => return []
  | n + 1 => do
    match ← peek? with
    | some c =>
      if c.isAlpha || c == '-' then
        advance
        return c :: (← boundaryWord n)
      else return []
    | none => return []

/-- Reads what stands in braces behind the boundary at `start`; if it is no word, it is left to be
read as a count. -/
def boundary? (start : Spot) : Reader (Option Assertion) := do
  let before ← get
  advance
  match ← peek? with
  | none => failSince .cutBoundary start
  | some c =>
    if !(c.isAlpha || c == '-') then
      set before
      return none
    else
      let inside ← here
      let word ← boundaryWord (← get).rest.length
      if (← peek?) != some '}' then failSince .openBoundary before.spot
      let stop ← here
      skip
      match String.ofList word with
      | "start" => return some .wordStart
      | "end" => return some .wordEnd
      | "start-half" => return some .wordStartHalf
      | "end-half" => return some .wordEndHalf
      | _ => fail .unknownBoundary ⟨inside, stop⟩

/-- The characters that have an escape of their own. -/
def special? : Char → Option Char
  | 'a' => some '\x07'
  | 'f' => some '\x0c'
  | 't' => some '\t'
  | 'n' => some '\n'
  | 'r' => some '\r'
  | 'v' => some '\x0b'
  | _ => none

/-- Reads an escape. -/
def escape : Reader Node := do
  let start ← here
  skip
  match ← peek? with
  | none => failSince .cutEscape start
  | some c =>
    if c.isDigit then fail .backReference ⟨start, (← next).stop⟩
    else if c == 'x' || c == 'u' || c == 'U' then return .literal (← hex start c)
    else if c == 'p' || c == 'P' then
      let p ← property
      return .property (← since start) (c == 'P') p
    else
      let shorthand (negated : Bool) (s : Shorthand) : Reader Node := do
        skip
        return .shorthand (← since start) negated s
      match c with
      | 'd' => shorthand false .digit
      | 'D' => shorthand true .digit
      | 's' => shorthand false .space
      | 'S' => shorthand true .space
      | 'w' => shorthand false .word
      | 'W' => shorthand true .word
      | _ =>
        skip
        let span ← since start
        if isMeta c || (c.toNat < 0x80 && !c.isAlphanum && c != '<' && c != '>') then
          return .literal { span, char := c }
        else match special? c with
          | some char => return .literal { span, char }
          | none =>
            match c with
            | 'A' => return .assertion span .textStart
            | 'z' => return .assertion span .textEnd
            | 'b' =>
              if (← peek?) = some '{' then
                match ← boundary? start with
                | some a => return .assertion (← since start) a
                | none => return .assertion span .wordBoundary
              else return .assertion span .wordBoundary
            | 'B' => return .assertion span .noWordBoundary
            | '<' => return .assertion span .wordStart
            | '>' => return .assertion span .wordEnd
            | _ => fail .unknownEscape span

/-! ## Sets -/

/-- What a set is made of so far, latest first. -/
structure Items where
  start : Spot
  items : List SetNode := []

/-- The items of a set as one. -/
def Items.node (u : Items) : SetNode :=
  match u.items.reverse with
  | [] => .empty ⟨u.start, u.start⟩
  | [item] => item
  | first :: rest =>
    .union ⟨first.span.start, ((rest.getLast?).getD first).span.stop⟩ (first :: rest)

/-- A set that is not closed yet: it lies among other items, or its left side is waiting for the
right side of an operation. -/
inductive OpenSet where
  | within (around : Items) (span : Span) (negated : Bool)
  | operation (operator : SetOperator) (left : SetNode)

/-- The sets with a name between colons. -/
def asciiNames : List String :=
  ["alnum", "alpha", "ascii", "blank", "cntrl", "digit", "graph", "lower", "print", "punct",
    "space", "upper", "word", "xdigit"]

/-- Reads a set with a name between colons, if there is one. -/
def asciiSet? : Reader (Option SetNode) := do
  let before ← get
  let start ← here
  if !(← skipText "[:") then return none
  let negated ← skipText "^"
  let name := (← get).rest.takeWhile (· != ':')
  for _ in name do skip
  if asciiNames.contains (String.ofList name) && (← skipText ":]") then
    return some (.ascii (← since start) negated (String.ofList name))
  else
    set before
    return none

/-- Reads hyphens at the beginning of a set. -/
def leadingHyphens (start : Spot) : Nat → Items → Reader Items
  | 0, u => return u
  | n + 1, u => do
    if (← peek?) = some '-' then
      let span ← next
      advance
      if ← atEnd then fail .openSet ⟨start, start⟩
      leadingHyphens start n { u with items := .literal { span, char := '-' } :: u.items }
    else return u

/-- Reads the beginning of a set.  Gives its place, whether it is negated, and its first items. -/
def openSet : Reader (Span × Bool × Items) := do
  let start ← here
  advance
  if ← atEnd then failSince .openSet start
  let negated ← if (← peek?) = some '^' then do
      advance
      if ← atEnd then failSince .openSet start
      pure true
    else pure false
  let items ← leadingHyphens start (← get).rest.length { start := ← here }
  let items ← if items.items.isEmpty && (← peek?) = some ']' then do
      let span ← next
      advance
      if ← atEnd then failSince .openSet start
      pure { items with items := [.literal { span, char := ']' }] }
    else pure items
  return (← since start, negated, items)

/-- The pattern ends in a set. -/
def unclosed {α : Type} (stack : List OpenSet) : Reader α := do
  let spans := stack.filterMap fun
    | .within _ span _ => some span
    | .operation _ _ => none
  match spans with
  | span :: _ => fail .openSet span
  | [] => failHere .openSet

/-- Reads a character of a set, or an escape. -/
def setPart : Reader Node := do
  match ← peek? with
  | some '\\' => escape
  | some c =>
    let span ← next
    skip
    return .literal { span, char := c }
  | none => failHere .openSet

/-- A part of a set that may stand alone. -/
def toItem : Node → Reader SetNode
  | .literal l => return .literal l
  | .property span negated p => return .property span negated p
  | .shorthand span negated s => return .shorthand span negated s
  | n => fail .escapeInSet n.span

/-- A part of a set that may stand at an end of a range. -/
def toBoundary : Node → Reader Literal
  | .literal l => return l
  | n => fail .rangeBoundary n.span

/-- Reads an item of a set: a character, a range or an escape. -/
def setItem (stack : List OpenSet) : Reader SetNode := do
  let first ← setPart
  skipBlanks
  if ← atEnd then unclosed stack
  let behind ← second?
  if (← peek?) != some '-' || behind = some ']' || behind = some '-' then toItem first
  else
    advance
    if ← atEnd then unclosed stack
    let last ← setPart
    let span : Span := ⟨first.span.start, last.span.stop⟩
    let low ← toBoundary first
    let high ← toBoundary last
    if high.char < low.char then fail .reversedRange span
    return .range span low high

/-- Finishes the operations that wait for their right side. -/
def finishOperation (right : SetNode) : List OpenSet → SetNode × List OpenSet
  | .operation operator left :: rest =>
    (.operation ⟨left.span.start, right.span.stop⟩ operator left right, rest)
  | stack => (right, stack)

/-- The operator that comes next. -/
def setOperator? : Reader (Option SetOperator) := do
  if ← skipText "&&" then return some .intersection
  else if ← skipText "--" then return some .difference
  else if ← skipText "~~" then return some .symmetricDifference
  else return none

/-- Reads the rest of a set. -/
def setFrom : Nat → List OpenSet → Items → Reader Node
  | 0, stack, _ => unclosed stack
  | n + 1, stack, u => do
    skipBlanks
    match ← peek? with
    | none => unclosed stack
    | some '[' =>
      match ← asciiSet? with
      | some item => setFrom n stack { u with items := item :: u.items }
      | none =>
        let (span, negated, items) ← openSet
        setFrom n (.within u span negated :: stack) items
    | some ']' =>
      let (body, stack) := finishOperation u.node stack
      match stack with
      | .within around span negated :: outer =>
        skip
        let span : Span := ⟨span.start, ← here⟩
        if outer.isEmpty then return .set span negated body
        else setFrom n outer { around with items := .bracketed span negated body :: around.items }
      | stack => unclosed stack
    | some _ =>
      match ← setOperator? with
      | some operator =>
        let (left, stack) := finishOperation u.node stack
        setFrom n (.operation operator left :: stack) { start := ← here }
      | none =>
        let item ← setItem stack
        setFrom n stack { u with items := item :: u.items }

/-- Reads a set. -/
def bracketed : Reader Node := do
  let around : Items := { start := ← here }
  let length := (← get).rest.length
  let (span, negated, items) ← openSet
  setFrom length [.within around span negated] items

/-! ## Repetition -/

/-- The part that is repeated, and what stands before it. -/
def repeatable : List Node → Reader (Node × List Node)
  | [] | .empty _ :: _ | .flags _ _ :: _ => failHere .nothingRepeated
  | body :: items => return (body, items)

/-- Repeats the part that was read last. -/
def repetition (least : Nat) (most : Option Nat) (items : List Node) : Reader (List Node) := do
  let (body, items) ← repeatable items
  skip
  if (← peek?) = some '?' then skip
  return .repetition ⟨body.span.start, ← here⟩ least most body :: items

/-- Passes white space. -/
def skipSpace : Nat → Reader Unit
  | 0 => return ()
  | n + 1 => do
    match ← peek? with
    | some c =>
      if Text.isBlank c then
        skip
        skipSpace n
    | none => return ()

/-- Reads digits. -/
def digits : Nat → Reader (List Char)
  | 0 => return []
  | n + 1 => do
    match ← peek? with
    | some c =>
      if c.isDigit then
        advance
        return c :: (← digits n)
      else return []
    | none => return []

/-- Reads a number of at most 32 bits; gives the flaw if there is none. -/
def decimal : Reader (Except Finding Nat) := do
  let length := (← get).rest.length
  skipSpace length
  let start ← here
  let ds ← digits length
  let span ← since start
  skipSpace length
  if ds.isEmpty then return .error ⟨.missingCount, span, none⟩
  else
    let value := ds.foldl (fun n d => n * 10 + (d.toNat - '0'.toNat)) 0
    return if value < Nat.pow 2 32 then .ok value else .error ⟨.hugeCount, span, none⟩

/-- Reads how often the part that was read last is repeated. -/
def counted (items : List Node) : Reader (List Node) := do
  let start ← here
  let (body, items) ← repeatable items
  advance
  if ← atEnd then failSince .openCount start
  let least ← decimal
  if ← atEnd then failSince .openCount start
  let (least, most) ← if (← peek?) = some ',' then do
      advance
      if ← atEnd then failSince .openCount start
      if (← peek?) = some '}' then pure (← least, none)
      else do
        let least ← least
        pure (least, some (← (← decimal)))
    else do
      let least ← least
      pure (least, some least)
  if (← peek?) != some '}' then failSince .openCount start
  advance
  if (← peek?) = some '?' then skip
  let span ← since start
  if most.any (· < least) then fail .reversedCounts span
  return .repetition ⟨body.span.start, ← here⟩ least most body :: items

/-! ## Groups -/

/-- Reads a flag. -/
def flag : Reader Flag := do
  match ← peek? with
  | some 'i' => return .ignoreCase
  | some 'm' => return .manyLines
  | some 's' => return .dotMatchesAll
  | some 'U' => return .swapGreed
  | some 'u' => return .unicode
  | some 'R' => return .crlf
  | some 'x' => return .spaced
  | _ => fail .unknownFlag (← next)

/-- What was read of the flags of a group: the flags with their places, latest first, and where they
are negated. -/
structure GivenFlags where
  flags : List (Flag × Bool × Span) := []
  negation : Option Span := none

/-- Reads flags up to a colon or a parenthesis.  `dangling` is a negation right before. -/
def flagsFrom : Nat → Option Span → GivenFlags → Reader GivenFlags
  | 0, _, given => return given
  | n + 1, dangling, given => do
    match ← peek? with
    | some ':' | some ')' =>
      match dangling with
      | some span => fail .danglingNegation span
      | none => return given
    | c =>
      let span ← next
      let given ← if c = some '-' then
          match given.negation with
          | some earlier => fail .repeatedNegation span earlier
          | none => pure { given with negation := some span }
        else do
          let f ← flag
          match given.flags.lookup f with
          | some (_, earlier) => fail .repeatedFlag span earlier
          | none =>
            pure { given with flags := (f, given.negation.isNone, span) :: given.flags }
      skip
      if ← atEnd then failHere .cutFlags
      flagsFrom n (if c = some '-' then some span else none) given

/-- A character of the name of a group. -/
def isNameChar (first : Bool) (c : Char) : Bool :=
  c == '_' ||
    if first then Text.isAlphabetic c
    else Text.isAlphanumeric c || c == '.' || c == '[' || c == ']'

/-- Reads the characters of a name. -/
def nameFrom : Nat → Bool → Reader (List Char)
  | 0, _ => return []
  | n + 1, first => do
    match ← peek? with
    | none => failHere .openName
    | some '>' => return []
    | some c =>
      if isNameChar first c then
        skip
        return c :: (← nameFrom n false)
      else fail .badName (← next)

/-- Reads the name of a group, which no other group may have. -/
def groupName : Reader Unit := do
  if ← atEnd then failHere .openName
  let start ← here
  let name ← nameFrom ((← get).rest.length + 1) true
  let span ← since start
  skip
  if name.isEmpty then fail .emptyName ⟨start, start⟩
  match (← get).names.lookup (String.ofList name) with
  | some earlier => fail .repeatedName span earlier
  | none => modify fun c => { c with names := (String.ofList name, span) :: c.names }

/-- The beginning of a group. -/
structure Opening where
  /-- where its parenthesis stands -/
  span : Span
  /-- what the group matches is remembered -/
  captures : Bool := true
  flags : Flags := []
  /-- the flags stand alone, and hold for what follows -/
  alone : Bool := false

/-- Reads the beginning of a group. -/
def openGroup : Reader Opening := do
  let paren ← next
  skip
  skipBlanks
  let inside ← here
  for look in ["?=", "?!", "?<=", "?<!"] do
    if ← skipText look then failSince .lookAround paren.start
  if ← (do return (← skipText "?P<") || (← skipText "?<")) then
    groupName
    return { span := paren }
  else if ← skipText "?" then
    if ← atEnd then fail .openGroup paren
    let given ← flagsFrom ((← get).rest.length + 1) none {}
    let flags := given.flags.reverse.map fun (f, isSet, _) => (f, isSet)
    let alone := (← peek?) = some ')'
    skip
    if alone && flags.isEmpty && given.negation.isNone then
      fail .nothingRepeated ⟨inside, inside⟩
    return { span := paren, captures := false, flags, alone }
  else return { span := paren }

/-- Parts one behind the other, latest first. -/
structure Concat where
  start : Spot
  items : List Node := []

/-- The parts as one, which ends at a place. -/
def Concat.node (c : Concat) (stop : Spot) : Node :=
  match c.items with
  | [] => .empty ⟨c.start, stop⟩
  | [item] => item
  | items => .concat ⟨c.start, stop⟩ items.reverse

/-- What is not closed yet: a group among other parts, or the branches before the current one,
latest first. -/
inductive Frame where
  | group (around : Concat) (opening : Opening) (spaced : Bool)
  | branches (start : Spot) (nodes : List Node)

/-- Ends the branch that is read, and the branches before it. -/
def endBranch (stack : List Frame) (c : Concat) : Reader (Node × List Frame) := do
  let stop ← here
  match stack with
  | .branches start nodes :: rest =>
    return (.alternation ⟨start, stop⟩ (c.node stop :: nodes).reverse, rest)
  | stack => return (c.node stop, stack)

/-- Reads a part that is not made of others. -/
def part : Reader Node := do
  match ← peek? with
  | some '\\' => escape
  | c =>
    let span ← next
    skip
    return match c with
    | some '.' => .dot span
    | some '^' => .assertion span .lineStart
    | some '$' => .assertion span .lineEnd
    | c => .literal { span, char := c.getD '\x00' }

/-- Reads the rest of a pattern. -/
def nodeFrom : Nat → List Frame → Concat → Reader Node
  | 0, _, c => return c.node (← here)
  | n + 1, stack, c => do
    skipBlanks
    match ← peek? with
    | none =>
      let (node, stack) ← endBranch stack c
      match stack with
      | .group _ opening _ :: _ => fail .openGroup opening.span
      | _ => return node
    | some '(' =>
      let opening ← openGroup
      let spaced := (← get).spaced
      modify fun s => { s with spaced := (opening.flags.lookup .spaced).getD spaced }
      if opening.alone then
        let flags := Node.flags ⟨opening.span.start, ← here⟩ opening.flags
        nodeFrom n stack { c with items := flags :: c.items }
      else nodeFrom n (.group c opening spaced :: stack) { start := ← here }
    | some ')' =>
      let (body, stack) ← endBranch stack c
      match stack with
      | .group around opening spaced :: outer =>
        modify fun s => { s with spaced }
        skip
        let group := Node.group ⟨opening.span.start, ← here⟩ opening.captures opening.flags body
        nodeFrom n outer { around with items := group :: around.items }
      | _ => fail .closedGroup (← next)
    | some '|' =>
      let node := c.node (← here)
      let stack := match stack with
        | .branches start nodes :: rest => Frame.branches start (node :: nodes) :: rest
        | stack => .branches c.start [node] :: stack
      skip
      nodeFrom n stack { start := ← here }
    | some '[' =>
      let set ← bracketed
      nodeFrom n stack { c with items := set :: c.items }
    | some '?' => nodeFrom n stack { c with items := ← repetition 0 (some 1) c.items }
    | some '*' => nodeFrom n stack { c with items := ← repetition 0 none c.items }
    | some '+' => nodeFrom n stack { c with items := ← repetition 1 none c.items }
    | some '{' => nodeFrom n stack { c with items := ← counted c.items }
    | some _ =>
      let node ← part
      nodeFrom n stack { c with items := node :: c.items }

end Reader

/-- Reads a pattern. -/
def Node.read (pattern : String) : Except Finding Node := do
  let (node, _) ← (Reader.nodeFrom (pattern.length + 1) [] { start := {} }).run
    { rest := pattern.toList }
  node.checkDepth 0
  return node

end Fleet.CommandLine.Pattern

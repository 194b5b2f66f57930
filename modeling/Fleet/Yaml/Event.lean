import Fleet.Yaml.Token

namespace Fleet.Yaml

/-! # Events

The nodes of the first document of a text, in document order: `events` turns tokens into events up
to the first flaw.  A state says which events may come next; what is still open around the current
node stands on a stack of states.
-/

/-- A step through the nodes of a document. -/
inductive Event where
  | alias (name : String)
  | scalar (anchor tag : Option String) (text : String) (style : Style)
  | sequenceStart (anchor tag : Option String)
  | sequenceEnd
  | mappingStart (anchor tag : Option String)
  | mappingEnd
  deriving DecidableEq, Repr

/-- An event and where in the text it begins. -/
structure Located where
  event : Event
  mark : Mark
  deriving DecidableEq, Repr

/-- What may come next. -/
inductive State where
  | documentStart
  | documentContent
  | documentEnd
  | blockNode
  | blockSequenceEntry (first : Bool)
  | indentlessEntry
  | blockKey (first : Bool)
  | blockValue
  | flowEntry (first : Bool)
  | flowPairKey
  | flowPairValue
  | flowPairEnd
  | flowKey (first : Bool)
  | flowValue (empty : Bool)
  /-- the document is complete and nothing follows it -/
  | finished
  deriving DecidableEq, Repr

/-- Tokens being read as events. -/
structure Reading where
  tokens : List Token
  state : State := .documentStart
  around : List State := []
  /-- the tag handles that directives define -/
  handles : List (String × String) := []
  /-- why there are no more tokens, should they run out -/
  broken : Flaw := .unexpectedToken
  deriving Inhabited

/-- The handles every document has. -/
def standardHandles : List (String × String) := [("!", "!"), ("!!", "tag:yaml.org,2002:")]

namespace Reading

/-- The next token; there is one unless the text has a flaw. -/
def peek (r : Reading) : Except Flaw Token :=
  match r.tokens with
  | [] => .error r.broken
  | t :: _ => .ok t

def skip (r : Reading) : Reading := { r with tokens := r.tokens.drop 1 }

/-- Goes back to the state around the current one. -/
def leave (r : Reading) : Reading :=
  match r.around with
  | [] => { r with state := .finished }
  | s :: rest => { r with state := s, around := rest }

/-- What a step gives: perhaps an event, and what is left to read. -/
abbrev Step := Except Flaw (Option Located × Reading)

/-- A scalar that is not written, in a place that has one. -/
def emptyScalar (mark : Mark) (r : Reading) : Step :=
  .ok (some ⟨.scalar none none "" .plain, mark⟩, r)

def give (event : Event) (mark : Mark) (r : Reading) : Step := .ok (some ⟨event, mark⟩, r)

/-! ## Nodes -/

/-- What is written in front of a node. -/
structure Properties where
  anchor : Option String := none
  tag : Option (String × String) := none
  mark : Mark

/-- Reads an anchor and a tag, in either order. -/
def properties (r : Reading) : Except Flaw (Properties × Reading) := do
  let first ← r.peek
  match first.kind with
  | .anchor name =>
    let r := r.skip
    match (← r.peek).kind with
    | .tag handle suffix => return (⟨some name, some (handle, suffix), first.start⟩, r.skip)
    | _ => return (⟨some name, none, first.start⟩, r)
  | .tag handle suffix =>
    let r := r.skip
    match (← r.peek).kind with
    | .anchor name => return (⟨some name, some (handle, suffix), first.start⟩, r.skip)
    | _ => return (⟨none, some (handle, suffix), first.start⟩, r)
  | _ => return (⟨none, none, first.start⟩, r)

/-- A tag in full. -/
def fullTag (r : Reading) : Option (String × String) → Except Flaw (Option String)
  | none => .ok none
  | some (handle, suffix) =>
    if handle.isEmpty then .ok (some suffix)
    else match r.handles.lookup handle with
      | some start => .ok (some (start ++ suffix))
      | none => .error .undefinedHandle

/-- Reads the beginning of a node, or all of it if it is a scalar.  Block collections are allowed
`inBlock` only, and a sequence that stands no deeper than its key `asValue` only. -/
def node (inBlock asValue : Bool) (r : Reading) : Step := do
  let first ← r.peek
  match first.kind with
  | .alias name => give (.alias name) first.start r.leave.skip
  | _ =>
    let (p, r) ← r.properties
    let tag ← r.fullTag p.tag
    let next ← r.peek
    match next.kind with
    | .scalar text style =>
      give (.scalar p.anchor tag text style) p.mark r.leave.skip
    | .flowSequenceStart =>
      give (.sequenceStart p.anchor tag) p.mark { r with state := .flowEntry true }
    | .flowMappingStart =>
      give (.mappingStart p.anchor tag) p.mark { r with state := .flowKey true }
    | .blockEntry =>
      if asValue then give (.sequenceStart p.anchor tag) p.mark { r with state := .indentlessEntry }
      else missing p tag r
    | .blockSequenceStart =>
      if inBlock then
        give (.sequenceStart p.anchor tag) p.mark { r with state := .blockSequenceEntry true }
      else missing p tag r
    | .blockMappingStart =>
      if inBlock then give (.mappingStart p.anchor tag) p.mark { r with state := .blockKey true }
      else missing p tag r
    | _ => missing p tag r
where
  /-- A node of which nothing but its properties is written. -/
  missing (p : Properties) (tag : Option String) (r : Reading) : Step :=
    if p.anchor.isSome || p.tag.isSome then
      give (.scalar p.anchor tag "" .plain) p.mark r.leave
    else .error .unexpectedToken

/-- Reads a node; `after` is what may come behind it. -/
def nodeThen (after : State) (inBlock asValue : Bool) (r : Reading) : Step :=
  node inBlock asValue { r with around := after :: r.around }

/-! ## Documents -/

/-- Reads the directives in front of a document. -/
def directivesFrom : List Token → Bool → List (String × String) →
    Except Flaw (List Token × List (String × String))
  | t :: rest, versionSeen, handles =>
    match t.kind with
    | .versionDirective major minor =>
      if versionSeen || major != 1 || (minor != 1 && minor != 2) then .error .badDirective
      else directivesFrom rest true handles
    | .tagDirective handle value =>
      if (handles.lookup handle).isSome then .error .badDirective
      else directivesFrom rest versionSeen (handles ++ [(handle, value)])
    | _ => .ok (t :: rest, handles)
  | [], _, handles => .ok ([], handles)

/-- The beginning of the document. -/
def documentStart (r : Reading) : Step := do
  let t ← r.peek
  match t.kind with
  | .streamEnd => return (none, { r with state := .finished })
  | .versionDirective _ _ | .tagDirective _ _ | .documentStart =>
    let (rest, own) ← directivesFrom r.tokens false []
    let handles := own ++ standardHandles
    match rest with
    | ⟨.documentStart, _, _⟩ :: rest =>
      return (none,
        { r with tokens := rest, state := .documentContent, around := [.documentEnd], handles })
    | _ => .error .unexpectedToken
  | _ =>
    return (none,
      { r with state := .blockNode, around := [.documentEnd], handles := standardHandles })

/-- What stands behind the line that begins the document. -/
def documentContent (r : Reading) : Step := do
  let t ← r.peek
  match t.kind with
  | .versionDirective _ _ | .tagDirective _ _ | .documentStart | .documentEnd | .streamEnd =>
    emptyScalar t.start r.leave
  | _ => node true false r

/-- The end of the document, which has to be the end of the text. -/
def documentEnd (r : Reading) : Step := do
  let rest := r.tokens.dropWhile fun t => t.kind == .documentEnd
  match rest with
  | ⟨.streamEnd, _, _⟩ :: _ => return (none, { r with state := .finished })
  | _ => .error .furtherDocument

/-! ## Block collections -/

def blockSequenceEntry (first : Bool) (r : Reading) : Step := do
  let r := if first then r.skip else r
  let t ← r.peek
  match t.kind with
  | .blockEntry =>
    let r := r.skip
    match (← r.peek).kind with
    | .blockEntry | .blockEnd => emptyScalar t.stop { r with state := .blockSequenceEntry false }
    | _ => nodeThen (.blockSequenceEntry false) true false r
  | .blockEnd => give .sequenceEnd t.start r.leave.skip
  | _ => .error .unexpectedToken

def indentlessEntry (r : Reading) : Step := do
  let t ← r.peek
  match t.kind with
  | .blockEntry =>
    let r := r.skip
    match (← r.peek).kind with
    | .blockEntry | .key | .value | .blockEnd =>
      emptyScalar t.stop { r with state := .indentlessEntry }
    | _ => nodeThen .indentlessEntry true false r
  | _ => give .sequenceEnd t.start r.leave

def blockKey (first : Bool) (r : Reading) : Step := do
  let r := if first then r.skip else r
  let t ← r.peek
  match t.kind with
  | .key =>
    let r := r.skip
    match (← r.peek).kind with
    | .key | .value | .blockEnd => emptyScalar t.stop { r with state := .blockValue }
    | _ => nodeThen .blockValue true true r
  | .blockEnd => give .mappingEnd t.start r.leave.skip
  | _ => .error .unexpectedToken

def blockValue (r : Reading) : Step := do
  let t ← r.peek
  match t.kind with
  | .value =>
    let r := r.skip
    match (← r.peek).kind with
    | .key | .value | .blockEnd => emptyScalar t.stop { r with state := .blockKey false }
    | _ => nodeThen (.blockKey false) true true r
  | _ => emptyScalar t.start { r with state := .blockKey false }

/-! ## Flow collections -/

/-- Passes the comma in front of any entry but the first, if the collection goes on. -/
def nextEntry (first : Bool) (closing : TokenKind) (r : Reading) : Except Flaw Reading := do
  let r := if first then r.skip else r
  let t ← r.peek
  if t.kind == closing || first then return r
  else if t.kind == .flowEntry then return r.skip
  else .error .unexpectedToken

def flowEntry (first : Bool) (r : Reading) : Step := do
  let r ← nextEntry first .flowSequenceEnd r
  let t ← r.peek
  match t.kind with
  | .flowSequenceEnd => give .sequenceEnd t.start r.leave.skip
  | .key => give (.mappingStart none none) t.start { r.skip with state := .flowPairKey }
  | _ => nodeThen (.flowEntry false) false false r

def flowPairKey (r : Reading) : Step := do
  let t ← r.peek
  match t.kind with
  | .value | .flowEntry | .flowSequenceEnd =>
    emptyScalar t.stop { r.skip with state := .flowPairValue }
  | _ => nodeThen .flowPairValue false false r

def flowPairValue (r : Reading) : Step := do
  let t ← r.peek
  match t.kind with
  | .value =>
    let r := r.skip
    let t ← r.peek
    match t.kind with
    | .flowEntry | .flowSequenceEnd => emptyScalar t.start { r with state := .flowPairEnd }
    | _ => nodeThen .flowPairEnd false false r
  | _ => emptyScalar t.start { r with state := .flowPairEnd }

def flowPairEnd (r : Reading) : Step := do
  let t ← r.peek
  give .mappingEnd t.start { r with state := .flowEntry false }

def flowKey (first : Bool) (r : Reading) : Step := do
  let r ← nextEntry first .flowMappingEnd r
  let t ← r.peek
  match t.kind with
  | .flowMappingEnd => give .mappingEnd t.start r.leave.skip
  | .key =>
    let r := r.skip
    let t ← r.peek
    match t.kind with
    | .value | .flowEntry | .flowMappingEnd =>
      emptyScalar t.start { r with state := .flowValue false }
    | _ => nodeThen (.flowValue false) false false r
  | _ => nodeThen (.flowValue true) false false r

def flowValue (empty : Bool) (r : Reading) : Step := do
  let t ← r.peek
  let next := { r with state := .flowKey false }
  match empty, t.kind with
  | false, .value =>
    let r := r.skip
    let t ← r.peek
    match t.kind with
    | .flowEntry | .flowMappingEnd => emptyScalar t.start { next with tokens := r.tokens }
    | _ => nodeThen (.flowKey false) false false r
  | _, _ => emptyScalar t.start next

/-! ## The whole document -/

/-- One step. -/
def step (r : Reading) : Step :=
  match r.state with
  | .documentStart => r.documentStart
  | .documentContent => r.documentContent
  | .documentEnd => r.documentEnd
  | .blockNode => node true false r
  | .blockSequenceEntry first => r.blockSequenceEntry first
  | .indentlessEntry => r.indentlessEntry
  | .blockKey first => r.blockKey first
  | .blockValue => r.blockValue
  | .flowEntry first => r.flowEntry first
  | .flowPairKey => r.flowPairKey
  | .flowPairValue => r.flowPairValue
  | .flowPairEnd => r.flowPairEnd
  | .flowKey first => r.flowKey first
  | .flowValue empty => r.flowValue empty
  | .finished => .ok (none, r)

/-- The events up to the end or the first flaw, in at most `n` steps. -/
def run : Nat → Reading → List Located × Option Flaw
  | 0, _ => ([], some .unexpectedToken)
  | n + 1, r =>
    if r.state = .finished then ([], none)
    else match r.step with
      | .error flaw => ([], some flaw)
      | .ok (event, r) =>
        let (events, flaw) := run n r
        (event.toList ++ events, flaw)

end Reading

/-- The events of a text that holds one document, up to the first flaw, and that flaw.  A text that
holds nothing at all has no event and no flaw. -/
def events (text : List Char) : List Located × Option Flaw :=
  let (tokens, flaw) := tokens text
  Reading.run (4 * tokens.length + 16) { tokens, broken := flaw.getD .unexpectedToken }

end Fleet.Yaml

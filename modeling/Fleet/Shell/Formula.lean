import Fleet.Shell.Arithmetic
import Fleet.Shell.Session

namespace Fleet.Shell

/-! # Formulas

The whole-number expressions of an extended shell.  A variable stands for the value of its text,
which is a formula again.  Formulas may step variables up and down, raise to powers, reach into
lists, and have several parts, of which the last one counts.
-/

namespace Formula

/-- Why a formula has no value. -/
inductive Fault where
  /-- a mistake in a formula, and what stood there -/
  | said (formula text found : String)
  /-- a variable that has to have a value has none -/
  | unbound (name : String)
  /-- a variable is not to be changed -/
  | fixed (name : String)
  /-- a list has no such place -/
  | badKey (name : String)
  deriving DecidableEq, Repr

namespace Fault

/-- What is said about a formula without a value. -/
def message : Fault → String
  | said formula text found =>
    formula ++ ": " ++ text ++ " (error token is \"" ++ found ++ "\")"
  | unbound name => name ++ ": unbound variable"
  | fixed name => name ++ ": readonly variable"
  | badKey name => name ++ ": bad array subscript"

end Fault

/-- A variable or a place in a list. -/
structure Target where
  name : String
  key : Option String := none
  deriving DecidableEq, Repr

/-- A word of a formula. -/
inductive Token where
  | number (n : Int)
  | target (t : Target)
  | sign (text : String)
  /-- no word; `length` characters are looked at -/
  | bad (text : String) (length : Nat)
  deriving DecidableEq, Repr

/-- The signs, longer ones first. -/
def signs : List String := "**" :: Arithmetic.signs ++ [","]

/-- The digit of a character in a base that may have letters of both sizes. -/
def digit? (base : Nat) (c : Char) : Option Nat :=
  let n :=
    if c.isDigit then c.toNat - '0'.toNat
    else if c.isLower then c.toNat - 'a'.toNat + 10
    else if c.isUpper then c.toNat - 'A'.toNat + (if base ≤ 36 then 10 else 36)
    else if c == '@' then 62
    else if c == '_' then 63
    else base
  if n < base then some n else none

/-- The number that digits make. -/
def ofDigits (base : Nat) (cs : List Char) : Except String Int :=
  match cs.mapM (digit? base) with
  | some ds => .ok (Number.wrap (Int.ofNat (ds.foldl (fun n d => base * n + d) 0)))
  | none => .error "value too great for base"

/-- The number that a text is. -/
def number (cs : List Char) : Except String Int :=
  let lead := cs.takeWhile (· != '#')
  match cs.drop lead.length, cs with
  | '#' :: digits, _ => do
    let base ← ofDigits 10 lead
    if base < 2 || 64 < base then throw "invalid arithmetic base"
    else if digits.isEmpty then throw "invalid integer constant"
    else ofDigits base.toNat digits
  | _, '0' :: 'x' :: digits | _, '0' :: 'X' :: digits => ofDigits 16 digits
  | _, '0' :: digits => ofDigits 8 digits
  | _, cs => ofDigits 10 cs

/-- A variable stands at the start of a text, perhaps behind blanks. -/
def startsName (cs : List Char) : Bool :=
  ((cs.dropWhile Number.isBlank).head?).any fun c => c.isAlpha || c == '_'

/-- The characters up to the bracket that closes one; `depth` more are open. -/
def bracketed : Nat → List Char → Option (List Char)
  | _, [] => none
  | depth, c :: rest =>
    if c == ']' then
      match depth with
      | 0 => some []
      | depth + 1 => (bracketed depth rest).map (c :: ·)
    else (bracketed (if c == '[' then depth + 1 else depth) rest).map (c :: ·)

/-- Reads the words of a formula, each with the text from it on; `behindTarget` and `behindValue` say
what stands before. -/
def tokensFrom : Nat → Bool → Bool → List Char → List (Token × List Char)
  | 0, _, _, _ => []
  | _, _, _, [] => []
  | n + 1, behindTarget, behindValue, c :: rest =>
    if c == ' ' || c == '\t' || c == '\n' then tokensFrom n behindTarget behindValue rest
    else if c.isDigit then
      let digits := (c :: rest).takeWhile fun c => Word.isNameChar c || c == '#' || c == '@'
      let t : Token := match number digits with
        | .ok v => .number v
        | .error text => .bad text digits.length
      (t, c :: rest) :: tokensFrom n false true ((c :: rest).drop digits.length)
    else if c.isAlpha || c == '_' then
      let name := (c :: rest).takeWhile Word.isNameChar
      match (c :: rest).drop name.length with
      | '[' :: inside =>
        match bracketed 0 inside with
        | some key =>
          let t : Token := .target ⟨String.ofList name, some (String.ofList key)⟩
          (t, c :: rest) :: tokensFrom n true true (inside.drop (key.length + 1))
        | none => [(.bad "bad array subscript" (rest.length + 1), c :: rest)]
      | after =>
        (.target ⟨String.ofList name, none⟩, c :: rest) :: tokensFrom n true true after
    else
      let doubled := (c == '+' || c == '-') && rest.head? == some c
      if doubled && (behindTarget || startsName rest.tail) then
        let t : Token := .sign (String.ofList [c, c])
        (t, c :: rest) :: tokensFrom n false behindTarget rest.tail
      else match signs.find? fun sign => sign.toList.isPrefixOf (c :: rest) with
        | some sign =>
          let after := (c :: rest).drop sign.length
          (.sign sign, c :: rest) :: tokensFrom n false false after
        | none =>
          let text := if behindValue then "syntax error: invalid arithmetic operator"
            else "syntax error: operand expected"
          [(.bad text (rest.length + 1), c :: rest)]

/-- A formula that is being worked out. -/
structure Sum where
  /-- the formula itself -/
  formula : List Char
  tokens : List (Token × List Char)
  /-- the text from the last word on -/
  last : List Char
  /-- the shell, whose variables may have changed -/
  shell : State
  /-- how many formulas this one stands in -/
  depth : Nat := 0

/-- A formula that is read from its start. -/
def Sum.start (shell : State) (depth : Nat) (text : String) : Sum :=
  let formula := text.toList.dropWhile Number.isBlank
  let tokens := tokensFrom formula.length false false formula
  { formula, tokens, last := (tokens.getLast?.map (·.2)).getD [], shell, depth }

/-- Works on a formula. -/
abbrev Worker := EStateM Fault Sum

/-- Gives up at some text. -/
def failAt {α : Type} (text : String) (found : List Char) : Worker α := do
  throw (.said (String.ofList (← get).formula) text (String.ofList found))

/-- Gives up at the next word. -/
def fail {α : Type} (text : String) : Worker α := do
  let s ← get
  failAt text (match s.tokens with
    | (_, found) :: _ => found
    | [] => s.last)

/-- The next word. -/
def peek : Worker (Option Token) := do
  let s ← get
  match s.tokens with
  | (.bad text length, found) :: _ =>
    let seen := s.formula.length - found.length + length
    throw (.said (String.ofList (s.formula.take seen)) text (String.ofList (found.take length)))
  | (t, _) :: _ => return some t
  | [] => return none

/-- Passes the next word. -/
def pass : Worker Unit := modify fun s => { s with tokens := s.tokens.tail }

/-- Takes a sign if it is the next word. -/
def takeSign (text : String) : Worker Bool := do
  if (← peek) == some (.sign text) then
    pass
    return true
  else return false

/-- What an operator makes of two values; `found` is the text of the second. -/
def combine (live : Bool) (sign : String) (a b : Int) (found : List Char) : Worker Int := do
  if !live then return 0
  else match Arithmetic.apply sign a b with
    | .ok v => return v
    | .error _ => failAt "division by 0" found

/-- A number times a power of another, whose exponent has at most so many bits. -/
def timesPower : Nat → Int → Int → Nat → Int
  | 0, v, _, _ => v
  | bits + 1, v, a, n =>
    let next := if n % 2 = 1 then Number.wrap (v * a) else v
    if n = 0 then v else timesPower bits next (Number.wrap (a * a)) (n / 2)

/-- A number to a power. -/
def power (a : Int) (n : Nat) : Int := timesPower 64 1 a n

mutual

/-- The value of another formula. -/
def value : Nat → String → Worker Int
  | 0, _ => fail "expression recursion level exceeded"
  | n + 1, text => do
    let s ← get
    if 1024 ≤ s.depth then
      throw (.said text "expression recursion level exceeded" text)
    else
      set (Sum.start s.shell (s.depth + 1) text)
      let v ← everything n
      let t ← get
      set { s with shell := t.shell }
      return v

/-- Reads a formula to its end. -/
def everything : Nat → Worker Int
  | 0 => fail "expression recursion level exceeded"
  | n + 1 => do
    match ← peek with
    | none => return 0
    | some _ =>
      let v ← parts n true
      match ← peek with
      | none => return v
      | some _ => fail "syntax error in expression"

/-- The key of a place in a list, which may be counted from the end. -/
def keyOf : Nat → Target → Worker (Option String)
  | 0, _ => fail "expression recursion level exceeded"
  | n + 1, target => do
    match target.key with
    | none => return none
    | some text =>
      let held := (← get).shell.holding? target.name
      if held.any Variable.isNamed then return some text
      else
        let k ← value n text
        let next := match held.bind (·.cells) with
          | some cells => Int.ofNat cells.next
          | none => if (held.bind (·.value)).isSome then 1 else 0
        let k := if k < 0 then next + k else k
        if k < 0 then throw (.badKey target.name)
        else return some (toString k)

/-- A variable or a place whose key has been worked out. -/
def settled : Nat → Target → Worker Target
  | 0, _ => fail "expression recursion level exceeded"
  | n + 1, target => return { target with key := ← keyOf n target }

/-- The value of a variable or a place. -/
def valueOf : Nat → Target → Worker Int
  | 0, _ => fail "expression recursion level exceeded"
  | n + 1, target => do
    let key ← keyOf n target
    let s := (← get).shell
    let text := match key with
      | none => s.parameter? target.name
      | some key => (s.holding? target.name).bind (·.at? key)
    match text with
    | some text => value n text
    | none =>
      if s.has 'u' && key.isNone then throw (.unbound target.name)
      else return 0

/-- Gives a variable or a place a value. -/
def store : Nat → Target → Int → Worker Unit
  | 0, _, _ => fail "expression recursion level exceeded"
  | n + 1, target, v => do
    let key ← keyOf n target
    let s := (← get).shell
    let old := (s.holding? target.name).getD { value := none }
    if old.readOnly then throw (.fixed target.name)
    else
      let after := match key with
        | none => s.assigned target.name (toString v)
        | some key =>
          let cells := old.cells.getD (.ofValues old.value.toList)
          s.put target.name (old.withCells (cells.put key (toString v)))
      modify fun t => { t with shell := after }

/-- Reads parts of which the last one counts. -/
def parts : Nat → Bool → Worker Int
  | 0, _ => fail "expression recursion level exceeded"
  | n + 1, live => do
    let v ← whole n live
    if ← takeSign "," then parts n live else return v

/-- Reads an assignment or a choice. -/
def whole : Nat → Bool → Worker Int
  | 0, _ => fail "expression recursion level exceeded"
  | n + 1, live => do
    match (← get).tokens with
    | (.target target, _) :: (.sign sign, _) :: _ =>
      if Arithmetic.assigning.contains sign then
        pass
        pass
        let target ← if live then settled n target else pure target
        let right ← whole n live
        if live then
          let v ← if sign = "=" then pure right
            else do
              let old ← valueOf n target
              combine true (String.ofList sign.toList.dropLast) old right (← get).last
          store n target v
          return v
        else return right
      else choice n live
    | _ => choice n live

/-- Reads a value and perhaps the choice that it makes. -/
def choice : Nat → Bool → Worker Int
  | 0, _ => fail "expression recursion level exceeded"
  | n + 1, live => do
    let a ← anyOf n live
    match ← peek with
    | some (.sign "?") =>
      pass
      match ← peek with
      | none | some (.sign ":") => fail "expression expected"
      | some _ =>
        let yes ← parts n (live && a != 0)
        if ← takeSign ":" then
          match ← peek with
          | none => fail "expression expected"
          | some _ =>
            let no ← choice n (live && a == 0)
            return if a != 0 then yes else no
        else fail "\x60:' expected for conditional expression"
    | some (.sign sign) =>
      if Arithmetic.assigning.contains sign then fail "attempted assignment to non-variable"
      else return a
    | _ => return a

/-- Reads values joined by `||`. -/
def anyOf : Nat → Bool → Worker Int
  | 0, _ => fail "expression recursion level exceeded"
  | n + 1, live => do
    let a ← allOf n live
    if ← takeSign "||" then
      let b ← anyOf n (live && a == 0)
      return Arithmetic.ofBool (a != 0 || b != 0)
    else return a

/-- Reads values joined by `&&`. -/
def allOf : Nat → Bool → Worker Int
  | 0, _ => fail "expression recursion level exceeded"
  | n + 1, live => do
    let first ← raised n live
    let a ← operators n live 1 first
    if ← takeSign "&&" then
      let b ← allOf n (live && a != 0)
      return Arithmetic.ofBool (a != 0 && b != 0)
    else return a

/-- Reads on behind a value, operators of at least the given rank. -/
def operators : Nat → Bool → Nat → Int → Worker Int
  | 0, _, _, _ => fail "expression recursion level exceeded"
  | n + 1, live, least, left => do
    match ← peek with
    | some (.sign sign) =>
      match Arithmetic.rank? sign with
      | none => return left
      | some rank =>
        if rank < least then return left
        else
          pass
          let s ← get
          let found := (s.tokens.head?.map (·.2)).getD s.last
          let right ← raised n live
          let right ← operators n live (rank + 1) right
          let v ← combine live sign left right found
          operators n live least v
    | _ => return left

/-- Reads a value and perhaps the power that it is raised to. -/
def raised : Nat → Bool → Worker Int
  | 0, _ => fail "expression recursion level exceeded"
  | n + 1, live => do
    let a ← operand n live
    if ← takeSign "**" then
      let b ← raised n live
      if b < 0 then fail "exponent less than 0" else return power a b.toNat
    else return a

/-- Reads a value: a number, a variable, something in parentheses, or one of these behind a sign. -/
def operand : Nat → Bool → Worker Int
  | 0, _ => fail "expression recursion level exceeded"
  | n + 1, live => do
    match ← peek with
    | some (.number v) =>
      pass
      return v
    | some (.target target) =>
      pass
      let target ← if live then settled n target else pure target
      let v ← if live then valueOf n target else pure 0
      match ← peek with
      | some (.sign "++") =>
        pass
        if live then store n target (Number.wrap (v + 1))
        return v
      | some (.sign "--") =>
        pass
        if live then store n target (Number.wrap (v - 1))
        return v
      | _ => return v
    | some (.sign "(") =>
      pass
      let v ← parts n live
      if ← takeSign ")" then return v else fail "missing \x60)'"
    | some (.sign "-") =>
      pass
      return Number.wrap (-(← operand n live))
    | some (.sign "+") =>
      pass
      operand n live
    | some (.sign "!") =>
      pass
      return Arithmetic.ofBool ((← operand n live) == 0)
    | some (.sign "~") =>
      pass
      return -(← operand n live) - 1
    | some (.sign sign) =>
      let step : Option Int := match sign with
        | "++" => some 1
        | "--" => some (-1)
        | _ => none
      match step with
      | none => fail "syntax error: operand expected"
      | some step =>
        pass
        match ← peek with
        | some (.target target) =>
          pass
          let target ← if live then settled n target else pure target
          let v ← if live then valueOf n target else pure 0
          let v := Number.wrap (v + step)
          if live then store n target v
          return v
        | _ => fail "identifier expected after pre-increment or pre-decrement"
    | _ => fail "syntax error: operand expected"

end

/-- How deep the parts of formulas stand inside each other at most. -/
def patience : Nat := 40000

/-- What comes of working on formulas, and the shell afterwards. -/
def outcome {α : Type} (s : State) (worker : Worker α) : Except Fault α × State :=
  match worker.run (Sum.start s 0 "") with
  | .ok a t => (.ok a, t.shell)
  | .error e t => (.error e, t.shell)

/-- The value of a formula, and the shell afterwards. -/
def evaluate (s : State) (text : String) : Except Fault Int × State :=
  outcome s (value patience text)

/-- The key that a text between brackets stands for. -/
def key (s : State) (name text : String) : Except Fault String × State :=
  outcome s (do return (← keyOf patience ⟨name, some text⟩).getD "0")

end Formula

end Fleet.Shell

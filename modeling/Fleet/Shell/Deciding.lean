import Fleet.Shell.Usage

namespace Fleet.Shell

/-! # Conditions of an extended shell

What `test` and `[` decide in an extended shell, where the number of words says how they are read as
long as there are few of them.
-/

namespace Deciding

open Session Question

/-- Why a condition cannot be decided. -/
abbrev Fault := String

/-- A variable or a place in a list has a value. -/
def isGiven (s : State) (word : String) : Bool :=
  let cs := word.toList
  let name := cs.takeWhile (· != '[')
  match cs.drop name.length with
  | '[' :: rest =>
    let key := String.ofList (rest.takeWhile (· != ']'))
    match s.holding? (String.ofList name) with
    | some v => if key = "@" || key = "*" then !v.entries.isEmpty else (v.at? key).isSome
    | none => false
  | _ => (s.parameter? word).isSome

/-- A question about one word. -/
def unary (s : Session) (flag word : String) : Except Fault Bool :=
  match flag with
  | "-a" => .ok (Condition.unary s.world.files "-e" word)
  | "-v" => .ok (isGiven s.shell word)
  | "-R" => .ok (((s.shell.store.lookup word).map (·.traits.contains 'n')).getD false)
  | "-o" => .ok (((State.furtherNames.lookup word).map s.shell.has).getD false)
  | "-t" => match Number.ofText? 10 word with
    | some _ => .ok false
    | none => .error (word ++ ": integer expression expected")
  | "-N" => .ok false
  | flag => .ok (Condition.unary s.world.files flag word)

/-- A question about two words. -/
def binary (s : Session) (sign a b : String) : Except Fault Bool :=
  match Condition.binary s.world.files sign a b with
  | .ok answer => .ok answer
  | .error (.noNumber word) => .error (word ++ ": integer expression expected")
  | .error (.about word text) => .error (word ++ ": " ++ text)
  | .error (.plain text) => .error text

/-- A condition of one word. -/
def one (a : String) : Bool := !a.isEmpty

/-- A condition of two words. -/
def two (s : Session) (a b : String) : Except Fault Bool :=
  if a = "!" then .ok (!one b)
  else if unarySigns.contains a then unary s a b
  else .error (a ++ ": unary operator expected")

/-- A condition of three words. -/
def three (s : Session) (a b c : String) : Except Fault Bool :=
  if binarySigns.contains b then binary s b a c
  else if b = "-a" then .ok (one a && one c)
  else if b = "-o" then .ok (one a || one c)
  else if a = "!" then (two s b c).map not
  else if a = "(" && c = ")" then .ok (one b)
  else .error (b ++ ": binary operator expected")

mutual

/-- Reads conditions joined by `-o`. -/
def anyOf (s : Session) : Nat → List String → Except Fault (Bool × List String)
  | 0, words => .ok (false, words)
  | n + 1, words => do
    let (a, rest) ← allOf s n words
    match rest with
    | "-o" :: rest =>
      let (b, rest) ← anyOf s n rest
      return (a || b, rest)
    | rest => return (a, rest)

/-- Reads conditions joined by `-a`. -/
def allOf (s : Session) : Nat → List String → Except Fault (Bool × List String)
  | 0, words => .ok (false, words)
  | n + 1, words => do
    let (a, rest) ← term s n words
    match rest with
    | "-a" :: rest =>
      let (b, rest) ← allOf s n rest
      return (a && b, rest)
    | rest => return (a, rest)

/-- Reads one condition. -/
def term (s : Session) : Nat → List String → Except Fault (Bool × List String)
  | 0, words => .ok (false, words)
  | n + 1, words => do
    match words with
    | [] => throw "argument expected"
    | "!" :: rest =>
      let (a, rest) ← term s n rest
      return (!a, rest)
    | "(" :: rest =>
      let (a, rest) ← anyOf s n rest
      match rest with
      | ")" :: rest => return (a, rest)
      | [] => throw "\x60)' expected"
      | found :: _ => throw ("\x60)' expected, found " ++ found)
    | a :: sign :: b :: rest =>
      if binarySigns.contains sign then return (← binary s sign a b, rest)
      else if unarySigns.contains a then return (← unary s a sign, b :: rest)
      else return (one a, sign :: b :: rest)
    | [a, b] =>
      if unarySigns.contains a then return (← unary s a b, [])
      else return (one a, [b])
    | [a] => return (one a, [])

end

/-- Decides a condition of many words. -/
def many (s : Session) (words : List String) : Except Fault Bool := do
  match ← anyOf s (4 * words.length + 8) words with
  | (answer, []) => return answer
  | _ => throw "too many arguments"

/-- Decides a condition. -/
def decide (s : Session) (words : List String) : Except Fault Bool :=
  match words with
  | [] => .ok false
  | [a] => .ok (one a)
  | [a, b] => two s a b
  | [a, b, c] => three s a b c
  | [a, b, c, d] =>
    if a = "!" then (three s b c d).map not
    else if a = "(" && d = ")" then two s b c
    else many s words
  | words => many s words

/-- Decides the condition that words state. -/
def test : Builtin.Action := fun words => do
  match decide (← get) words with
  | .ok answer => return if answer then 0 else 1
  | .error text =>
    warn text
    return 2

/-- Decides the condition that words state up to a last `]`. -/
def bracket : Builtin.Action := fun words => do
  if words.getLast? = some "]" then test words.dropLast
  else
    warn "missing \x60]'"
    return 2

end Deciding

end Fleet.Shell

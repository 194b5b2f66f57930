import Fleet.Shell.Bytes
import Fleet.Shell.Expression
import Fleet.Shell.Invocation

namespace Fleet.Shell

/-! # Calculating with words

The program `expr`: its arguments are the signs and the operands of a calculation, and what comes
out is a word.  Signs that bind more tightly are read deeper.
-/

namespace Calculation

/-- Reads the words of a calculation; `said` is the last word that was taken. -/
structure Cursor where
  rest : List String
  said : String := ""

/-- A calculation, or what is wrong with it. -/
abbrev Reader := EStateM String Cursor

/-- Gives up. -/
def refuse {α : Type} (text : String) : Reader α := throw text

/-- Takes the next word. -/
def take : Reader String := do
  match (← get).rest with
  | [] => refuse ("syntax error: missing argument after " ++ Options.quoted (← get).said)
  | word :: rest =>
    set (⟨rest, word⟩ : Cursor)
    return word

/-- Takes the next word if it is one of the given ones. -/
def takeOne (words : List String) : Reader (Option String) := do
  match (← get).rest with
  | word :: rest =>
    if words.contains word then
      set (⟨rest, word⟩ : Cursor)
      return some word
    else return none
  | [] => return none

/-- The number that a word is. -/
def number? (word : String) : Option Int :=
  match word.toList with
  | '-' :: digits => (Number.natural? (String.ofList digits)).map fun n => -(n : Int)
  | _ => (Number.natural? word).map Int.ofNat

/-- The number that a word has to be. -/
def number (word : String) : Reader Int :=
  match number? word with
  | some n => pure n
  | none => refuse "non-integer argument"

/-- A word that says no: an empty one, or a number that is zero. -/
def isNone (word : String) : Bool :=
  match word.toList with
  | [] => true
  | '-' :: c :: rest => (c :: rest).all (· == '0')
  | cs => cs.all (· == '0')

/-- The word for an answer. -/
def answer (b : Bool) : String := if b then "1" else "0"

/-- What a pattern matches at the start of a word: the first group, or else how much. -/
def matched (word pattern : String) : Reader String :=
  match Expression.read {} pattern.toList with
  | .error text => refuse text
  | .ok (r, groups) =>
    let cs := word.toList
    match r.matchAt? cs { rest := cs } with
    | none => pure (if groups = 0 then "0" else "")
    | some m =>
      if groups = 0 then pure (toString m.length)
      else match m.groups.lookup 1 with
        | some (start, length) => pure (String.ofList ((cs.drop start).take length))
        | none => pure ""

/-- Compares two words: as numbers if they are numbers. -/
def compare (sign a b : String) : Bool :=
  let (less, same) : Bool × Bool := match number? a, number? b with
    | some m, some n => (decide (m < n), m == n)
    | _, _ =>
      let (x, y) := (Bytes.narrow a, Bytes.narrow b)
      (Bytes.notBehind x y && x != y, x == y)
  match sign with
  | "<" => less
  | "<=" => less || same
  | "=" | "==" => same
  | "!=" => !same
  | ">=" => !less
  | _ => !less && !same

/-- Does a calculation with two numbers. -/
def calculated (sign a b : String) : Reader String := do
  let m ← number a
  let n ← number b
  match sign with
  | "+" => return toString (m + n)
  | "-" => return toString (m - n)
  | "*" => return toString (m * n)
  | _ =>
    if n = 0 then refuse "division by zero"
    else return toString (if sign = "/" then m.tdiv n else m.tmod n)

/-- The signs between two operands, those that bind least tightly first. -/
def levels : List (List String) :=
  [["|"], ["&"], ["<", "<=", "=", "==", "!=", ">=", ">"], ["+", "-"], ["*", "/", "%"], [":"]]

/-- What a sign makes of two operands. -/
def joined (sign a b : String) : Reader String :=
  match sign with
  | "|" => pure (if isNone a then (if isNone b then "0" else b) else a)
  | "&" => pure (if isNone a || isNone b then "0" else a)
  | ":" => matched a b
  | _ =>
    if ["+", "-", "*", "/", "%"].contains sign then calculated sign a b
    else pure (answer (compare sign a b))

/-- The value of the left operand says what comes out. -/
def isSettled (sign a : String) : Bool :=
  (sign == "|" && !isNone a) || (sign == "&" && isNone a)

mutual

/-- Reads operands and the signs between them; nothing is calculated unless `counts`. -/
def level : Nat → List (List String) → Bool → Reader String
  | 0, _, _ => refuse "memory exhausted"
  | n + 1, [], counts => operand n counts
  | n + 1, signs :: tighter, counts => do
    let first ← level n tighter counts
    further n signs tighter counts first

/-- Reads further operands behind one. -/
def further : Nat → List String → List (List String) → Bool → String → Reader String
  | 0, _, _, _, _ => refuse "memory exhausted"
  | n + 1, signs, tighter, counts, first => do
    match ← takeOne signs with
    | none => return first
    | some sign =>
      let second ← level n tighter (counts && !isSettled sign first)
      let both ←
        if !counts then pure first
        else if isSettled sign first then pure (if sign == "&" then "0" else first)
        else joined sign first second
      further n signs tighter counts both

/-- Reads an operand. -/
def operand : Nat → Bool → Reader String
  | 0, _ => refuse "memory exhausted"
  | n + 1, counts => do
    let word ← take
    match word with
    | "+" => take
    | "length" =>
      let text ← operand n counts
      return toString text.length
    | "match" =>
      let text ← operand n counts
      let pattern ← operand n counts
      if counts then matched text pattern else return text
    | "index" =>
      let text ← operand n counts
      let accepted ← operand n counts
      let before := text.toList.takeWhile fun c => !accepted.toList.contains c
      return toString (if before.length = text.length then 0 else before.length + 1)
    | "substr" =>
      let text ← operand n counts
      let start ← operand n counts
      let length ← operand n counts
      match number? start, number? length with
      | some s, some l =>
        if 0 < s && 0 < l then
          return String.ofList ((text.toList.drop (s.toNat - 1)).take l.toNat)
        else return ""
      | _, _ => return ""
    | "(" =>
      let inner ← level n levels counts
      match (← get).rest with
      | ")" :: rest =>
        set (⟨rest, ")"⟩ : Cursor)
        return inner
      | other :: _ =>
        refuse ("syntax error: expecting ')' instead of " ++ Options.quoted other)
      | [] => refuse ("syntax error: expecting ')' after " ++ Options.quoted (← get).said)
    | ")" => refuse "syntax error: unexpected ')'"
    | word => return word

end

/-- Calculates with words. -/
def calculate (words : List String) : Except String String :=
  match (level (16 * words.length + 32) levels true).run ⟨words, ""⟩ with
  | .ok value s =>
    match s.rest with
    | [] => .ok value
    | word :: _ => .error ("syntax error: unexpected argument " ++ Options.quoted word)
  | .error text _ => .error text

/-- The program. -/
def run (i : Invocation) : Ended :=
  let words := match i.args with
    | "--" :: rest => rest
    | args => args
  if words.isEmpty then i.missing "operand" 2
  else match calculate words with
    | .ok value => i.said (value ++ "\n") (if isNone value then 1 else 0)
    | .error text => i.complained text 2

end Calculation

end Fleet.Shell

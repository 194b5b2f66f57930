import Fleet.Shell.Number

namespace Fleet.Shell

/-! # Arithmetic

The whole-number expressions of a shell, with its operators and assignments.  A value is taken from
a variable at the moment it is read, and what stands behind an operator that has its result already
is read but not worked out.
-/

namespace Arithmetic

/-- A word of an expression. -/
inductive Token where
  | number (n : Int)
  | name (text : String)
  | sign (text : String)
  /-- a character that is no part of any expression -/
  | other
  deriving DecidableEq, Repr

/-- Why an expression has no value. -/
inductive Fault where
  /-- a mistake in the expression -/
  | mistake (text : String)
  /-- the value of a variable is no number -/
  | noNumber (value : String)
  deriving DecidableEq, Repr

/-- The signs, longer ones first. -/
def signs : List String :=
  ["<<=", ">>=", "<<", ">>", "<=", ">=", "==", "!=", "&&", "||", "+=", "-=", "*=", "/=", "%=", "&=",
    "|=", "^=", "+", "-", "*", "/", "%", "<", ">", "(", ")", "!", "?", ":", "=", "&", "|", "^", "~"]

/-- The signs that give a variable a value. -/
def assigning : List String :=
  ["=", "+=", "-=", "*=", "/=", "%=", "<<=", ">>=", "&=", "|=", "^="]

/-- Reads the words of an expression; `n` bounds their number. -/
def tokensFrom : Nat → List Char → List Token
  | 0, _ => []
  | _, [] => []
  | n + 1, c :: rest =>
    if c == ' ' || c == '\t' || c == '\n' then tokensFrom n rest
    else if c.isDigit then
      match Number.magnitude? 0 (c :: rest) with
      | some (v, rest) => .number (Number.clamp v) :: tokensFrom n rest
      | none => [.other]
    else if c.isAlpha || c == '_' then
      let name := (c :: rest).takeWhile fun c => c.isAlphanum || c == '_'
      .name (String.ofList name) :: tokensFrom n ((c :: rest).drop name.length)
    else match signs.find? fun sign => sign.toList.isPrefixOf (c :: rest) with
      | some sign => .sign sign :: tokensFrom n ((c :: rest).drop sign.length)
      | none => [.other]

/-- An expression that is being worked out: the words that are left, and the variables that were
given values, latest first. -/
structure Sum where
  tokens : List Token
  bindings : List (String × Int) := []

/-- Works on an expression. -/
abbrev Worker := EStateM Fault Sum

/-- The rank of an operator that stands between two values; a higher one binds tighter. -/
def rank? (sign : String) : Option Nat :=
  [("|", 1), ("^", 2), ("&", 3), ("==", 4), ("!=", 4), ("<", 5), (">", 5), ("<=", 5), (">=", 5),
    ("<<", 6), (">>", 6), ("+", 7), ("-", 7), ("*", 8), ("/", 8), ("%", 8)].lookup sign

/-- The number that says whether something holds. -/
def ofBool (b : Bool) : Int := if b then 1 else 0

/-- What an operator makes of two values; nothing divides by zero. -/
def apply (sign : String) (a b : Int) : Except Fault Int :=
  match sign with
  | "==" => .ok (ofBool (a == b))
  | "!=" => .ok (ofBool (a != b))
  | "<" => .ok (ofBool (a < b))
  | ">" => .ok (ofBool (b < a))
  | "<=" => .ok (ofBool (a ≤ b))
  | ">=" => .ok (ofBool (b ≤ a))
  | "+" => .ok (Number.wrap (a + b))
  | "-" => .ok (Number.wrap (a - b))
  | "*" => .ok (Number.wrap (a * b))
  | "/" => if b = 0 then .error (.mistake "division by zero") else .ok (Number.wrap (a.tdiv b))
  | "%" => if b = 0 then .error (.mistake "division by zero") else .ok (a.tmod b)
  | "<<" => .ok (Number.shiftLeft a b)
  | ">>" => .ok (Number.shiftRight a b)
  | "&" => .ok (Number.bitwise Nat.land a b)
  | "|" => .ok (Number.bitwise Nat.lor a b)
  | "^" => .ok (Number.bitwise Nat.xor a b)
  | _ => .ok b

/-- Gives up. -/
def fail {α : Type} (text : String) : Worker α := throw (.mistake text)

/-- Takes a sign if it is the next word. -/
def takeSign (text : String) : Worker Bool := fun s =>
  match s.tokens with
  | .sign sign :: rest => if sign == text then .ok true { s with tokens := rest } else .ok false s
  | _ => .ok false s

/-- The result of an operator, unless the result does not matter. -/
def combine (live : Bool) (sign : String) (a b : Int) : Worker Int :=
  if live then
    match apply sign a b with
    | .ok v => pure v
    | .error e => throw e
  else pure b

variable (value : String → Except Fault Int)

/-- The value of a variable. -/
def valueOf (name : String) : Worker Int := do
  match (← get).bindings.lookup name with
  | some v => return v
  | none =>
    match value name with
    | .ok v => return v
    | .error e => throw e

mutual

/-- Reads an expression: an assignment or a choice. -/
def whole : Nat → Bool → Worker Int
  | 0, _ => fail "expecting primary"
  | n + 1, live => do
    match (← get).tokens with
    | .name name :: .sign sign :: rest =>
      if assigning.contains sign then
        modify fun s => { s with tokens := rest }
        let v ← whole n live
        if live then
          let v ← if sign == "=" then pure v
            else do
              let old ← valueOf value name
              combine true (String.ofList sign.toList.dropLast) old v
          modify fun s => { s with bindings := (name, v) :: s.bindings }
          return v
        else return v
      else choice n live
    | _ => choice n live

/-- Reads a value and perhaps the choice that it makes. -/
def choice : Nat → Bool → Worker Int
  | 0, _ => fail "expecting primary"
  | n + 1, live => do
    let a ← anyOf n live
    if ← takeSign "?" then
      let yes ← whole n (live && a != 0)
      if ← takeSign ":" then
        let no ← choice n (live && a == 0)
        return if a != 0 then yes else no
      else fail "expecting ':'"
    else return a

/-- Reads values joined by `||`. -/
def anyOf : Nat → Bool → Worker Int
  | 0, _ => fail "expecting primary"
  | n + 1, live => do
    let a ← allOf n live
    if ← takeSign "||" then
      let b ← anyOf n (live && a == 0)
      return ofBool (a != 0 || b != 0)
    else return a

/-- Reads values joined by `&&`. -/
def allOf : Nat → Bool → Worker Int
  | 0, _ => fail "expecting primary"
  | n + 1, live => do
    let a ← operand n live
    let a ← operators n live 1 a
    if ← takeSign "&&" then
      let b ← allOf n (live && a != 0)
      return ofBool (a != 0 && b != 0)
    else return a

/-- Reads on behind a value, operators of at least the given rank. -/
def operators : Nat → Bool → Nat → Int → Worker Int
  | 0, _, _, _ => fail "expecting primary"
  | n + 1, live, least, left => do
    match (← get).tokens with
    | .sign sign :: rest =>
      match rank? sign with
      | none => return left
      | some rank =>
        if rank < least then return left
        else
          modify fun s => { s with tokens := rest }
          let right ← operand n live
          let right ← operators n live (rank + 1) right
          let v ← combine live sign left right
          operators n live least v
    | _ => return left

/-- Reads a value: a number, a variable, something in parentheses, or one of these behind a sign. -/
def operand : Nat → Bool → Worker Int
  | 0, _ => fail "expecting primary"
  | n + 1, live => do
    match (← get).tokens with
    | .number v :: rest =>
      modify fun s => { s with tokens := rest }
      return v
    | .name name :: rest =>
      modify fun s => { s with tokens := rest }
      if live then valueOf value name else return 0
    | .sign "(" :: rest =>
      modify fun s => { s with tokens := rest }
      let v ← whole n live
      if ← takeSign ")" then return v else fail "expecting ')'"
    | .sign "-" :: rest =>
      modify fun s => { s with tokens := rest }
      return Number.wrap (-(← operand n live))
    | .sign "+" :: rest =>
      modify fun s => { s with tokens := rest }
      operand n live
    | .sign "!" :: rest =>
      modify fun s => { s with tokens := rest }
      return ofBool ((← operand n live) == 0)
    | .sign "~" :: rest =>
      modify fun s => { s with tokens := rest }
      return -(← operand n live) - 1
    | _ => fail "expecting primary"

end

/-- The value of an expression, and the variables that it gave values, also if it has none. -/
def evaluate (text : String) : Except Fault Int × List (String × Int) :=
  let tokens := tokensFrom text.length text.toList
  match (whole value (8 * tokens.length + 16) true).run { tokens } with
  | .ok v s =>
    (if s.tokens.isEmpty then .ok v else .error (.mistake "expecting EOF"), s.bindings.reverse)
  | .error e s => (.error e, s.bindings.reverse)

end Arithmetic

end Fleet.Shell

import Fleet.FileSystem.Operations
import Fleet.Shell.Number

namespace Fleet.Shell

/-! # Conditions

What `test` and `[` decide, about texts, numbers and files.  A word is an operator or an operand
depending on what stands behind it.
-/

namespace Condition

/-- Why a condition cannot be decided. -/
inductive Fault where
  | about (word text : String)
  | plain (text : String)
  | noNumber (word : String)
  deriving DecidableEq, Repr

/-- What a word is. -/
inductive Sign where
  | finished
  | operand
  | unary
  | binary
  | no
  | all
  | any
  | opened
  | closed
  deriving DecidableEq, Repr

/-- The operators that stand before one word. -/
def unarySigns : List String :=
  ["-r", "-w", "-x", "-e", "-f", "-d", "-c", "-b", "-p", "-u", "-g", "-k", "-s", "-t", "-z", "-n",
    "-h", "-O", "-G", "-L", "-S"]

/-- The operators that stand between two words. -/
def binarySigns : List String :=
  ["=", "!=", "<", ">", "-eq", "-ne", "-ge", "-gt", "-le", "-lt", "-nt", "-ot", "-ef"]

/-- The operator that a word may be. -/
def sign? (word : String) : Option Sign :=
  match word with
  | "!" => some .no
  | "-a" => some .all
  | "-o" => some .any
  | "(" => some .opened
  | ")" => some .closed
  | _ =>
    if unarySigns.contains word then some .unary
    else if binarySigns.contains word then some .binary
    else none

/-- What the first of the words is. -/
def sign : List String → Sign
  | [] => .finished
  | word :: rest =>
    match sign? word with
    | none => .operand
    | some .unary =>
      match rest with
      | [] => .operand
      | [_] => .unary
      | next :: _ :: _ => if sign? next = some .binary then .operand else .unary
    | some .opened => if rest.isEmpty then .operand else .opened
    | some s => s

/-- The entry that a path leads to. -/
def node? (fs : FileSystem) (word : String) : Option Node :=
  match fs.status ⟨word⟩ with
  | .ok (_, node) => some node
  | .error _ => none

/-- What is always there beside the files. -/
def devices : List String := ["/dev/null", "/dev/zero", "/dev/full", "/dev/random", "/dev/urandom"]

/-- A question about one word. -/
def unary (fs : FileSystem) (flag word : String) : Bool :=
  let found := node? fs word
  let isDevice := devices.contains word
  match flag with
  | "-n" => !word.isEmpty
  | "-z" => word.isEmpty
  | "-e" | "-r" | "-w" | "-O" | "-G" => found.isSome || isDevice
  | "-d" => found.any Node.isDirectory
  | "-f" => found.any fun
    | .file _ _ => true
    | _ => false
  | "-s" => found.any fun
    | .file content _ => content.size != 0
    | _ => true
  | "-x" => found.any fun
    | .file _ executable => executable
    | _ => true
  | "-L" | "-h" =>
    match fs.linkStatus ⟨word⟩ with
    | .ok (_, .link _) => true
    | _ => false
  | "-c" => isDevice
  | _ => false

/-- The number that a word is. -/
def number (word : String) : Except Fault Int :=
  match Number.ofText? 10 word with
  | some n => .ok n
  | none => .error (.noNumber word)

/-- A question about two words. -/
def binary (fs : FileSystem) (operator a b : String) : Except Fault Bool :=
  let compare (f : Int → Int → Bool) : Except Fault Bool := do
    let m ← number a
    let n ← number b
    return f m n
  match operator with
  | "=" | "==" => .ok (a == b)
  | "!=" => .ok (a != b)
  | "<" => .ok (a < b)
  | ">" => .ok (b < a)
  | "-eq" => compare fun m n => m == n
  | "-ne" => compare fun m n => m != n
  | "-ge" => compare fun m n => n ≤ m
  | "-gt" => compare fun m n => n < m
  | "-le" => compare fun m n => m ≤ n
  | "-lt" => compare fun m n => m < n
  -- no file is older than another one
  | "-nt" | "-ot" => .ok false
  | _ =>
    match fs.status ⟨a⟩, fs.status ⟨b⟩ with
    | .ok (m, _), .ok (n, _) => .ok (m == n)
    | _, _ => .ok false

/-- A condition that was read, and the words from its last one on. -/
abbrev Found := Except Fault (Bool × List String)

mutual

/-- Reads conditions joined by `-o`. -/
def anyOf (fs : FileSystem) : Nat → Sign → List String → Found
  | 0, _, words => .ok (false, words)
  | n + 1, first, words => do
    let (a, words) ← allOf fs n first words
    if sign words.tail = .any then
      let words := words.drop 2
      let (b, words) ← anyOf fs n (sign words) words
      return (a || b, words)
    else return (a, words)

/-- Reads conditions joined by `-a`. -/
def allOf (fs : FileSystem) : Nat → Sign → List String → Found
  | 0, _, words => .ok (false, words)
  | n + 1, first, words => do
    let (a, words) ← negated fs n first words
    if sign words.tail = .all then
      let words := words.drop 2
      let (b, words) ← allOf fs n (sign words) words
      return (a && b, words)
    else return (a, words)

/-- Reads a condition that may have `!` in front. -/
def negated (fs : FileSystem) : Nat → Sign → List String → Found
  | 0, _, words => .ok (false, words)
  | n + 1, first, words => do
    if first = .no then
      let next := sign words.tail
      let (a, words) ← negated fs n next (if next = .finished then words else words.tail)
      return (!a, words)
    else primary fs n first words

/-- Reads one question, or a condition between parentheses. -/
def primary (fs : FileSystem) : Nat → Sign → List String → Found
  | 0, _, words => .ok (false, words)
  | n + 1, first, words => do
    match first with
    | .finished => return (false, words)
    | .opened =>
      let inside := words.tail
      if sign inside = .closed then return (false, inside)
      else
        let (a, words) ← anyOf fs n (sign inside) inside
        if sign words.tail = .closed then return (a, words.tail)
        else throw (.plain "closing paren expected")
    | .unary =>
      match words with
      | flag :: word :: rest => return (unary fs flag word, word :: rest)
      | _ => throw (.about (words.headD "") "argument expected")
    | _ =>
      if sign words.tail = .binary then
        match words with
        | a :: operator :: b :: rest => return (← binary fs operator a b, b :: rest)
        | _ => throw (.about (words.tail.headD "") "argument expected")
      else return (!(words.headD "").isEmpty, words)

end

/-- Decides a condition; `n` bounds how often it begins with `!`. -/
def decideFrom (fs : FileSystem) : Nat → List String → Except Fault Bool
  | 0, _ => .ok false
  | n + 1, words =>
    let whole (first : Sign) (words : List String) : Except Fault Bool := do
      let (answer, left) ← anyOf fs (4 * words.length + 8) first words
      match left with
      | word :: _ :: _ => throw (.about word "unexpected operator")
      | _ => return answer
    match words with
    | [] => .ok false
    | [a, operator, b] =>
      if sign? operator = some .binary then whole .operand words
      else if a = "(" && b = ")" then whole (sign [operator]) [operator]
      else if a = "!" then (decideFrom fs n [operator, b]).map not
      else whole (sign words) words
    | [a, b, c, d] =>
      if a = "(" && d = ")" then whole (sign [b, c]) [b, c]
      else if a = "!" then (decideFrom fs n [b, c, d]).map not
      else whole (sign words) words
    | words => whole (sign words) words

/-- Decides a condition. -/
def decide (fs : FileSystem) (words : List String) : Except Fault Bool :=
  decideFrom fs (words.length + 1) words

end Condition

end Fleet.Shell

import Fleet.Shell.Calling
import Fleet.Shell.Expression

namespace Fleet.Shell

/-! # Questions and calculations

What an extended shell answers to questions about words, and what it works out as a command.
-/

namespace Runner

open Session Process

/-- Large and small letters are alike in what is compared. -/
def ignoresCase (s : State) : Bool := s.extended && s.customs.contains "nocasematch"

/-- A text matches a pattern whose word has been expanded. -/
def isLike (s : State) (grouping : Bool) (marks : List Mark) (text : String) : Bool :=
  let marked := Mark.textOf marks
  if ignoresCase s then
    (Shapes.read grouping (marked.map fun (c, q) => (c.toLower, q))).accepts text.toLower
  else (Shapes.read grouping marked).accepts text

/-- The text of a regular expression: a character that is quoted stands for itself. -/
def expressionOf (marks : List Mark) : List Char :=
  let isSign (c : Char) : Bool :=
    ['\\', '^', '$', '.', '[', ']', '|', '(', ')', '*', '+', '?', '\x7b', '\x7d'].contains c
  (Mark.textOf marks).flatMap fun (c, quoted) => if quoted && isSign c then ['\\', c] else [c]

/-- A text matches a regular expression: whether it does, and the status.  What is matched is put
into a list. -/
def search (text : String) (expression : List Char) : Act Nat := do
  let ignoreCase := ignoresCase (← getShell)
  match Expression.read { extended := true, ignoreCase } expression with
  | .error _ => return 2
  | .ok (r, groups) =>
    let cs := text.toList
    let found := r.firstAt? cs (Text.Place.all 0 none cs)
    let piece (start length : Nat) : String := String.ofList ((cs.drop start).take length)
    let values := match found with
      | none => []
      | some m => piece m.start m.length :: (List.range groups).map fun k =>
        match m.groups.lookup (k + 1) with
        | some (start, length) => piece start length
        | none => ""
    change fun s => s.putAs "BASH_REMATCH" (({ value := none } : Variable).withCells
      (.ofValues values))
    return if found.isSome then 0 else 1

/-- A pattern as it is shown: what is quoted has backslashes. -/
def shownPattern (marks : List Mark) : String :=
  String.ofList ((Mark.textOf marks).flatMap fun (c, quoted) => if quoted then ['\\', c] else [c])

/-- The status of an answer. -/
def statusOf (answer : Bool) : Nat := if answer then 0 else 1

/-- The status of an answer that may not be given. -/
def answered (answer : Except Deciding.Fault Bool) : Act Nat := do
  match answer with
  | .ok answer => return statusOf answer
  | .error text =>
    warn text
    return 2

/-- Answers a question about two words. -/
def between (r : Runner) (lead : String) (sign : String) (left right : Word) : Act Nat := do
  let a ← r.textOfWord .text left
  let marks ← r.expand .text right
  let b := plain (Mark.textOf marks)
  let isPattern := ["=", "==", "!="].contains sign
  let shown := if isPattern then shownPattern marks else b
  let shownOr (text : String) : String := if text.isEmpty then "''" else text
  r.traceHere ("[[ " ++ lead ++ shownOr a ++ " " ++ sign ++ " " ++ shownOr shown ++ " ]]")
  let s ← get
  match sign with
  | "=" | "==" => return statusOf (isLike s.shell true marks a)
  | "!=" => return statusOf (!isLike s.shell true marks a)
  | "=~" => search a (expressionOf marks)
  | "-eq" | "-ne" | "-lt" | "-le" | "-gt" | "-ge" =>
    let m ← workedOut a
    let n ← workedOut b
    answered (Deciding.binary s sign (toString m) (toString n))
  | sign => answered (Deciding.binary s sign a b)

/-- Answers a question about words: the status. -/
def answer (r : Runner) (lead : String) : Question → Act Nat
  | .holds word => do
    let text ← r.textOfWord .text word
    r.traceHere ("[[ " ++ lead ++ "-n " ++ (if text.isEmpty then "''" else text) ++ " ]]")
    return statusOf (!text.isEmpty)
  | .about sign word => do
    let text ← r.textOfWord .text word
    r.traceHere ("[[ " ++ lead ++ sign ++ " " ++ (if text.isEmpty then "''" else text) ++ " ]]")
    answered (Deciding.unary (← get) sign text)
  | .between sign left right => r.between lead sign left right
  | .no q => do return statusOf ((← answer r (lead ++ "! ") q) ≠ 0)
  | .both p q => do
    let status ← answer r lead p
    if status = 0 then answer r lead q else return status
  | .either p q => do
    let status ← answer r lead p
    if status = 0 then return status else answer r lead q

/-- Does something as a command of a name: its status, which is 1 if it is given up. -/
def asCommand (name : String) (body : Act Nat) : Act Nat := do
  let saved := (← getShell).command
  change fun s => { s with command := some name }
  let after (s : Session) : Session := { s with shell := { s.shell with command := saved } }
  fun s => match body s with
    | .ok status t => .ok status (after t)
    | .error .fault t => .ok 1 (after t)
    | .error h t => .error h (after t)

/-- Works out a formula as a command; nothing is 1. -/
def calculated (r : Runner) (empty : Int) (text : Word) : Act (Option Int) := do
  let text ← r.formula text
  if text.toList.all (· == ' ') then return some empty
  else
    r.traceHere ("(( " ++ text ++ " ))")
    let saved := (← getShell).command
    change fun s => { s with command := some "((" }
    let after (s : Session) : Session := { s with shell := { s.shell with command := saved } }
    fun s => match (workedOut text).run s with
      | .ok v t => .ok (some v) (after t)
      | .error .fault t => .ok none (after t)
      | .error h t => .error h (after t)

end Runner

end Fleet.Shell

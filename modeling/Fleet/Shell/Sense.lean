import Fleet.Shell.Alteration
import Fleet.Shell.Declaring
import Fleet.Shell.Expansion

namespace Fleet.Shell

/-! # What parameters stand for

A parameter of an extended shell is a variable, a place in a list or all values of a list; it may be
named by the value of another one.  A `Sense` is what it stands for before anything is made of it.
-/

/-- What a parameter stands for. -/
structure Sense where
  /-- how it is called in messages -/
  label : String
  /-- the values, each with its key -/
  entries : List (String × String) := []
  /-- all values of a list are meant; they may be joined -/
  all : Option Bool := none
  /-- the variable and the key of a place that can be given a value -/
  place : Option (String × Option String) := none

namespace Sense

open Session

/-- The values. -/
def values (m : Sense) : List String := m.entries.map (·.2)

/-- The value, or nothing. -/
def value (m : Sense) : String := m.values.headD ""

/-- There is no value, or none that counts. -/
def isMissing (m : Sense) (orEmpty : Bool) : Bool :=
  m.entries.isEmpty || (orEmpty && (" ".intercalate m.values).isEmpty)

/-- Cuts a text into a name and a key between brackets. -/
def cut (word : String) : String × Option String :=
  let name := word.toList.takeWhile (· != '[')
  match word.toList.drop name.length with
  | '[' :: rest =>
    if rest.getLast? == some ']' then (String.ofList name, some (String.ofList rest.dropLast))
    else (word, none)
  | _ => (word, none)

/-- The name is one that a parameter may have. -/
def isName (name : String) : Bool :=
  let cs := name.toList
  Word.isName cs || (!cs.isEmpty && cs.all Char.isDigit) ||
    ["@", "*", "#", "?", "-", "$", "!"].contains name

/-- What a place in a list stands for. -/
def ofPlace (name key : String) : Act Sense := do
  let label := name ++ "[" ++ key ++ "]"
  let v := ((← getShell).holding? name).getD { value := none }
  if key = "@" || key = "*" then return { label, entries := v.entries, all := some (key == "*") }
  else
    let (answer, shell) := Formula.key (← getShell) name key
    change fun _ => shell
    let place := some (name, some key)
    match answer with
    | .ok k => return { label, entries := (v.at? k).toList.map fun text => (k, text), place }
    | .error (.badKey _) =>
      warnPlainly (name ++ ": bad array subscript")
      return { label, place }
    | .error fault => refuseFormula fault

/-- What a name stands for. -/
def ofName (name : String) : Act Sense := do
  let s ← getShell
  if Expansion.isAll name then
    return {
      label := name
      entries := s.params.zipIdx.map fun (text, k) => (toString (k + 1), text)
      all := some (name == "*") }
  else
    let isVariable := Word.isName name.toList
    let entries := (s.parameter? name).toList.map fun text => ("0", text)
    return { label := name, entries, place := if isVariable then some (name, none) else none }

/-- What a name, with or without a key, stands for. -/
def of (name : String) (key : Option String) : Act Sense := do
  let s ← getShell
  let (name, key) := match key with
    | some key => (name, some key)
    | none => if Word.isName name.toList then cut (s.meant name) else (name, none)
  match key with
  | some key => ofPlace name key
  | none => ofName name

/-- What the value of a parameter names. -/
def named (m : Sense) : Act Sense := do
  let s ← getShell
  match m.place with
  | some (name, none) =>
    if ((s.store.lookup name).map (·.traits.contains 'n')).getD false then
      return { m with entries := [("0", s.meant name)] }
  | _ => pure ()
  match m.entries.head? with
  | none => failPlainly (m.label ++ ": invalid indirect expansion")
  | some (_, word) =>
    let (name, key) := cut word
    if isName name then of name key else failPlainly (word ++ ": invalid variable name")

/-- A parameter has to have a value if the option says so. -/
def check (m : Sense) : Act Unit := do
  if (← getShell).has 'u' && m.all.isNone && m.entries.isEmpty then
    unbound (if m.place.isSome then m.label else "$" ++ m.label)

/-- Ends the shell, because a parameter has no value. -/
def require {α : Type} (m : Sense) (text : String) : Act α := do
  warnPlainly (m.label ++ ": " ++ text)
  let s ← getShell
  done (if s.pid = s.root then 127 else 1)
  throw .exit

/-- Gives what a parameter stands for a value. -/
def assign (m : Sense) (text : String) : Act Unit :=
  match m.place with
  | some (name, none) => Session.assign name text
  | some (name, some key) => assignAt name key false text
  | none => failPlainly ("$" ++ m.label ++ ": cannot assign in this way")

/-- Values as they stand in a word. -/
def marks (m : Sense) (purpose : Purpose) (quoted : Bool) (values : List String) :
    Act (List Mark) := do
  let splits := purpose == .fields
  match m.all with
  | some joined => return Expansion.marksOfAll (← getShell) joined splits quoted values
  | none => return Expansion.marksOf splits quoted (values.headD "")

/-- How long the value is, or how many values there are. -/
def size (m : Sense) : Nat :=
  if m.all.isSome then m.entries.length else m.value.utf8ByteSize

/-- Some of the values, or of the characters of the value, from a number on; `none` if they would
end before they begin. -/
def slice? (s : State) (m : Sense) (start : Int) (count : Option Int) : Option (List String) :=
  if m.all.isNone then (Alteration.slice? m.value start count).map fun text => [text]
  else if count.any (· < 0) then none
  else
    let entries := if Expansion.isAll m.label then ("0", s.name) :: m.entries else m.entries
    let isNumbered := entries.all fun (k, _) => (Number.natural? k).isSome
    let placed := if isNumbered then
        entries.map fun (k, text) => ((Number.natural? k).getD 0, text)
      else entries.zipIdx.map fun ((_, text), k) => (k, text)
    some (Alteration.sliceOf placed start (count.map Int.toNat))

/-- What a letter tells of a parameter; `none` if there is no such letter. -/
def told? (s : State) (m : Sense) (letter : Char) : Option (List String) :=
  let name := (cut m.label).1
  let v := (s.holding? name).getD { value := none }
  let isVariable := Word.isName name.toList
  match letter, m.all with
  | 'a', _ => some (m.entries.map fun _ => Declaring.letters v)
  | 'A', some _ =>
    if m.entries.isEmpty then some []
    else if isVariable then some [Declaring.declaration name v]
    else some ["set -- " ++ " ".intercalate (m.values.map Quotation.reusable)]
  | 'A', none =>
    let letters := Declaring.letters v
    let lead := if letters.isEmpty then "" else "declare -" ++ letters ++ " "
    some (m.values.map fun text => lead ++ name ++ "=" ++ Quotation.reusable text)
  | 'K', some _ =>
    if m.entries.isEmpty || !isVariable then some (m.values.map Quotation.reusable)
    else some [" ".intercalate (m.entries.map fun (k, text) =>
      Declaring.keyText k ++ " " ++ Quotation.listed text)]
  | 'k', some _ =>
    if isVariable then some (m.entries.flatMap fun (k, text) => [k, text])
    else some (m.values.map Quotation.reusable)
  | _, _ =>
    if (Alteration.told? letter "").isSome then
      some (m.values.map fun text => (Alteration.told? letter text).getD text)
    else none

end Sense

end Fleet.Shell

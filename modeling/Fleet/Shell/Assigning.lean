import Fleet.Shell.Formula

namespace Fleet.Shell

/-! # Giving values

What happens when a variable, a place in a list or a whole list is given a value.  Variables that are
not to be changed refuse it; an extended shell works values out for variables that hold numbers, and
makes letters small or large for those that are to have such.
-/

namespace Session

/-- Ends the shell, because a variable has no value. -/
def unbound {α : Type} (name : String) : Act α := do
  warnPlainly (name ++ ": unbound variable")
  let s ← getShell
  done (if s.pid = s.root then 127 else 1)
  throw .exit

/-- Gives up because of a formula. -/
def refuseFormula {α : Type} (fault : Formula.Fault) : Act α :=
  match fault with
  | .unbound name => unbound name
  | .fixed _ => failPlainly fault.message
  | _ => fail fault.message 1

/-- Works out a formula. -/
def workedOut (text : String) : Act Int := do
  let (answer, shell) := Formula.evaluate (← getShell) text
  change fun _ => shell
  match answer with
  | .ok v => return v
  | .error fault => refuseFormula fault

/-- What a value becomes for a variable. -/
def shaped (v : Variable) (text : String) : Act String := do
  if v.traits.contains 'i' then return toString (← workedOut text)
  else if v.traits.contains 'l' then return String.ofList (text.toList.map Char.toLower)
  else if v.traits.contains 'u' then return String.ofList (text.toList.map Char.toUpper)
  else return text

/-- A variable, which must be one that may be changed. -/
def changeable (name : String) : Act Variable := do
  let s ← getShell
  match s.holding? name with
  | none => return { value := none }
  | some v =>
    if !v.readOnly then return v
    else if s.extended then failPlainly (name ++ ": readonly variable")
    else fail (name ++ ": is read only")

/-- Gives a variable a value, unless it is not to be changed. -/
def assign (name value : String) : Act Unit := do
  let v ← changeable name
  let value ← if (← getShell).extended then shaped v value else pure value
  change fun s => s.assigned name value

/-- What a value is with something added to it. -/
def added (v : Variable) (old : Option String) (text : String) : Act String := do
  if v.traits.contains 'i' then
    let a ← workedOut (old.getD "")
    let b ← workedOut text
    return toString (Number.wrap (a + b))
  else shaped v (old.getD "" ++ text)

/-- Adds something to the value of a variable. -/
def assignMore (name text : String) : Act Unit := do
  let v ← changeable name
  let value ← added v v.value text
  change fun s => s.assigned name value

/-- The key that a text between brackets stands for. -/
def keyOf (name text : String) : Act String := do
  let (answer, shell) := Formula.key (← getShell) name text
  change fun _ => shell
  match answer with
  | .ok key => return key
  | .error (.badKey _) => fail (name ++ "[" ++ text ++ "]: bad array subscript") 1
  | .error fault => refuseFormula fault

/-- The values of a variable as a list. -/
def cellsOf (v : Variable) : Cells := v.cells.getD (.ofValues v.value.toList)

/-- Gives a place in a list a value, or adds to the one it has. -/
def assignAt (name key : String) (adds : Bool) (text : String) : Act Unit := do
  if (Text.encode key).all (· == 32) then
    fail (name ++ "[" ++ key ++ "]: bad array subscript") 1
  else
    let v ← changeable name
    let key ← keyOf name key
    let cells := cellsOf v
    let value ← if adds then added v (cells.get? key) text else shaped v text
    change fun s => s.put name { v.withCells (cells.put key value) with
      exported := v.exported || s.has 'a' }

/-- Gives a list values, or adds them to those that it has. -/
def assignList (name : String) (adds : Bool) (items : List Item) : Act Unit := do
  let v ← changeable name
  let old := cellsOf v
  let empty : Cells := if v.isNamed then .named [] else .numbered []
  change fun s => s.put name (v.withCells (if adds then old else empty))
  if v.isNamed && items.head?.any (·.key.isNone) then pairs items
  else
    let _ ← items.foldlM (fun next item => do
      let place := item.key.getD (toString next)
      let place ← if v.isNamed then pure place else keyOf name place
      assignAt name place item.adds item.text
      return (Number.natural? place).getD next + 1) (if adds then old.next else 0)
where
  /-- Takes items as keys and values in turn. -/
  pairs : List Item → Act Unit
    | [] => return
    | [key] => assignAt name key.text false ""
    | key :: value :: rest => do
      assignAt name key.text false value.text
      pairs rest

end Session

end Fleet.Shell

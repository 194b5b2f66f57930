namespace Fleet.CommandLine

/-! # Switches

How the words of a command line are read.  A switch has a long name and perhaps a letter; it stands
alone or takes a value, which is the next word or behind an equals sign in the same one.  A switch
is given at most once, a value that is a word of its own does not begin with `-`, and what stands
behind `--` is never read as a switch.
-/

/-- What a switch does. -/
inductive Kind where
  /-- it is given or not -/
  | flag
  /-- it takes a value; only some may be empty -/
  | value (mayBeEmpty : Bool)
  | help
  | version
  deriving DecidableEq, Repr

/-- A switch. -/
structure Switch where
  long : String
  letter : Option Char := none
  kind : Kind
  deriving DecidableEq, Repr

/-- Why reading stops before its end. -/
inductive Stop where
  | help
  | version
  /-- the words are no command line -/
  | misuse
  deriving DecidableEq, Repr

/-- What may stand on a command line. -/
structure Grammar where
  switches : List Switch
  /-- words that begin a command line of their own -/
  commands : List String := []
  /-- words may stand behind `--` -/
  takesOperands : Bool := false

/-- The switches that were given, latest first, with their values. -/
abbrev Given := List (Switch × String)

namespace Given

/-- One more switch is given. -/
def add (given : Given) (s : Switch) (value : String) : Except Stop Given :=
  if given.any fun (other, _) => other.long == s.long then .error .misuse
  else if s.kind = .value false && value.isEmpty then .error .misuse
  else .ok ((s, value) :: given)

/-- The value of a switch. -/
def value? (given : Given) (long : String) : Option String :=
  (given.find? fun (s, _) => s.long == long).map (·.2)

/-- The switch is given. -/
def has (given : Given) (long : String) : Bool := (given.value? long).isSome

end Given

/-- A switch that waits: for its value, or to be added with the value that it got.  It is added when
the next switch is read, or at the end. -/
inductive Waiting where
  | nothing
  | forValue (s : Switch)
  | withValue (s : Switch) (value : String)
  deriving DecidableEq, Repr

/-- Adds the switch that waits. -/
def Waiting.settle (w : Waiting) (given : Given) : Except Stop Given :=
  match w with
  | nothing => .ok given
  | forValue _ => .error .misuse
  | withValue s value => given.add s value

/-- What was read of a command line: the switches, the words behind `--`, and the rest behind a
word that begins a command line of its own. -/
structure Reading where
  given : Given
  waiting : Waiting := .nothing
  operands : List String := []
  command : Option (String × List String) := none

/-- Reads a switch that stands alone. -/
def single (s : Switch) (given : Given) : Except Stop Given :=
  match s.kind with
  | .help => .error .help
  | .version => .error .version
  | _ => given.add s ""

/-- Drops an equals sign from the start. -/
def dropEquals : List Char → List Char × Bool
  | '=' :: rest => (rest, true)
  | rest => (rest, false)

/-- Reads a word of letters. -/
def letters (g : Grammar) (given : Given) : List Char → Except Stop (Given × Waiting)
  | [] => .ok (given, .nothing)
  | c :: rest =>
    match g.switches.find? fun s => s.letter == some c with
    | none => .error .misuse
    | some s =>
      match s.kind with
      | .value _ =>
        if rest.isEmpty then .ok (given, .forValue s)
        else do return (← given.add s (String.ofList (dropEquals rest).1), .nothing)
      | _ => do letters g (← single s given) rest

/-- Reads a long name, and the value behind it if there is one. -/
def long (g : Grammar) (w : Waiting) (given : Given) (word : List Char) :
    Except Stop (Given × Waiting) :=
  let name := String.ofList (word.takeWhile (· != '='))
  let (value, hasValue) := dropEquals (word.dropWhile (· != '='))
  match g.switches.find? fun s => s.long == name with
  | none => .error .misuse
  | some s =>
    match s.kind with
    | .value _ => do
      let given ← w.settle given
      if hasValue then return (← given.add s (String.ofList value), .nothing)
      else return (given, .forValue s)
    | _ =>
      if hasValue then .error .misuse
      else do return (← single s (← w.settle given), .nothing)

/-- Reads words, up to one that begins a command line of its own. -/
def read (g : Grammar) : Waiting → Given → List String → Except Stop Reading
  | waiting, given, [] => .ok { given, waiting }
  | waiting, given, word :: rest =>
    let isValue := match waiting with
      | .forValue _ => true
      | _ => false
    -- a switch that waits for a value takes any word as it, the name of an order too
    if !isValue && g.commands.contains word then
      .ok { given, waiting, command := some (word, rest) }
    else match word.toList with
      | ['-', '-'] =>
        if isValue then .error .misuse
        else if g.takesOperands || rest.isEmpty then .ok { given, waiting, operands := rest }
        else .error .misuse
      | '-' :: '-' :: name => do
        let (given, waiting) ← long g waiting given name
        read g waiting given rest
      | '-' :: c :: cs => do
        let given ← waiting.settle given
        let (given, waiting) ← letters g given (c :: cs)
        read g waiting given rest
      | _ =>
        match waiting with
        | .forValue s => read g (.withValue s word) given rest
        | _ => .error .misuse

end Fleet.CommandLine

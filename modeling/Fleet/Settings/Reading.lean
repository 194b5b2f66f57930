import Fleet.Settings.Scalar
import Fleet.Text.Blank
import Fleet.Text.Lines

namespace Fleet.Settings

/-! # Reading settings

A settings file is a YAML mapping from names of settings to scalars, and every scalar is taken as
the text that it is.  The document is read from its beginning: what a part of it says is found at
fault before what comes after that part is looked at, be it ever so badly written.

`parse` is the whole reader.  A text in which every line is blank or begins with `#` gives the
defaults at once.
-/

open Yaml (Document Placed Item Mark)

/-- The fault of an item where `expected` should stand. -/
def faultOf (item : Item) (expected : String) : Fault :=
  match item with
  | .scalar tag text style => faultOfScalar tag text style expected
  | .mapping => .wrongKind .mapping expected
  | _ => .wrongKind .sequence expected

/-- What is expected as the value of a setting. -/
def Field.expected : Field → String
  | .cloneHost => "a string"
  | _ => "path string"

/-- The value that a scalar gives to a setting.  Only the directory of results may be missing: a
plain scalar without a tag that says nothing gives none, and one that is tagged as nothing has to be
a way to write it. -/
def Field.value (field : Field) (tag : Option String) (text : String) (style : Yaml.Style) :
    Except Fault (Option String) :=
  if field = .resultsDir && style = .plain then
    match tag with
    | none => .ok (if text.isEmpty || isNull text then none else some text)
    | some t =>
      if t = standardTag "null" then
        if isNull text then .ok none else .error (.wrongValue text "null")
      else .ok (some text)
  else .ok (some text)

/-- The settings that were given, latest first. -/
abbrev Given := List (Field × Option String)

/-- Reads a key.  Gives the setting, and how the key is called in an error about its value. -/
def readKey (d : Document) (key : Placed) : Except FileError (Field × String) :=
  let node := d.resolve key
  match node.item with
  | .scalar _ text _ =>
    match Field.ofName? text with
    | some field => .ok (field, match key.item with | .alias _ => "?" | _ => text)
    | none => .error (.content (.unknownField text) none node.mark)
  | item => .error (.content (faultOf item "field identifier") none node.mark)

/-- Reads the value of a setting in the mapping that begins at `start`. -/
def readValue (d : Document) (start : Mark) (field : Field) (called : String) (value : Placed) :
    Except FileError (Option String) :=
  let node := d.resolve value
  match node.item with
  | .scalar tag text style =>
    (field.value tag text style).mapError fun fault => .content fault none start
  | item => .error (.content (faultOf item field.expected) (some called) node.mark)

/-- Reads keys and values up to the end of the mapping that begins at `start`. -/
def readFields (d : Document) (start : Mark) (cut : Yaml.Flaw) :
    Given → List Placed → Except FileError Given
  | given, ⟨.stop, _⟩ :: _ => .ok given
  | given, key :: rest => do
    let (field, called) ← readKey d key
    if (given.lookup field).isSome then .error (.content (.duplicateField field) none start)
    else match rest with
      | [] => .error (.malformed cut)
      | value :: rest =>
        let v ← readValue d start field called value
        readFields d start cut ((field, v) :: given) rest
  | _, [] => .error (.malformed cut)

/-- The settings that a document gives. -/
def readDocument (d : Document) : Except FileError Given := do
  let given ← match d.items with
    | [] =>
      match d.flaw with
      | some flaw => .error (.malformed flaw)
      | none => .ok []
    | first :: rest =>
      match first.item with
      | .mapping => readFields d first.mark (d.flaw.getD .unexpectedToken) [] rest
      | .scalar _ "" .plain => .ok []
      | item => .error (.content (faultOf item "struct Settings") none first.mark)
  match d.flaw with
  | some flaw => .error (.malformed flaw)
  | none => return given

/-- The defaults, with the settings that were given in their place. -/
def ofGiven (given : Given) : Settings :=
  given.foldr (fun (field, value) s => s.give field value) {}

/-- A line that holds no key: a blank one or a comment. -/
def isIdleLine (line : List Char) : Bool :=
  match Text.trim line with
  | [] => true
  | c :: _ => c == '#'

/-- Reads the text of a settings file. -/
def parse (text : String) : Except FileError Settings :=
  if (Text.lines text.toList).all isIdleLine then .ok {}
  else return ofGiven (← readDocument (Document.ofText text.toList))

end Fleet.Settings

import Fleet.Yaml.Flaw
import Fleet.Yaml.Character
import Fleet.Settings.Basic
import Fleet.Text.Escaped

namespace Fleet.Settings

/-! # Errors of a settings file

A settings file is at fault either because it is not a YAML document, or because of what it says.
An error of the second kind tells where the fault is: the setting, if it is in the value of one,
and the place in the file.
-/

/-- What was found where something else was expected. -/
inductive Found where
  | sequence
  | mapping
  | null
  | boolean (value : Bool)
  /-- a whole number, by its digits -/
  | integer (digits : String)
  /-- a whole number of more than 64 bits, and the kind of number that it is -/
  | wide (digits kind : String)
  /-- a number with a point or an exponent, by its digits -/
  | fraction (digits : String)
  | text (value : String)
  deriving DecidableEq, Repr

/-- How the thing that was found is named. -/
def Found.description : Found → String
  | sequence => "sequence"
  | mapping => "map"
  | null => "unit value"
  | boolean true => "boolean \x60true\x60"
  | boolean false => "boolean \x60false\x60"
  | integer digits => "integer \x60" ++ digits ++ "\x60"
  | wide digits kind => "integer \x60" ++ digits ++ "\x60 as " ++ kind
  | fraction digits => "floating point \x60" ++ digits ++ "\x60"
  | text value => "string " ++ Text.showQuoted false value

/-- What is wrong with what the file says. -/
inductive Fault where
  /-- a key that names no setting -/
  | unknownField (name : String)
  /-- a setting that was given before -/
  | duplicateField (field : Field)
  /-- the wrong kind of thing -/
  | wrongKind (found : Found) (expected : String)
  /-- a scalar whose tag does not fit it -/
  | wrongValue (value expected : String)
  deriving DecidableEq, Repr

/-- The text of a fault. -/
def Fault.text : Fault → String
  | unknownField name =>
    "unknown field \x60" ++ name ++ "\x60, expected one of " ++
      ", ".intercalate (Field.all.map fun f => "\x60" ++ f.name ++ "\x60")
  | duplicateField field => "duplicate field \x60" ++ field.name ++ "\x60"
  | wrongKind found expected => "invalid type: " ++ found.description ++ ", expected " ++ expected
  | wrongValue value expected =>
    "invalid value: string " ++ Text.showQuoted false value ++ ", expected " ++ expected

/-- Why a settings file cannot be read. -/
inductive FileError where
  /-- it is not a YAML document -/
  | malformed (flaw : Yaml.Flaw)
  /-- what it says is wrong; `within` is the key whose value is at fault -/
  | content (fault : Fault) (within : Option String) (mark : Yaml.Mark)
  deriving DecidableEq, Repr

/-- The place of a fault, unless it is where the file begins. -/
def place (mark : Yaml.Mark) : String :=
  if mark.line = 0 && mark.column = 0 then ""
  else " at line " ++ toString (mark.line + 1) ++ " column " ++ toString (mark.column + 1)

/-- The text of an error. -/
def FileError.message : FileError → String
  | malformed _ => "malformed document"
  | content fault within mark =>
    (match within with
      | some key => key ++ ": "
      | none => "") ++ fault.text ++ place mark

end Fleet.Settings

import Fleet.Settings.Error
import Fleet.Decimal
import Fleet.Yaml.Document

namespace Fleet.Settings

/-! # What a scalar is

A scalar that stands where the settings themselves should stand is told by the kind of thing that
it would be: nothing, a truth value, a number or a text.
-/

/-- The ways to write nothing. -/
def isNull (text : String) : Bool := ["~", "null", "Null", "NULL"].contains text

/-- The truth values. -/
def boolean? (text : String) : Option Bool :=
  if ["true", "True", "TRUE"].contains text then some true
  else if ["false", "False", "FALSE"].contains text then some false
  else none

/-- The value of a digit in a base of up to sixteen. -/
def digit? (base : Nat) (c : Char) : Option Nat :=
  (Yaml.hexDigit? c).bind fun d => if d < base then some d else none

/-- The value of one or more digits. -/
def natural? (base : Nat) (cs : List Char) : Option Nat :=
  if cs.isEmpty then none
  else cs.foldlM (fun n c => (digit? base c).map (n * base + ·)) 0

/-- More than one digit with a zero in front: a text, not a number. -/
def isPadded (cs : List Char) : Bool :=
  let digits := match cs with
    | '-' :: rest => rest
    | '+' :: rest => rest
    | rest => rest
  1 < digits.length && digits.head? == some '0' && digits.all Char.isDigit

/-- A base and the digits behind its sign. -/
def based? : List Char → Option (Nat × List Char)
  | '0' :: 'x' :: rest => some (16, rest)
  | '0' :: 'o' :: rest => some (8, rest)
  | '0' :: 'b' :: rest => some (2, rest)
  | _ => none

/-- The magnitude of a whole number behind its sign. -/
def magnitude? (cs : List Char) : Option Nat :=
  (based? cs).bind (fun (base, digits) => natural? base digits) <|> natural? 10 cs

/-- A whole number of at most 128 bits. -/
def integer? (text : String) : Option Found :=
  let cs := text.toList
  if isPadded cs then none
  else match cs with
    | '-' :: rest =>
      (magnitude? rest).bind fun n =>
        if n ≤ Nat.pow 2 63 then some (.integer (toString (-(n : Int))))
        else if n ≤ Nat.pow 2 127 then some (.wide (toString (-(n : Int))) "i128")
        else none
    | _ =>
      let rest := if cs.head? == some '+' then cs.drop 1 else cs
      (magnitude? rest).bind fun n =>
        if n < Nat.pow 2 64 then some (.integer (toString n))
        else if n < Nat.pow 2 128 then some (.wide (toString n) "u128")
        else none

/-- A number with a point or an exponent. -/
def fraction? (text : String) : Option Found :=
  let unsigned := if text.toList.head? == some '+' then String.ofList (text.toList.drop 1) else text
  if text.toList.take 2 == ['+', '-'] || text.toList.take 2 == ['+', '+'] then none
  else if [".inf", ".Inf", ".INF"].contains unsigned then some (.fraction "inf")
  else if ["-.inf", "-.Inf", "-.INF"].contains text then some (.fraction "-inf")
  else if [".nan", ".NaN", ".NAN"].contains text then some (.fraction "NaN")
  else ((Decimal.parse? unsigned.toList).bind (·.toFloat?)).map fun x =>
    .fraction (Decimal.ofFloat x)

/-- What a plain scalar without a tag is. -/
def Found.ofPlain (text : String) : Found :=
  if text.isEmpty || isNull text then .null
  else match boolean? text with
    | some b => .boolean b
    | none =>
      match integer? text with
      | some found => found
      | none => if isPadded text.toList then .text text else (fraction? text).getD (.text text)

/-- The full form of a standard tag. -/
def standardTag (name : String) : String := "tag:yaml.org,2002:" ++ name

/-- The fault of a scalar where `expected` should stand. -/
def faultOfScalar (tag : Option String) (text : String) (style : Yaml.Style) (expected : String) :
    Fault :=
  let as (found : Option Found) (kind : String) : Fault :=
    match found with
    | some f => .wrongKind f expected
    | none => .wrongValue text kind
  match tag with
  | some t =>
    if t = standardTag "bool" then as ((boolean? text).map .boolean) "a boolean"
    else if t = standardTag "int" then as (integer? text) "an integer"
    else if t = standardTag "float" then as (fraction? text) "a float"
    else if t = standardTag "null" then as (if isNull text then some .null else none) "null"
    else if t.toList.head? == some '!' && style = .plain then .wrongKind (.ofPlain text) expected
    else .wrongKind (.text text) expected
  | none => .wrongKind (if style = .plain then .ofPlain text else .text text) expected

end Fleet.Settings

import Fleet.Calendar.Reading
import Fleet.Shell.Bytes
import Fleet.Shell.Invocation

namespace Fleet.Shell

/-! # Points in time

The program `date`, which writes points in time that it is told.  No program here can look at a
clock: all of them are told the same moment when they ask for the time.
-/

namespace DateUtility

open Calendar

/-- The place that a variable describes: the name of its time, and how far clocks are behind. -/
def zoneOf (text : String) : Zone :=
  let cs := match text.toList with
    | ':' :: rest => rest
    | cs => cs
  let (name, rest) := match cs with
    | '<' :: more =>
      let name := more.takeWhile (· != '>')
      (name, more.drop (name.length + 1))
    | _ =>
      let name := cs.takeWhile isLetter
      (name, cs.drop name.length)
  let (sign, rest) : Int × List Char := match rest with
    | '-' :: rest => (1, rest)
    | '+' :: rest => (-1, rest)
    | rest => (-1, rest)
  let parts := (Text.splitOn ':' rest).map fun digits => Number.natural? (String.ofList digits)
  let name := if name.length < 3 then "UTC" else String.ofList name
  match parts with
  | [some h] => { ahead := sign * (h * 3600 : Nat), name }
  | [some h, some m] => { ahead := sign * (h * 3600 + m * 60 : Nat), name }
  | [some h, some m, some s] => { ahead := sign * (h * 3600 + m * 60 + s : Nat), name }
  | _ => { name }

/-- How a point in time is written if nothing else is asked for. -/
def usual : String := "%a %b %e %H:%M:%S %Z %Y"

/-- The words for how exact a point in time is written, and the times of day for them. -/
def exactness : List (String × String) :=
  [("hours", "%H"), ("minutes", "%H:%M"), ("date", ""), ("seconds", "%H:%M:%S"),
    ("ns", "%H:%M:%S")]

/-- A word out of several, or the beginning of one of them that no other has. -/
def chosen? (word : String) (among : List String) : Option String :=
  if among.contains word then some word
  else match among.filter fun w => word.toList.isPrefixOf w.toList with
    | [w] => some w
    | _ => none

/-- The complaint about a word that is none of several. -/
def unfit (i : Invocation) (word option : String) (among : List String) : Ended :=
  let what := if among.any fun w => word.toList.isPrefixOf w.toList then "ambiguous" else "invalid"
  { i.ends 1 with output := [
      i.complaint (what ++ " argument " ++ Options.quoted word ++ " for " ++ Options.quoted option),
      (true, Text.encode ("Valid arguments are:\n" ++
        String.join (among.map fun w => "  - " ++ Options.quoted w ++ "\n"))), i.hint] }

/-- The form for an option that sets it. -/
def formOf (i : Invocation) (c : Char) (value : String) : Except Ended String :=
  match c with
  | 'R' => .ok "%a, %d %b %Y %H:%M:%S %z"
  | 'I' =>
    match chosen? (if value.isEmpty then "date" else value) (exactness.map (·.1)) with
    | none => .error (unfit i value "--iso-8601" (exactness.map (·.1)))
    | some "date" => .ok "%Y-%m-%d"
    | some word => .ok ("%Y-%m-%dT" ++ (exactness.lookup word).getD "" ++
        (if word = "ns" then ",%N" else "") ++ "%:z")
  | _ =>
    let words := (exactness.map (·.1)).drop 2
    match chosen? value words with
    | none => .error (unfit i value "--rfc-3339" words)
    | some "date" => .ok "%Y-%m-%d"
    | some word => .ok ("%Y-%m-%d %H:%M:%S" ++ (if word = "ns" then ".%N" else "") ++ "%:z")

/-- A form in which billionths of a second without filling are written in full. -/
def inFull : List Char → List Char
  | '%' :: '-' :: 'N' :: rest => '%' :: '9' :: 'N' :: inFull rest
  | '%' :: '%' :: rest => '%' :: '%' :: inFull rest
  | c :: rest => c :: inFull rest
  | [] => []

/-- The line for a point in time. -/
def line (i : Invocation) (z : Zone) (form : String) (t : Moment) : Bool × List UInt8 :=
  if maxYear < (Date.ofNumber (t.day z.ahead)).year ||
      (Date.ofNumber (t.day z.ahead)).year < 1900 - 2147483648 then
    i.complaint ("time " ++ Options.quoted (toString t.seconds) ++ " is out of range")
  else (false, Text.encode (write z t form ++ "\n"))

/-- The lines for points in time that are told as texts. -/
def lines (i : Invocation) (z : Zone) (form : String) (texts : List String) : Ended :=
  let found := texts.map fun text => (text, read? z .now text)
  let output := found.map fun (text, t) => match t with
    | some t => line i z form t
    | none => i.complaint ("invalid date " ++ Options.quoted text)
  { i.ends (if output.any (·.1) then 1 else 0) with output }

/-- The options of `date`. -/
def knowledge : Knowledge where
  alone := "RuDz"
  valued := "dfrs3"
  optional := "I"
  long := [("date", 'd'), ("debug", 'D'), ("file", 'f'), ("iso-8601", 'I'), ("reference", 'r'),
    ("resolution", 'z'), ("rfc-email", 'R'), ("rfc-822", 'R'), ("rfc-2822", 'R'),
    ("rfc-3339", '3'), ("set", 's'), ("uct", 'u'), ("utc", 'u'), ("universal", 'u')]

/-- The program `date`. -/
def run (i : Invocation) : Ended :=
  i.withOptions knowledge fun o =>
    let z := if o.has 'u' then {} else zoneOf ((i.env.lookup "TZ").getD "")
    let forms := o.given.filter fun (c, _) => ['R', 'I', '3'].contains c
    let told := (['d', 'f', 'r', 'z'].filter o.has).length
    let tooMany := i.complained "multiple output formats specified"
    match forms.mapM fun (c, value) => formOf i c value with
    | .error e => e
    | .ok forms =>
      if 1 < forms.length then tooMany
      else if 1 < told then
        i.misused "the options to specify dates for printing are mutually exclusive"
      else if 0 < told && o.has 's' then
        i.misused "the options to print and set the time may not be used together"
      else match o.words with
        | _ :: extra :: _ => i.misused ("extra operand " ++ Options.quoted extra)
        | words =>
          let isForm (word : String) : Bool := word.toList.head? == some '+'
          let asked := (words.filter isForm).map fun word =>
            String.ofList (inFull (word.toList.drop 1))
          let form := ((forms ++ asked).head?).getD usual
          match words.find? fun word => !isForm word, told with
          | some word, 0 =>
            if o.has 's' then
              i.misused ("the argument " ++ Options.quoted word ++ " lacks a leading '+';\n" ++
                "when using an option to specify date(s), any non-option\n" ++
                "argument must be a format string beginning with '+'")
            else i.complained ("invalid date " ++ Options.quoted word)
          | some word, _ =>
            i.misused ("the argument " ++ Options.quoted word ++ " lacks a leading '+';\n" ++
              "when using an option to specify date(s), any non-option\n" ++
              "argument must be a format string beginning with '+'")
          | none, _ =>
            if 1 < (forms ++ asked).length then tooMany
            else match o.value? 'd', o.value? 'f', o.value? 'r', o.value? 's' with
              | some text, _, _, _ => lines i z form [text]
              | _, some name, _, _ =>
                match i.content name with
                | .error e => { i.ends 1 with output := [i.unread name e] }
                | .ok bytes =>
                  { lines i z form ((Bytes.lines (Bytes.chars bytes)).map Bytes.widen) with
                    taken := i.takenBy [name] }
              | _, _, some name, _ =>
                match i.files.status ⟨name⟩ with
                | .error e => { i.ends 1 with output := [i.unread name e] }
                | .ok _ => { i.ends 0 with output := [line i z form .now] }
              | _, _, _, some text =>
                let e := lines i z form [text]
                if e.output.any (·.1) then e
                else { e with
                  output := i.complaint "cannot set date: Operation not permitted" :: e.output
                  status := .exited 1 }
              | _, _, _, _ =>
                if o.has 'z' then lines i z "%s.%N" ["@0.000000001"]
                else { i.ends 0 with output := [line i z form .now] }

end DateUtility

end Fleet.Shell

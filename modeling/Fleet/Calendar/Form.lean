import Fleet.Calendar.Date

namespace Fleet.Calendar

/-! # Writing points in time

A form says how a point in time is written: a percent sign, marks that say how the space is filled,
a width, and a letter that names what is written there.
-/

/-- A place on earth, as far as its clocks go: how many seconds they are ahead, and what their time
is called. -/
structure Zone where
  ahead : Int := 0
  name : String := "UTC"
  deriving DecidableEq, Repr

/-- What stands between a percent sign and its letter. -/
structure Marks where
  /-- how space is filled: `_` with blanks, `0` and `+` with zeros, `-` not at all -/
  filling : Option Char := none
  upper : Bool := false
  swapped : Bool := false
  width : Option Nat := none
  deriving DecidableEq, Repr

namespace Marks

/-- A text in a space that is at least as wide as asked for. -/
def text (m : Marks) (s : String) : String :=
  let filled := match m.filling with
    | some '-' => 0
    | _ => m.width.getD 0 - s.length
  let c := if m.filling = some '0' || m.filling = some '+' then '0' else ' '
  String.ofList (List.replicate filled c) ++ if m.upper then s.toUpper else s

/-- A number of at least so many digits, with a sign in front if it is to have one. -/
def signed (m : Marks) (digits : Nat) (sign : Option Char) (number : String) : String :=
  let sign := String.ofList sign.toList
  let missing := m.width.getD digits - sign.length - number.length
  match m.filling with
  | some '-' => sign ++ number
  | some '_' => String.ofList (List.replicate missing ' ') ++ sign ++ number
  | _ => sign ++ String.ofList (List.replicate missing '0') ++ number

/-- A number of at least so many digits. -/
def number (m : Marks) (digits : Nat) (n : Int) : String :=
  m.signed digits (if n < 0 then some '-' else none) (toString n.natAbs)

/-- A number that is filled with blanks if nothing else is asked for. -/
def spaced (m : Marks) (digits : Nat) (n : Int) : String :=
  { m with filling := m.filling <|> some '_' }.number digits n

/-- A number of years.  If signs are asked for, one is written for a number that is longer than
usual or than the space for it. -/
def years (m : Marks) (digits : Nat) (isNegative : Bool) (n : Nat) (inherited : Option Char) :
    String :=
  let m := { m with filling := m.filling <|> inherited }
  let isLong := (if digits = 2 then 99 else 9999) < n || digits < m.width.getD 0
  m.signed digits
    (if isNegative then some '-' else if m.filling = some '+' && isLong then some '+' else none)
    (toString n)

/-- How far clocks are ahead, with so many colons in it. -/
def ahead (m : Marks) (colons : Nat) (seconds : Int) : Option String :=
  let two (n : Nat) : String := toString (n / 10) ++ toString (n % 10)
  let total := seconds.natAbs
  let (h, min, s) := (total / 3600, total / 60 % 60, total % 60)
  let sign := if seconds < 0 then '-' else '+'
  let written (digits : Nat) (text : String) : Option String :=
    some (m.signed digits (some sign) text)
  match colons with
  | 0 => written 5 (toString (h * 100 + min))
  | 1 => written 6 (two h ++ ":" ++ two min)
  | 2 => written 9 (two h ++ ":" ++ two min ++ ":" ++ two s)
  | 3 =>
    if s != 0 then written 9 (two h ++ ":" ++ two min ++ ":" ++ two s)
    else if min != 0 then written 6 (two h ++ ":" ++ two min)
    else written 3 (toString h)
  | _ => none

/-- Billionths of a second: so many digits of them as the space has, with the zeros at the end
written as filling. -/
def billionths (m : Marks) (n : Nat) : String :=
  let width := match m.width with
    | some w => if w = 0 then 9 else w
    | none => 9
  let digits := (toString (1000000000 + n)).toList.drop 1
  let kept := ((digits.take width).reverse.dropWhile (· == '0')).reverse
  let kept := if kept.isEmpty then ['0'] else kept
  let fill := match m.filling with
    | some '-' => 0
    | _ => width - kept.length
  String.ofList (kept ++ List.replicate fill (if m.filling = some '_' then ' ' else '0'))

end Marks

/-- What is written in parts, each with its own letter. -/
def parts? : Char → Option String
  | 'c' => some "%a %b %e %H:%M:%S %Y"
  | 'D' | 'x' => some "%m/%d/%y"
  | 'F' => some "%Y-%m-%d"
  | 'r' => some "%I:%M:%S %p"
  | 'R' => some "%H:%M"
  | 'T' | 'X' => some "%H:%M:%S"
  | _ => none

/-- Writes what a letter names, if it is written in one part.  `inherited` is how years are filled
if nothing else is asked for. -/
def simple (z : Zone) (t : Moment) (m : Marks) (inherited : Option Char) (c : Char) :
    Option String :=
  let n := t.day z.ahead
  let date := Date.ofNumber n
  let weekday := Date.weekday n
  let inDay := t.inDay z.ahead
  let hour := inDay / 3600
  let ofTwelve := if hour % 12 = 0 then 12 else hour % 12
  let upper := { m with upper := m.upper || m.swapped }
  let named (names : List String) (i : Nat) : String := (names[i]?).getD ""
  let month := named monthNames (date.month - 1)
  let half := if hour < 12 then "AM" else "PM"
  let weekYear := (Date.week n).1
  let years := date.year.natAbs
  match c with
  | 'a' => some (upper.text (String.ofList ((named weekdayNames weekday).toList.take 3)))
  | 'A' => some (upper.text (named weekdayNames weekday))
  | 'b' | 'h' => some (upper.text (String.ofList (month.toList.take 3)))
  | 'B' => some (upper.text month)
  | 'C' => some (m.years 2 (date.year < 0) (years / 100) inherited)
  | 'd' => some (m.number 2 date.day)
  | 'e' => some (m.spaced 2 date.day)
  | 'g' => some (m.years 2 false (weekYear.natAbs % 100) inherited)
  | 'G' => some (m.years 4 (weekYear < 0) weekYear.natAbs inherited)
  | 'H' => some (m.number 2 hour)
  | 'I' => some (m.number 2 ofTwelve)
  | 'j' => some (m.number 3 (Date.dayOfYear n + 1))
  | 'k' => some (m.spaced 2 hour)
  | 'l' => some (m.spaced 2 ofTwelve)
  | 'm' => some (m.number 2 date.month)
  | 'M' => some (m.number 2 (inDay / 60 % 60))
  | 'n' => some (m.text "\n")
  | 'N' => some (m.billionths t.billionths)
  | 'p' =>
    some (if m.swapped then { m with upper := false }.text half.toLower else m.text half)
  | 'P' => some ({ m with upper := false }.text half.toLower)
  | 'q' => some (m.number 1 ((date.month - 1) / 3 + 1))
  | 's' => some (m.number 1 t.seconds)
  | 'S' => some (m.number 2 (inDay % 60))
  | 't' => some (m.text "\t")
  | 'u' => some (m.number 1 (if weekday = 0 then 7 else weekday))
  | 'U' => some (m.number 2 ((Date.dayOfYear n + 7 - weekday) / 7))
  | 'V' => some (m.number 2 (Date.week n).2)
  | 'w' => some (m.number 1 weekday)
  | 'W' => some (m.number 2 ((Date.dayOfYear n + 7 - (weekday + 6) % 7) / 7))
  | 'y' => some (m.years 2 false (years % 100) inherited)
  | 'Y' => some (m.years 4 (date.year < 0) years inherited)
  | 'Z' =>
    some (if m.swapped then { m with upper := false }.text z.name.toLower else m.text z.name)
  | _ => none

/-- Writes a form whose letters stand directly behind their percent signs.  The first of them gets
a width. -/
def plainly (z : Zone) (t : Moment) (upper : Bool) (inherited : Option Char) :
    Option Nat → List Char → String
  | width, '%' :: c :: rest =>
    (simple z t { upper, width } inherited c).getD "" ++ plainly z t upper inherited none rest
  | _, c :: rest => c.toString ++ plainly z t upper inherited none rest
  | _, [] => ""

/-- Writes what a letter names, if it names something. -/
def written (z : Zone) (t : Moment) (m : Marks) (c : Char) : Option String :=
  match parts? c with
  | none => simple z t m none c
  | some form =>
    let (filling, width) :=
      if c = 'F' then
        if m.filling.isNone && m.width.isNone then (some '+', some 4)
        else (m.filling, some (m.width.getD 0 - 6))
      else (if c = 'c' then some '-' else if c = 'x' then none else m.filling, none)
    some ({ m with upper := false }.text (plainly z t m.upper filling width form.toList))

/-- Reads the marks in front of a width; `n` bounds their number. -/
def readMarks : Nat → Marks → List Char → Marks × List Char
  | n + 1, m, c :: rest =>
    if ['_', '-', '+', '0'].contains c then readMarks n { m with filling := some c } rest
    else if c = '^' then readMarks n { m with upper := true } rest
    else if c = '#' then readMarks n { m with swapped := true } rest
    else (m, c :: rest)
  | _, m, rest => (m, rest)

/-- Letters that may be asked for in another way of writing, and the letter for that way. -/
def otherWays : List (Char × String) :=
  [('E', "cCnpPqrRstTuxXyYZ"), ('O', "bBCdegGhHIjklmMnNpPrRsStTuUVwWyZ")]

/-- Writes what stands behind a percent sign, and says what follows.  What names nothing is written
as it stands. -/
def conversion (z : Zone) (t : Moment) (cs : List Char) : String × List Char :=
  let (m, rest) := readMarks cs.length {} cs
  let digits := rest.takeWhile Char.isDigit
  let rest := rest.drop digits.length
  let m := if digits.isEmpty then m else { m with width := (String.ofList digits).toNat? }
  let (way, rest) : Option Char × List Char := match rest with
    | 'E' :: rest => (some 'E', rest)
    | 'O' :: rest => (some 'O', rest)
    | rest => (none, rest)
  let colons := (rest.takeWhile (· == ':')).length
  let asItStands (rest : List Char) : String × List Char :=
    (m.text (String.ofList ('%' :: cs.take (cs.length - rest.length))), rest)
  match rest with
  | [] => asItStands []
  | ':' :: rest =>
    match rest.drop (colons - 1) with
    | 'z' :: after =>
      match m.ahead colons z.ahead with
      | some text => (text, after)
      | none => asItStands after
    | _ => asItStands rest
  | 'z' :: rest => ((m.ahead 0 z.ahead).getD "", rest)
  | '%' :: after => if cs.head? = some '%' then (m.text "%", after) else asItStands rest
  | c :: after =>
    let isFitting := match way with
      | none => true
      | some w => ((otherWays.lookup w).getD "").toList.contains c
    match if isFitting then written z t m c else none with
    | some text => (text, after)
    | none => asItStands after

/-- Writes a point in time; `n` bounds the length of the form. -/
def writeFrom (z : Zone) (t : Moment) : Nat → List Char → String
  | n + 1, '%' :: rest =>
    let (text, rest) := conversion z t rest
    text ++ writeFrom z t n rest
  | n + 1, c :: rest => c.toString ++ writeFrom z t n rest
  | _, _ => ""

/-- Writes a point in time in a form. -/
def write (z : Zone) (t : Moment) (form : String) : String :=
  writeFrom z t form.length form.toList

end Fleet.Calendar

import Fleet.Calendar.Form
import Fleet.Shell.Number

namespace Fleet.Calendar

/-! # The words of a point in time

A point in time is written in words, numbers and signs.  A number may have a sign in front of it,
and a fraction behind it; words are known by their beginnings, by abbreviations or in the plural.
-/

/-- A length of time. -/
inductive Span where
  | year
  | month
  | day
  | hour
  | minute
  | second
  deriving DecidableEq, Repr

/-- A number with digits: how many there are tells years from hours. -/
structure Digits where
  value : Int
  count : Nat
  negative : Bool := false
  deriving DecidableEq, Repr

/-- A word, a number or a sign. -/
inductive Token where
  | number (d : Digits)
  /-- a number with a sign in front -/
  | offset (d : Digits)
  /-- a number with a fraction -/
  | fraction (seconds : Int) (billionths : Nat)
  /-- a number with a sign and a fraction -/
  | signedFraction (seconds : Int) (billionths : Nat)
  | half (isAfternoon : Bool)
  | month (n : Nat)
  | weekday (n : Nat)
  /-- a place where clocks are ahead by so many seconds -/
  | zone (ahead : Int)
  /-- a place in summer, and what its clocks show in winter -/
  | summerZone (ahead : Int)
  | summer
  | span (s : Span) (count : Int)
  | shift (days : Int)
  | ordinal (n : Int)
  /-- what came before is taken back, or stands -/
  | ago (factor : Int)
  | sign (c : Char)
  /-- what nobody understands -/
  | unknown
  deriving DecidableEq, Repr

/-- How many seconds clocks are ahead in places of the world. -/
def zoneHours (hours : Int) : Int := hours * 3600

/-- The places that have names. -/
def zones : List (String × Token) :=
  let winter (name : String) (hours : Int) : String × Token := (name, .zone (zoneHours hours))
  let summer (name : String) (hours : Int) : String × Token := (name, .summerZone (zoneHours hours))
  [winter "GMT" 0, winter "UT" 0, winter "UTC" 0, winter "WET" 0, summer "WEST" 0, summer "BST" 0,
    winter "ART" (-3), winter "BRT" (-3), summer "BRST" (-3), ("NST", .zone (-12600)),
    ("NDT", .summerZone (-12600)), winter "AST" (-4), summer "ADT" (-4), winter "CLT" (-4),
    summer "CLST" (-4), winter "EST" (-5), summer "EDT" (-5), winter "CST" (-6), summer "CDT" (-6),
    winter "MST" (-7), summer "MDT" (-7), winter "PST" (-8), summer "PDT" (-8), winter "AKST" (-9),
    summer "AKDT" (-9), winter "HST" (-10), winter "HAST" (-10), summer "HADT" (-10),
    winter "SST" (-12), winter "WAT" 1, winter "CET" 1, summer "CEST" 1, winter "MET" 1,
    winter "MEZ" 1, summer "MEST" 1, summer "MESZ" 1, winter "EET" 2, summer "EEST" 2,
    winter "CAT" 2, winter "SAST" 2, winter "EAT" 3, winter "MSK" 3, summer "MSD" 3,
    ("IST", .zone 19800), winter "SGT" 8, winter "KST" 9, winter "JST" 9, winter "GST" 10,
    winter "NZST" 12, summer "NZDT" 12]

/-- Lengths of time by their names. -/
def spans : List (String × Token) :=
  [("YEAR", .span .year 1), ("MONTH", .span .month 1), ("FORTNIGHT", .span .day 14),
    ("WEEK", .span .day 7), ("DAY", .span .day 1), ("HOUR", .span .hour 1),
    ("MINUTE", .span .minute 1), ("MIN", .span .minute 1), ("SECOND", .span .second 1),
    ("SEC", .span .second 1)]

/-- Words that say where something is seen from now. -/
def relations : List (String × Token) :=
  [("TOMORROW", .shift 1), ("YESTERDAY", .shift (-1)), ("TODAY", .shift 0), ("NOW", .shift 0),
    ("LAST", .ordinal (-1)), ("THIS", .ordinal 0), ("NEXT", .ordinal 1), ("FIRST", .ordinal 1),
    ("THIRD", .ordinal 3), ("FOURTH", .ordinal 4), ("FIFTH", .ordinal 5), ("SIXTH", .ordinal 6),
    ("SEVENTH", .ordinal 7), ("EIGHTH", .ordinal 8), ("NINTH", .ordinal 9), ("TENTH", .ordinal 10),
    ("ELEVENTH", .ordinal 11), ("TWELFTH", .ordinal 12), ("AGO", .ago (-1)), ("HENCE", .ago 1)]

/-- Months and days of the week by their names. -/
def months : List (String × Token) :=
  (monthNames.zipIdx 1).map (fun (name, n) => (name.toUpper, .month n)) ++ [("SEPT", .month 9)] ++
    (weekdayNames.zipIdx).map (fun (name, n) => (name.toUpper, .weekday n)) ++
    [("TUES", .weekday 2), ("WEDNES", .weekday 3), ("THUR", .weekday 4), ("THURS", .weekday 4)]

/-- The place that one letter stands for; `J` is none, and `T` is a sign. -/
def letterZone? (c : Char) : Option Token :=
  let n : Int := c.toNat
  if c = 'Z' then some (.zone 0)
  else if c = 'T' || c = 'J' then some (.sign c)
  else if 'A' ≤ c && c ≤ 'I' then some (.zone (zoneHours (n - 64)))
  else if 'K' ≤ c && c ≤ 'M' then some (.zone (zoneHours (n - 65)))
  else if 'N' ≤ c && c ≤ 'Y' then some (.zone (zoneHours (77 - n)))
  else none

/-- How many letters of a word count. -/
def maxWord : Nat := 19

/-- What a word says. -/
def word (letters : List Char) : Token :=
  let w := (String.ofList (letters.take maxWord)).toUpper
  let cs := w.toList
  let isShort := cs.length = 3 || (cs.length = 4 && cs.getLast? = some '.')
  let half? : Option Token :=
    if w = "AM" || w = "A.M." then some (.half false)
    else if w = "PM" || w = "P.M." then some (.half true)
    else none
  let month? := (months.find? fun (name, _) =>
    if isShort then name.toList.take 3 == cs.take 3 else name == w).map (·.2)
  let summer? : Option Token := if w = "DST" then some .summer else none
  let plural? : Option Token :=
    if cs.getLast? = some 'S' then spans.lookup (String.ofList cs.dropLast) else none
  let letter? : Option Token := match cs with
    | [c] => letterZone? c
    | _ => none
  let pointless? : Option Token :=
    if cs.contains '.' then zones.lookup (String.ofList (cs.filter (· != '.'))) else none
  (half? <|> month? <|> zones.lookup w <|> summer? <|> spans.lookup w <|> plural? <|>
    relations.lookup w <|> letter? <|> pointless?).getD .unknown

/-- A blank. -/
def isBlank (c : Char) : Bool := Shell.Number.isBlank c

/-- A letter. -/
def isLetter (c : Char) : Bool := ('a' ≤ c && c ≤ 'z') || ('A' ≤ c && c ≤ 'Z')

/-- Reads a number; `sign` is what stands in front of it. -/
def readNumber (sign : Option Char) (cs : List Char) : Token × List Char :=
  let digits := cs.takeWhile Char.isDigit
  let rest := cs.drop digits.length
  let magnitude : Int := (Shell.Number.takeDigits 10 digits.length 0 digits).1
  let value := if sign = some '-' then -magnitude else magnitude
  if Shell.Number.clamp value != value then (.unknown, rest)
  else
    let plain : Token × List Char :=
      let d : Digits := ⟨value, digits.length, sign = some '-'⟩
      (if sign.isSome then .offset d else .number d, rest)
    match rest with
    | c :: d :: more =>
      if (c == '.' || c == ',') && d.isDigit then
        let fraction := (d :: more).takeWhile Char.isDigit
        let rest := (d :: more).drop fraction.length
        let kept := fraction.take 9
        let parts := (Shell.Number.takeDigits 10 9 0 kept).1 * Nat.pow 10 (9 - kept.length)
        if sign = some '-' then
          let parts := parts + if (fraction.drop 9).any (· != '0') then 1 else 0
          if parts = 0 then (.signedFraction value 0, rest)
          else (.signedFraction (value - 1) (1000000000 - parts), rest)
        else if sign.isSome then (.signedFraction value parts, rest)
        else (.fraction value parts, rest)
      else plain
    | _ => plain

/-- Passes a remark in brackets; none if it does not end.  `n` bounds its length. -/
def skipRemark : Nat → Nat → List Char → Option (List Char)
  | 0, _, _ => none
  | _, _, [] => none
  | n + 1, depth, c :: rest =>
    let depth := if c = '(' then depth + 1 else if c = ')' then depth - 1 else depth
    if depth = 0 then some rest else skipRemark n depth rest

/-- Takes a text apart; `n` bounds its length. -/
def tokens : Nat → List Char → List Token
  | 0, _ => []
  | _, [] => []
  | n + 1, c :: rest =>
    if isBlank c then tokens n rest
    else if c.isDigit then
      let (t, rest) := readNumber none (c :: rest)
      t :: tokens n rest
    else if c = '-' || c = '+' then
      let rest := rest.dropWhile isBlank
      if (rest.head?.any Char.isDigit) then
        let (t, rest) := readNumber (some c) rest
        t :: tokens n rest
      else tokens n rest
    else if isLetter c then
      let letters := (c :: rest).takeWhile fun c => isLetter c || c == '.'
      word letters :: tokens n ((c :: rest).drop letters.length)
    else if c = '(' then
      match skipRemark (rest.length + 1) 0 (c :: rest) with
      | some rest => tokens n rest
      | none => []
    else .sign c :: tokens n rest

/-- The words, numbers and signs of a text. -/
def tokensOf (text : String) : List Token := tokens (text.length + 1) text.toList

end Fleet.Calendar

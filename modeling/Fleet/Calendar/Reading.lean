import Fleet.Calendar.Token

namespace Fleet.Calendar

/-! # Reading points in time

A text names a point in time by parts in any order: a date, a time of day, a day of the week, a
place, and lengths of time that are added.  Each but the lengths may stand there once.  What is not
said is taken from now.
-/

/-- What is added to a point in time. -/
structure Distance where
  year : Int := 0
  month : Int := 0
  day : Int := 0
  hour : Int := 0
  minute : Int := 0
  second : Int := 0
  billionths : Int := 0
  deriving DecidableEq, Repr

namespace Distance

/-- So many lengths of time. -/
def of (s : Span) (n : Int) : Distance :=
  match s with
  | .year => { year := n }
  | .month => { month := n }
  | .day => { day := n }
  | .hour => { hour := n }
  | .minute => { minute := n }
  | .second => { second := n }

/-- A distance, taken so many times and added to another. -/
def plus (a b : Distance) (factor : Int) : Distance where
  year := a.year + b.year * factor
  month := a.month + b.month * factor
  day := a.day + b.day * factor
  hour := a.hour + b.hour * factor
  minute := a.minute + b.minute * factor
  second := a.second + b.second * factor
  billionths := a.billionths + b.billionths * factor

end Distance

/-- What has been read. -/
structure Found where
  year : Digits
  month : Int
  day : Int
  hour : Int
  minute : Int
  second : Int
  billionths : Nat
  /-- the half of the day that the hour is in -/
  half : Option Bool := none
  distance : Distance := {}
  isRelative : Bool := false
  ahead : Int
  ordinal : Int := 0
  weekday : Nat := 0
  dates : Nat := 0
  times : Nat := 0
  weekdays : Nat := 0
  zones : Nat := 0

namespace Found

/-- Sets the time of day. -/
def atTime (f : Found) (hour minute second : Int) (billionths : Nat) (half : Option Bool) :
    Found :=
  { f with hour, minute, second, billionths, half, times := f.times + 1 }

/-- Sets the date. -/
def onDate (f : Found) (year : Digits) (month day : Int) : Found :=
  { f with year, month, day, dates := f.dates + 1 }

/-- Sets the day of a month. -/
def onDay (f : Found) (month day : Int) : Found := { f with month, day, dates := f.dates + 1 }

/-- Sets the day of the week. -/
def onWeekday (f : Found) (ordinal : Int) (weekday : Nat) : Found :=
  { f with ordinal, weekday, weekdays := f.weekdays + 1 }

/-- Sets the place. -/
def inZone (f : Found) (ahead : Int) : Found := { f with ahead, zones := f.zones + 1 }

/-- Adds a distance so many times. -/
def shifted (f : Found) (d : Distance) (factor : Int) : Found :=
  { f with distance := f.distance.plus d factor, isRelative := true }

/-- A number that stands alone: a year, a date or a time of day, as its length says. -/
def withNumber (f : Found) (d : Digits) : Found :=
  if 0 < f.dates && f.year.count = 0 && !f.isRelative && (0 < f.times || 2 < d.count) then
    { f with year := d }
  else if 4 < d.count then
    f.onDate ⟨d.value / 10000, d.count - 4, false⟩ (d.value / 100 % 100) (d.value % 100)
  else if d.count ≤ 2 then f.atTime d.value 0 0 0 none
  else f.atTime (d.value / 100) (d.value % 100) 0 0 none

end Found

/-- How far clocks are ahead, given as hours or as hours and minutes. -/
def aheadOf? (d : Digits) (minutes : Option Int) : Option Int :=
  let n := match minutes with
    | some m => d.value * 60 + if d.negative then -m else m
    | none =>
      let value := if d.count ≤ 2 then d.value * 100 else d.value
      value.tdiv 100 * 60 + value.tmod 100
  if -1440 ≤ n && n ≤ 1440 then some (n * 60) else none

/-- Reads how far clocks are ahead, if that is what follows. -/
def readAhead (base : Int) (f : Found) : List Token → Option (Found × List Token)
  | .offset d :: .sign ':' :: .number m :: rest =>
    (aheadOf? d (some m.value)).map fun n => (f.inZone (base + n), rest)
  | .offset _ :: .sign ':' :: _ => none
  | .offset d :: rest => (aheadOf? d none).map fun n => (f.inZone (base + n), rest)
  | rest => some (f, rest)

/-- Reads a time of day behind its hour; a half of the day may follow if `anyHalf`. -/
def readTime (f : Found) (hour : Int) (anyHalf : Bool) : List Token → Option (Found × List Token)
  | .sign ':' :: .number m :: .sign ':' :: rest =>
    let seconds? : Option (Int × Nat × List Token) := match rest with
      | .number s :: rest => some (s.value, 0, rest)
      | .fraction s parts :: rest => some (s, parts, rest)
      | _ => none
    match seconds? with
    | none => none
    | some (s, parts, rest) =>
      match anyHalf, rest with
      | true, .half h :: rest => some (f.atTime hour m.value s parts (some h), rest)
      | _, rest => readAhead 0 (f.atTime hour m.value s parts none) rest
  | .sign ':' :: .number m :: rest =>
    match anyHalf, rest with
    | true, .half h :: rest => some (f.atTime hour m.value 0 0 (some h), rest)
    | _, rest => readAhead 0 (f.atTime hour m.value 0 0 none) rest
  | .offset d :: rest => readAhead 0 (f.atTime hour 0 0 0 none) (.offset d :: rest)
  | _ => none

/-- Adds a distance that may be taken back. -/
def addSpan (f : Found) (d : Distance) : List Token → Found × List Token
  | .ago factor :: rest => (f.shifted d factor, rest)
  | rest => (f.shifted d 1, rest)

/-- Reads a place, behind its name. -/
def readZone (f : Found) (ahead : Int) : List Token → Option (Found × List Token)
  | .offset d :: .span s n :: rest =>
    some ((f.inZone ahead).shifted (.of s (d.value * n)) 1, rest)
  | .offset d :: rest => readAhead ahead f (.offset d :: rest)
  | rest => some (f.inZone ahead, rest)

/-- Reads one part. -/
def readPart (f : Found) : List Token → Option (Found × List Token)
  | .number h :: .half half :: rest => some (f.atTime h.value 0 0 0 (some half), rest)
  | .number h :: .sign ':' :: rest => readTime f h.value true (.sign ':' :: rest)
  | .number a :: .sign '/' :: .number b :: .sign '/' :: .number c :: rest =>
    some (if 4 ≤ a.count then f.onDate a b.value c.value else f.onDate c a.value b.value, rest)
  | .number _ :: .sign '/' :: .number _ :: .sign '/' :: _ => none
  | .number a :: .sign '/' :: .number b :: rest => some (f.onDay a.value b.value, rest)
  | .number d :: .month m :: .offset y :: rest =>
    some (f.onDate ⟨-y.value, y.count, false⟩ m d.value, rest)
  | .number d :: .month m :: .number y :: rest => some (f.onDate y m d.value, rest)
  | .number d :: .month m :: rest => some (f.onDay m d.value, rest)
  | .number n :: .weekday d :: rest => some (f.onWeekday n.value d, rest)
  | .number n :: .span s k :: rest => some (addSpan f (.of s (n.value * k)) rest)
  | .number y :: .offset m :: .offset d :: rest =>
    let f := f.onDate y (-m.value) (-d.value)
    match rest with
    | .sign 'T' :: .number h :: rest => readTime f h.value false rest
    | .sign 'T' :: _ => none
    | rest => some (f, rest)
  | .number n :: .offset d :: .span s k :: rest =>
    some ((f.withNumber n).shifted (.of s (d.value * k)) 1, rest)
  | .number h :: .offset d :: rest => readTime f h.value false (.offset d :: rest)
  | .number n :: rest => some (f.withNumber n, rest)
  | .month m :: .number d :: .sign ',' :: .number y :: rest => some (f.onDate y m d.value, rest)
  | .month _ :: .number _ :: .sign ',' :: _ => none
  | .month m :: .number d :: rest => some (f.onDay m d.value, rest)
  | .month m :: .offset d :: .offset y :: rest =>
    some (f.onDate ⟨-y.value, y.count, false⟩ m (-d.value), rest)
  | .weekday d :: .sign ',' :: rest => some (f.onWeekday 0 d, rest)
  | .weekday d :: rest => some (f.onWeekday 0 d, rest)
  | .ordinal n :: .weekday d :: rest => some (f.onWeekday n d, rest)
  | .ordinal n :: .span s k :: rest => some (addSpan f (.of s (n * k)) rest)
  | .span s k :: rest => some (addSpan f (.of s k) rest)
  | .offset d :: .span s k :: rest => some (addSpan f (.of s (d.value * k)) rest)
  | .fraction s parts :: .span .second _ :: rest =>
    some (addSpan f { second := s, billionths := parts } rest)
  | .signedFraction s parts :: .span .second _ :: rest =>
    some (addSpan f { second := s, billionths := parts } rest)
  | .shift days :: rest => some (f.shifted { day := days } 1, rest)
  | .zone ahead :: .summer :: rest => some (f.inZone (ahead + 3600), rest)
  | .zone ahead :: rest => readZone f ahead rest
  | .summerZone ahead :: rest => some (f.inZone (ahead + 3600), rest)
  | .sign 'T' :: rest => readZone f (zoneHours (-7)) rest
  | .sign 'J' :: rest => some (f.inZone f.ahead, rest)
  | _ => none

/-- Reads all parts; `n` bounds their number. -/
def readParts : Nat → Found → List Token → Option Found
  | _, f, [] => some f
  | 0, _, _ => none
  | n + 1, f, ts =>
    match readPart f ts with
    | some (f, rest) => readParts n f rest
    | none => none

/-- The hour of the day. -/
def hourOf? (hour : Int) (half : Option Bool) : Option Int :=
  match half with
  | none => if 0 ≤ hour && hour < 24 then some hour else none
  | some isAfternoon =>
    if hour < 1 || 12 < hour then none
    else some (hour % 12 + if isAfternoon then 12 else 0)

/-- The year that digits stand for: two of them leave the century out. -/
def yearOf (d : Digits) : Int :=
  let n := if 0 ≤ d.value && d.count = 2 then d.value + if d.value < 69 then 2000 else 1900
    else d.value
  if n < 0 then -n else n

/-- The largest year that is counted with. -/
def maxYear : Int := 2147483647 + 1900

/-- Years, months and days are counted up to this number. -/
def maxCount : Int := 2147483647

/-- The point in time that has been read. -/
def Found.moment? (f : Found) : Option Moment :=
  if 1 < f.times || 1 < f.dates || 1 < f.weekdays || 1 < f.zones then none
  else
    let isTimed := 0 < f.times || (f.isRelative && f.dates = 0 && f.weekdays = 0)
    let time? : Option (Int × Int × Int × Nat) :=
      if isTimed then (hourOf? f.hour f.half).map fun h => (h, f.minute, f.second, f.billionths)
      else some (0, 0, 0, 0)
    let year := yearOf f.year
    match time? with
    | none => none
    | some (hour, minute, second, billionths) =>
      let n := Date.number year f.month f.day
      let d := Date.ofNumber n
      if maxYear < year || d.year != year || d.month != f.month || d.day != f.day || 59 < minute ||
          59 < second then none
      else
        let day : Int :=
          if 0 < f.weekdays && f.dates = 0 then
            let today := Date.weekday n
            let weeks := f.ordinal - if 0 < f.ordinal && today != f.weekday then 1 else 0
            f.day + ((f.weekday + 7 - today) % 7 : Nat) + weeks * 7
          else f.day
        let d := Date.ofNumber (Date.number year f.month day)
        let n := Date.number (d.year + f.distance.year) (d.month + f.distance.month)
          (d.day + f.distance.day)
        let isFar := maxCount < (d.month + f.distance.month).natAbs ||
          maxCount < (d.day + f.distance.day).natAbs ||
          maxCount < (d.year + f.distance.year - 1900).natAbs
        let base := n * Moment.daySeconds + hour * 3600 + minute * 60 + second - f.ahead
        let parts := billionths + f.distance.billionths
        let seconds := base + f.distance.hour * 3600 + f.distance.minute * 60 +
          f.distance.second + parts / 1000000000
        if isFar || Shell.Number.clamp seconds != seconds || maxYear < (Date.ofNumber n).year then none
        else some ⟨seconds, (parts % 1000000000).toNat⟩

/-- Reads a point in time, as it is meant at a place at another point in time. -/
def read? (z : Zone) (now : Moment) (text : String) : Option Moment :=
  match tokensOf text with
  | [.sign '@', .number d] | [.sign '@', .offset d] => some ⟨d.value, 0⟩
  | [.sign '@', .fraction s parts] | [.sign '@', .signedFraction s parts] => some ⟨s, parts⟩
  | ts =>
    let today := Date.ofNumber (now.day z.ahead)
    let inDay := now.inDay z.ahead
    let start : Found := {
      year := ⟨today.year, 0, false⟩, month := today.month, day := today.day
      hour := (inDay / 3600 : Nat), minute := (inDay / 60 % 60 : Nat)
      second := (inDay % 60 : Nat), billionths := now.billionths, ahead := z.ahead }
    (readParts ts.length start ts).bind Found.moment?

end Fleet.Calendar

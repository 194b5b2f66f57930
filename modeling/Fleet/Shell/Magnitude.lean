import Fleet.Shell.Floating
import Fleet.Shell.LineUtility

namespace Fleet.Shell

/-! # Numbers with letters for their size

The program `numfmt`, which reads and writes numbers with letters behind them: `K` for a thousand or
for 1024, and so on.  It counts with numbers of 64 significant bits, as the machine does.
-/

namespace Magnitude

/-- A number of 64 significant bits: a whole number times a power of two. -/
structure Long where
  mantissa : Int
  power : Int := 0
  deriving DecidableEq, Repr

namespace Long

/-- The number nearest to a fraction. -/
def ofFraction (a : Int) (b : Nat) : Long :=
  match Floating.ofFraction .extended (a < 0) a.natAbs b with
  | (.finite negative m power, _) => ⟨if negative then -(m : Int) else m, power⟩
  | _ => ⟨0, 0⟩

/-- The number as a fraction. -/
def fraction (x : Long) : Int × Nat :=
  let (a, b) := Floating.scaled 2 x.mantissa.natAbs 1 x.power
  (if x.mantissa < 0 then -(a : Int) else a, b)

/-- A whole number. -/
def ofInt (n : Int) : Long := ofFraction n 1

/-- The sum of two numbers. -/
def plus (x y : Long) : Long :=
  let (a, b) := x.fraction
  let (c, d) := y.fraction
  ofFraction (a * d + c * b) (b * d)

/-- The product of two numbers. -/
def times (x y : Long) : Long :=
  let (a, b) := x.fraction
  let (c, d) := y.fraction
  ofFraction (a * c) (b * d)

/-- The quotient of two numbers; the second is positive. -/
def per (x y : Long) : Long :=
  let (a, b) := x.fraction
  let (c, d) := y.fraction
  ofFraction (a * d) (b * c.natAbs)

/-- A power of a whole number. -/
def powerOf (base : Nat) : Nat → Long
  | 0 => ofInt 1
  | n + 1 => (powerOf base n).times (ofInt base)

/-- The number without its sign is at least a whole number. -/
def reaches (x : Long) (n : Nat) : Bool :=
  let (a, b) := x.fraction
  n * b ≤ a.natAbs

end Long

/-! ## Reading -/

/-- What letters behind a number mean. -/
inductive Scale where
  | none
  | auto
  | si
  | iec
  | iecMarked
  deriving DecidableEq, Repr

/-- How many times larger each letter is than the one before it. -/
def Scale.base : Scale → Nat
  | .iec | .iecMarked => 1024
  | _ => 1000

/-- The letters, by size. -/
def letters : List Char := ['K', 'M', 'G', 'T', 'P', 'E', 'Z', 'Y', 'R', 'Q']

/-- A number that was read, and how many digits it has behind its point. -/
structure Reading where
  value : Long
  places : Nat := 0

/-- How many digits a number can have. -/
def maxDigits : Nat := 33

/-- Adds up digits; none if there are too many. -/
def digitsOf? (cs : List Char) : Option Long :=
  if maxDigits < (cs.dropWhile (· == '0')).length then none
  else some (cs.foldl (fun x c =>
    (x.times (.ofInt 10)).plus (.ofInt (c.toNat - '0'.toNat : Nat))) ⟨0, 0⟩)

/-- Reads a number with letters behind it. -/
def read (scale : Scale) (text : String) : Except String Reading := do
  let cs := text.toList
  let negative := cs.head? == some '-'
  let cs := if negative then cs.drop 1 else cs
  let whole := cs.takeWhile Char.isDigit
  let rest := cs.drop whole.length
  let invalid := "invalid number: " ++ Options.quoted text
  let tooLarge := "value too large to be converted: " ++ Options.quoted text
  if whole.isEmpty && rest.head? != some '.' then throw invalid
  let some value := digitsOf? whole | throw tooLarge
  let (part, rest) := match rest with
    | '.' :: more =>
      let part := more.takeWhile Char.isDigit
      (some part, more.drop part.length)
    | rest => (none, rest)
  let value ← match part with
    | none => pure value
    | some part =>
      if part.isEmpty then throw invalid
      let some v := digitsOf? part | throw tooLarge
      pure (value.plus (v.per (.powerOf 10 part.length)))
  let value : Long := if negative then { value with mantissa := -value.mantissa } else value
  let places := (part.map (·.length)).getD 0
  let (power, base, places, rest) ← match rest with
    | [] => pure (0, scale.base, places, [])
    | rest =>
      match rest.dropWhile fun c => c == ' ' || c == '\t' with
      | c :: more =>
        match (letters.zipIdx 1).lookup c with
        | none => throw ("invalid suffix in input: " ++ Options.quoted text)
        | some power =>
          if scale = .none then
            throw ("rejecting suffix in input: " ++ Options.quoted text ++
              " (consider using --from)")
          match scale, more with
          | .auto, 'i' :: more => pure (power, 1024, 0, more)
          | _, more => pure (power, scale.base, 0, more)
      | [] => throw ("invalid suffix in input: " ++ Options.quoted text)
  let rest ← match scale, rest with
    | .iecMarked, 'i' :: rest => pure rest
    | .iecMarked, _ =>
      throw ("missing 'i' suffix in input: " ++ Options.quoted text ++ " (e.g Ki/Mi/Gi)")
    | _, rest => pure rest
  if !rest.isEmpty then
    throw ("invalid suffix in input " ++ Options.quoted text ++ ": " ++
      Options.quoted (String.ofList rest))
  return ⟨value.times (.powerOf base power), places⟩

/-! ## Writing -/

/-- How numbers are rounded. -/
inductive Rounding where
  | up
  | down
  | fromZero
  | towardsZero
  | nearest
  deriving DecidableEq, Repr

/-- A number rounded to a whole one. -/
def Rounding.apply (r : Rounding) (x : Long) : Long :=
  let (a, b) := x.fraction
  let below : Int := a / (b : Int)
  let above : Int := -((-a) / (b : Int))
  let n : Int := match r with
    | .up => above
    | .down => below
    | .fromZero => if a < 0 then below else above
    | .towardsZero => if a < 0 then above else below
    | .nearest =>
      let (c, d) := (x.plus (Long.ofFraction (if a < 0 then -1 else 1) 2)).fraction
      c.tdiv (d : Int)
  .ofInt n

/-- Divides until less than the base is left; `n` bounds how often. -/
def reduced (base : Nat) : Nat → Long → Long × Nat
  | 0, x => (x, 0)
  | n + 1, x =>
    if x.reaches base then
      let (y, k) := reduced base n (x.per (.ofInt base))
      (y, k + 1)
    else (x, 0)

/-- A number with so many digits behind its point. -/
def fixed (places : Nat) (x : Long) : String :=
  (if x.mantissa < 0 then "-" else "") ++
    String.ofList (Floating.fixed places false x.mantissa.natAbs x.power)

/-- How numbers are written. -/
structure Style where
  scale : Scale := .none
  rounding : Rounding := .fromZero
  /-- digits behind the point, if the number does not say -/
  places : Option Nat := none
  /-- digits are filled with zeros up to this width -/
  zeros : Nat := 0

/-- Digits filled with zeros. -/
def Style.filled (s : Style) (text : String) : String :=
  let sign := if text.startsWith "-" then "-" else ""
  let digits := text.toList.drop sign.length
  sign ++ String.ofList (List.replicate (s.zeros - text.length) '0' ++ digits)

/-- Writes a number. -/
def write (s : Style) (r : Reading) : String :=
  let roundAt (places : Nat) (x : Long) : Long :=
    let tens := Long.powerOf 10 places
    (s.rounding.apply (x.times tens)).per tens
  match s.scale with
  | .none =>
    let places := s.places.getD r.places
    s.filled (fixed places (roundAt places r.value))
  | scale =>
    let base := scale.base
    let (x, power) := reduced base 40 r.value
    let places := match s.places with
      | some p => min (power * 3) p
      | none => if x.reaches 10 then 0 else 1
    let x := roundAt places x
    let (x, power) := if x.reaches base then (x.per (.ofInt base), power + 1) else (x, power)
    let isPointed := x.mantissa != 0 && !x.reaches 10 && 0 < power
    let letter := if power = 0 then "" else ((letters[power - 1]?).map (·.toString)).getD ""
    s.filled (fixed (s.places.getD (if isPointed then 1 else 0)) x) ++ letter ++
      if scale = .iecMarked && 0 < power then "i" else ""

/-- How large the numbers are that can be written as they are, in digits. -/
def maxPlain : Nat := 18

/-- Writes a number, unless it is too large. -/
def writeIfFits (s : Style) (r : Reading) : Except String String :=
  let (_, tens) := reduced 10 60 r.value
  let places := s.places.getD r.places
  let shown := String.ofList
    (Floating.general 6 false r.value.mantissa.natAbs r.value.power)
  let shown := if r.value.mantissa < 0 then "-" ++ shown else shown
  if s.scale = .none && maxPlain < tens + places then
    .error ((if places = 0 then "value too large to be printed: '" ++ shown
      else "value/precision too large to be printed: '" ++ shown ++ "/" ++ toString places) ++
      "' (consider using --to)")
  else if maxDigits - 1 < tens then
    .error ("value too large to be printed: '" ++ shown ++ "' (cannot handle values > 999Q)")
  else .ok (write s r)

/-! ## The program -/

/-- What options ask for. -/
structure Order where
  source : Scale := .none
  style : Style := {}
  sourceUnit : Nat := 1
  targetUnit : Nat := 1
  suffix : String := ""
  /-- the width that is filled with blanks, on the left or on the right -/
  padding : Nat := 0
  isLeft : Bool := false
  separator : Option Char := none
  fields : List LineUtility.Span := [(1, some 1)]
  before : String := ""
  behind : String := ""

/-- What a word with a scale stands for. -/
def scales : List (String × Scale) :=
  [("none", .none), ("auto", .auto), ("si", .si), ("iec", .iec), ("iec-i", .iecMarked)]

/-- What a word with a way to round stands for. -/
def roundings : List (String × Rounding) :=
  [("up", .up), ("down", .down), ("from-zero", .fromZero), ("towards-zero", .towardsZero),
    ("nearest", .nearest)]

/-- What is done about a field that is no number. -/
inductive Refusal where
  | abort
  | fail
  | warn
  | ignore
  deriving DecidableEq, Repr

/-- What a word about fields that are no numbers stands for. -/
def refusals : List (String × Refusal) :=
  [("abort", .abort), ("fail", .fail), ("warn", .warn), ("ignore", .ignore)]

/-- Where to look for help. -/
def hint : String := "Try 'numfmt --help' for more information."

/-- What an option's word stands for, out of several; or the texts of a complaint. -/
def chosen {α : Type} (option : String) (among : List (String × α)) (word : String) :
    Except (List String) α :=
  match among.lookup word with
  | some x => .ok x
  | none =>
    match among.filter fun (w, _) => word.toList.isPrefixOf w.toList with
    | [(_, x)] => .ok x
    | fitting =>
      .error (((if fitting.isEmpty then "invalid" else "ambiguous") ++ " argument " ++
        Options.quoted word ++ " for " ++ Options.quoted ("--" ++ option)) ::
        "Valid arguments are:" :: (among.map fun (w, _) => "  - " ++ Options.quoted w) ++ [hint])

/-- Reads the size of a unit: a number, perhaps with a letter. -/
def unitOf (text : String) : Except (List String) Nat :=
  let digits := text.toList.takeWhile Char.isDigit
  let rest := text.toList.drop digits.length
  let (base, rest) : Nat × List Char :=
    if rest.getLast? == some 'i' then (1024, rest.dropLast) else (1000, rest)
  let n := (Number.natural? (String.ofList digits)).getD 1
  let refused := Except.error ["invalid unit size: " ++ Options.quoted text]
  match rest with
  | [] => if base = 1024 || digits.isEmpty || n = 0 then refused else .ok n
  | [c] =>
    match (letters.zipIdx 1).lookup c with
    | some power => if n = 0 then refused else .ok (n * Nat.pow base power)
    | none => refused
  | _ => refused

/-- Passes text up to a percent sign that is not doubled. -/
def plainPart : List Char → List Char × List Char
  | '%' :: '%' :: rest =>
    let (text, rest) := plainPart rest
    ('%' :: '%' :: text, rest)
  | '%' :: rest => ([], '%' :: rest)
  | c :: rest =>
    let (text, rest) := plainPart rest
    (c :: text, rest)
  | [] => ([], [])

/-- Passes marks of a form: whether a zero is among them. -/
def passMarks : List Char → Bool × List Char
  | c :: rest =>
    if c == ' ' || c == '\'' || c == '0' then
      let (zero, more) := passMarks rest
      (zero || c == '0', more)
    else (false, c :: rest)
  | [] => (false, [])

/-- Reads a form for numbers. -/
def withForm (o : Order) (form : String) : Except (List String) Order :=
  let fails (text : String) : Except (List String) Order := .error [text]
  let shown := Options.quoted form
  let (before, rest) := plainPart form.toList
  match rest with
  | [] => fails ("format " ++ shown ++ " has no % directive")
  | _ :: rest =>
    let (zero, rest) := passMarks rest
    let isLeft := rest.head? == some '-'
    let rest := if isLeft then rest.drop 1 else rest
    let digits := rest.takeWhile Char.isDigit
    let width := (Number.takeDigits 10 digits.length 0 digits).1
    let rest := rest.drop digits.length
    let (places, rest) := match rest with
      | '.' :: rest =>
        let digits := rest.takeWhile Char.isDigit
        (some (Number.takeDigits 10 digits.length 0 digits).1, rest.drop digits.length)
      | rest => (none, rest)
    match rest with
    | 'f' :: rest =>
      let (behind, more) := plainPart rest
      if !more.isEmpty then fails ("format " ++ shown ++ " has too many % directives")
      else
        let fills := zero && !isLeft
        .ok { o with
          style := { o.style with places, zeros := if fills then width else 0 }
          padding := if digits.isEmpty || fills then o.padding else width
          isLeft := if digits.isEmpty || fills then o.isLeft else isLeft
          before := String.ofList before
          behind := String.ofList behind }
    | [] => fails ("format " ++ shown ++ " ends in %")
    | _ =>
      fails ("invalid format " ++ shown ++ ", directive must be %[0]['][-][N][.][N]f")

/-- Reads the options. -/
def orderOf (o : Options) : Except (List String) Order := do
  let source ← chosen "from" scales ((o.value? 'f').getD "none")
  let target ← chosen "to" (scales.filter fun (w, _) => w != "auto") ((o.value? 't').getD "none")
  let rounding ← chosen "round" roundings ((o.value? 'r').getD "from-zero")
  let sourceUnit ← unitOf ((o.value? 'F').getD "1")
  let targetUnit ← unitOf ((o.value? 'T').getD "1")
  let (padding, isLeft) ← match o.value? 'p' with
    | none => pure (0, false)
    | some text =>
      match Number.ofText? 10 text with
      | some n =>
        if n = 0 then throw ["invalid padding value " ++ Options.quoted text]
        pure (n.natAbs, n < 0)
      | none => throw ["invalid padding value " ++ Options.quoted text]
  let separator ← match o.value? 'd' with
    | none => pure none
    | some text =>
      match text.toList with
      | [c] => pure (some c)
      | [] => pure (some '\x00')
      | _ => throw ["the delimiter must be a single character"]
  let fields ← match o.value? 'k' with
    | none => pure [(1, some 1)]
    | some "-" => pure [(1, none)]
    | some text => (LineUtility.spans true text).mapError fun e => [e, hint]
  let order : Order := {
    source, sourceUnit, targetUnit, padding, isLeft, separator, fields
    style := { scale := target, rounding }
    suffix := (o.value? 's').getD "" }
  match o.value? 'm', o.has 'g' with
  | some _, true => throw ["--grouping cannot be combined with --format"]
  | some form, false => withForm order form
  | none, true =>
    if target = .none then return order else throw ["grouping cannot be combined with --to"]
  | none, false => return order

/-- A text in a space. -/
def padded (width : Nat) (isLeft : Bool) (text : String) : String :=
  let blanks := String.ofList (List.replicate (width - text.length) ' ')
  if isLeft then text ++ blanks else blanks ++ text

/-- Writes a field, or says what is wrong with it. -/
def field (o : Order) (number : Nat) (text : String) : Except String String :=
  let bare := if !o.suffix.isEmpty && o.suffix.length < text.length &&
      text.endsWith o.suffix then
      String.ofList (text.toList.take (text.length - o.suffix.length))
    else text
  let trimmed := String.ofList (bare.toList.dropWhile fun c => c == ' ' || c == '\t')
  let width :=
    if o.padding = 0 && o.separator.isNone then
      if trimmed.length < bare.length || 1 < number then bare.length else 0
    else o.padding
  match read o.source trimmed with
  | .error e => .error e
  | .ok r =>
    let value := if o.sourceUnit = 1 && o.targetUnit = 1 then r.value
      else (r.value.times (.ofInt o.sourceUnit)).per (.ofInt o.targetUnit)
    match writeIfFits o.style { r with value } with
    | .error e => .error e
    | .ok written =>
      .ok (o.before ++ padded width o.isLeft (written ++ o.suffix) ++ o.behind)

/-- The fields of a line; blanks belong to the field behind them. -/
def fieldsOf (separator : Option Char) (cs : List Char) : List (List Char) :=
  match separator with
  | some c => Text.splitOn c cs
  | none => go (cs.length + 1) cs
where
  /-- Takes fields from the start of a line. -/
  go : Nat → List Char → List (List Char)
    | 0, cs => [cs]
    | n + 1, cs =>
      let isGap (c : Char) : Bool := c == ' ' || c == '\t' || c == '\n'
      let gap := cs.takeWhile isGap
      let word := (cs.drop gap.length).takeWhile fun c => !isGap c
      match cs.drop (gap.length + word.length) with
      | [] => [gap ++ word]
      | _ :: rest => (gap ++ word) :: go n rest

/-- What has been written, and whether all fields were numbers and the program goes on. -/
structure Progress where
  output : List (Bool × List UInt8) := []
  isClean : Bool := true
  goesOn : Bool := true

/-- Writes a line. -/
def line (i : Invocation) (o : Order) (refusal : Refusal) (ending : String) (p : Progress)
    (text : String) : Progress :=
  if !p.goesOn then p
  else
    let separator := (o.separator.getD ' ').toString
    let p := ((fieldsOf o.separator text.toList).zipIdx 1).foldl (fun p (cs, number) =>
      if !p.goesOn then p
      else
        let out (text : String) : Bool × List UInt8 :=
          (false, Text.encode ((if 1 < number then separator else "") ++ text))
        let text := String.ofList cs
        if !LineUtility.isListed o.fields number then { p with output := p.output ++ [out text] }
        else match field o number text with
          | .ok text => { p with output := p.output ++ [out text] }
          | .error e =>
            match refusal with
            | .abort =>
              { output := p.output ++ (if 1 < number then [out ""] else []) ++ [i.complaint e]
                isClean := false, goesOn := false }
            | .ignore => { p with output := p.output ++ [out text], isClean := false }
            | _ =>
              { p with output := p.output ++ [i.complaint e, out text], isClean := false }) p
    if p.goesOn then { p with output := p.output ++ [(false, Text.encode ending)] } else p

/-- The options of `numfmt`. -/
def knowledge : Knowledge where
  alone := "gzDV"
  valued := "dftrFTpskmi"
  optional := "h"
  long := [("from", 'f'), ("from-unit", 'F'), ("to", 't'), ("to-unit", 'T'), ("round", 'r'),
    ("padding", 'p'), ("suffix", 's'), ("grouping", 'g'), ("delimiter", 'd'), ("field", 'k'),
    ("debug", 'D'), ("header", 'h'), ("format", 'm'), ("invalid", 'i'), ("zero-terminated", 'z')]

/-- The program `numfmt`. -/
def run (i : Invocation) : Ended :=
  i.withOptions knowledge fun o =>
    let order := do
      let order ← orderOf o
      let refusal ← chosen "invalid" refusals ((o.value? 'i').getD "abort")
      let header ← match o.value? 'h' with
        | none => pure 0
        | some "" => pure 1
        | some text =>
          match Number.natural? text with
          | some n =>
            if n = 0 then throw ["invalid header value " ++ Options.quoted text] else pure n
          | none => throw ["invalid header value " ++ Options.quoted text]
      pure (order, refusal, header)
    match order with
    | .error [] => i.ends 1
    | .error (text :: more) =>
      { i.ends 1 with
        output := i.complaint text :: more.map fun t => (true, Text.encode (t ++ "\n")) }
    | .ok (order, refusal, header) =>
      let ending := if o.has 'z' then "\x00" else "\n"
      let p : Progress :=
        if o.words.isEmpty then
          let (lines, isWhole) := Bytes.linesBy (if o.has 'z' then '\x00' else '\n')
            (Bytes.chars i.input)
          let texts := lines.map Bytes.widen
          let start : Progress :=
            { output := (texts.take header).map fun t => (false, Text.encode (t ++ ending)) }
          let lastEnding := if isWhole then ending else ""
          let body := texts.drop header
          let p := body.dropLast.foldl (line i order refusal ending) start
          (body.drop (body.length - 1)).foldl (line i order refusal lastEnding) p
        else o.words.foldl (line i order refusal ending) {}
      let fails := !p.isClean && (refusal = .abort || refusal = .fail)
      { i.ends (if fails then 2 else 0) with
        output := p.output, taken := if o.words.isEmpty then i.input.length else 0 }

end Magnitude

end Fleet.Shell

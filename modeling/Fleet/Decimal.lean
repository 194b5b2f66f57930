namespace Fleet.Decimal

/-! # Decimal numbers

Reading a decimal number to the nearest double, and writing a double with the fewest digits that
read back as the same double.  A number is written without an exponent, and with at least one digit
on each side of the point.
-/

/-- A number in decimal notation: `digits · 10 ^ exponent`. -/
structure Notation where
  negative : Bool
  digits : Nat
  exponent : Int

/-- The value of a run of digits. -/
def natOf (digits : List Char) : Nat :=
  digits.foldl (fun n d => n * 10 + (d.toNat - '0'.toNat)) 0

/-- Reads an exponent: nothing, or `e` with a number behind it. -/
def exponent? : List Char → Option Int
  | [] => some 0
  | e :: rest =>
    if e != 'e' && e != 'E' then none
    else
      let (negative, digits) : Bool × List Char := match rest with
        | '-' :: ds => (true, ds)
        | '+' :: ds => (false, ds)
        | ds => (false, ds)
      if digits.isEmpty || !digits.all Char.isDigit then none
      else some (if negative then -(natOf digits : Int) else natOf digits)

/-- Reads `12`, `1.5`, `.5`, `5.`, each perhaps with a sign and an exponent. -/
def parse? (text : List Char) : Option Notation :=
  let (negative, body) : Bool × List Char := match text with
    | '-' :: rest => (true, rest)
    | '+' :: rest => (false, rest)
    | rest => (false, rest)
  let whole := body.takeWhile Char.isDigit
  let afterWhole := body.dropWhile Char.isDigit
  let (fraction, afterFraction) : List Char × List Char := match afterWhole with
    | '.' :: rest => (rest.takeWhile Char.isDigit, rest.dropWhile Char.isDigit)
    | rest => ([], rest)
  if whole.isEmpty && fraction.isEmpty then none
  else (exponent? afterFraction).map fun e =>
    ⟨negative, natOf (whole ++ fraction), e - fraction.length⟩

/-- The nearest double; none if it is past the largest one. -/
def Notation.toFloat? (n : Notation) : Option Float :=
  let size := (Nat.toDigits 10 n.digits).length + n.exponent
  let magnitude :=
    if n.digits = 0 || size < -400 then (0 : Float)
    else if 400 < size then (1 : Float) / 0
    else Float.ofScientific n.digits (n.exponent < 0) n.exponent.natAbs
  if magnitude.isFinite then some (if n.negative then -magnitude else magnitude) else none

/-- A positive double as `mantissa · 2 ^ exponent`. -/
structure Binary where
  mantissa : Nat
  exponent : Int

/-- Takes a double apart; the sign is dropped. -/
def Binary.ofFloat (x : Float) : Binary :=
  let bits : Nat := x.toBits.toNat % Nat.pow 2 63
  let field : Nat := bits / Nat.pow 2 52
  let fraction : Nat := bits % Nat.pow 2 52
  if field = 0 then ⟨fraction, -1074⟩ else ⟨Nat.pow 2 52 + fraction, (field : Int) - 1075⟩

/-- The least `t` from `start` on with `numerator / denominator < 10 ^ t`, among `n` of them. -/
def magnitudeFrom (numerator denominator : Nat) : Nat → Int → Int
  | 0, t => t
  | n + 1, t =>
    let below := if 0 ≤ t then numerator < denominator * Nat.pow 10 t.toNat
      else numerator * Nat.pow 10 (-t).toNat < denominator
    if below then t else magnitudeFrom numerator denominator n (t + 1)

/-- The decimal of the fewest digits that rounds to the number, and of those the nearest to it, as
digits and an exponent of ten. -/
def shortest (b : Binary) : Nat × Int :=
  -- all numbers are compared as fractions of `denominator`, four of it to one unit of the last bit
  let up := Nat.pow 2 b.exponent.toNat
  let denominator := 4 * Nat.pow 2 (-b.exponent).toNat
  let numerator := 4 * b.mantissa * up
  -- the neighbour below a power of two is only half as far away
  let low := numerator - (if b.mantissa = Nat.pow 2 52 && -1074 < b.exponent then 1 else 2) * up
  let high := numerator + 2 * up
  -- the ends of the interval round to the number if its last bit is zero
  let even := b.mantissa % 2 = 0
  let t := magnitudeFrom numerator denominator 700 (-330)
  let scaled (x : Nat) (p : Int) : Nat × Nat :=
    if 0 ≤ p then (x * Nat.pow 10 p.toNat * denominator, 1)
    else (x * denominator, Nat.pow 10 (-p).toNat)
  let rounds (x : Nat) (p : Int) : Bool :=
    let (value, scale) := scaled x p
    if even then low * scale ≤ value && value ≤ high * scale
    else low * scale < value && value < high * scale
  let distance (x : Nat) (p : Int) : Nat :=
    let (value, scale) := scaled x p
    (value - numerator * scale) + (numerator * scale - value)
  let candidate (k : Nat) : Option (Nat × Int) :=
    let p := t - k
    let x := if 0 ≤ p then numerator / (denominator * Nat.pow 10 p.toNat)
      else numerator * Nat.pow 10 (-p).toNat / denominator
    match rounds x p, rounds (x + 1) p with
    | true, true =>
      if distance x p < distance (x + 1) p || (distance x p = distance (x + 1) p && x % 2 = 0)
      then some (x, p) else some (x + 1, p)
    | true, false => some (x, p)
    | false, true => some (x + 1, p)
    | false, false => none
  ((List.range 17).findSome? fun k => candidate (k + 1)).getD (b.mantissa, 0)

/-- Digits and an exponent of ten without exponent, with a point. -/
def positional (digits : Nat) (exponent : Int) : List Char :=
  let ds := Nat.toDigits 10 digits
  if 0 ≤ exponent then ds ++ List.replicate exponent.toNat '0' ++ ['.', '0']
  else
    let places := (-exponent).toNat
    let ds := List.replicate (places + 1 - ds.length) '0' ++ ds
    ds.take (ds.length - places) ++ '.' :: ds.drop (ds.length - places)

/-- A finite double, written so that it reads back. -/
def ofFloat (x : Float) : String :=
  let b := Binary.ofFloat x
  let body := if b.mantissa = 0 then ['0', '.', '0'] else
    let (digits, exponent) := shortest b
    if digits % 10 = 0 then positional (digits / 10) (exponent + 1)
    else positional digits exponent
  String.ofList (if x.toBits.toNat < Nat.pow 2 63 then body else '-' :: body)

end Fleet.Decimal

import Fleet.Shell.Number

namespace Fleet.Shell

/-! # Numbers with a point

Numbers with a point or an exponent, as they are read and as they are written.  A number is kept as
a whole number times a power of two, with as many bits as the machine keeps; what is written is the
decimal nearest to it, and of two that are equally near the even one.
-/

/-- How many bits of a number are kept, and how large it can be. -/
structure Width where
  bits : Nat
  /-- numbers from two to this power on are infinite -/
  top : Int
  /-- the power of two of the last bit of the smallest number -/
  bottom : Int
  /-- how many bits stand before the point when the number is written in base sixteen -/
  lead : Nat

/-- The width of a word. -/
def Width.double : Width := ⟨53, 1024, -1074, 1⟩

/-- The width of a long word. -/
def Width.extended : Width := ⟨64, 16384, -16445, 4⟩

/-- A number with a point: a whole number times a power of two. -/
inductive Floating where
  | finite (negative : Bool) (magnitude : Nat) (power : Int)
  | infinite (negative : Bool)
  | undefined (negative : Bool)
  deriving DecidableEq, Repr

namespace Floating

/-- The whole number nearest to a fraction; of two that are equally near the even one. -/
def nearest (a b : Nat) : Nat :=
  let q := a / b
  let r := a % b
  if 2 * r < b then q
  else if b < 2 * r then q + 1
  else if q % 2 = 0 then q else q + 1

/-- A number times a power of ten or two, as a fraction. -/
def scaled (base a b : Nat) (power : Int) : Nat × Nat :=
  match power with
  | .ofNat n => (a * Nat.pow base n, b)
  | .negSucc n => (a, b * Nat.pow base (n + 1))

/-- The number of bits of a number. -/
def bitLength (n : Nat) : Nat := if n = 0 then 0 else Nat.log2 n + 1

/-- The number nearest to a fraction that the width has room for, and whether there is one. -/
def ofFraction (w : Width) (negative : Bool) (a b : Nat) : Floating × Bool :=
  if a = 0 then (finite negative 0 0, true)
  else
    -- the fraction lies between two to the power of `guess - 1` and of `guess + 1`
    let guess : Int := (bitLength a : Int) - (bitLength b : Int)
    let power := max w.bottom (guess - (w.bits : Int) + 1)
    let take (power : Int) : Nat := let (x, y) := scaled 2 a b (-power); nearest x y
    let first := take (power - 1)
    let power := if bitLength first ≤ w.bits && w.bottom ≤ power - 1 then power - 1 else power
    let m := take power
    if w.top < (bitLength m : Int) + power then (infinite negative, false)
    else (finite negative m power, true)

/-- Digits with a point among them: the number without the point, how many digits stand behind it,
and what is left. -/
def pointed (base : Nat) (cs : List Char) : Option (Nat × Nat × List Char) :=
  let isDigit (c : Char) : Bool := (Number.digit? base c).isSome
  let whole := cs.takeWhile isDigit
  let rest := cs.drop whole.length
  let (part, rest) := match rest with
    | '.' :: more =>
      let part := more.takeWhile isDigit
      if whole.isEmpty && part.isEmpty then ([], rest) else (part, more.drop part.length)
    | rest => ([], rest)
  if whole.isEmpty && part.isEmpty then none
  else
    let digits := whole ++ part
    some ((Number.takeDigits base digits.length 0 digits).1, part.length, rest)

/-- An exponent behind one of two letters, if there is one. -/
def exponent (small : Char) (cs : List Char) : Int × List Char :=
  match cs with
  | c :: rest =>
    if c.toLower != small then (0, cs)
    else
      let (negative, digits) := match rest with
        | '-' :: digits => (true, digits)
        | '+' :: digits => (false, digits)
        | digits => (false, digits)
      let used := digits.takeWhile Char.isDigit
      if used.isEmpty then (0, cs)
      else
        -- larger exponents make no difference
        let n : Int := min 99999 (Number.takeDigits 10 used.length 0 used).1
        (if negative then -n else n, digits.drop used.length)
  | [] => (0, [])

/-- A text begins with a word, whatever the case of its letters. -/
def beginsWith (word : String) (cs : List Char) : Bool :=
  word.toList.isPrefixOf (cs.map Char.toLower)

/-- Reads a number at the start of a text, behind blanks: the number, whether the width has room for
it, and what is left. -/
def read? (w : Width) (text : List Char) : Option (Floating × Bool × List Char) :=
  let (negative, cs) := match text.dropWhile Number.isBlank with
    | '-' :: rest => (true, rest)
    | '+' :: rest => (false, rest)
    | rest => (false, rest)
  if beginsWith "infinity" cs then some (infinite negative, true, cs.drop 8)
  else if beginsWith "inf" cs then some (infinite negative, true, cs.drop 3)
  else if beginsWith "nan" cs then some (undefined negative, true, cs.drop 3)
  else
    let decimal : Option (Floating × Bool × List Char) := do
      let (n, behind, rest) ← pointed 10 cs
      let (e, rest) := exponent 'e' rest
      let (a, b) := scaled 10 n 1 (e - (behind : Int))
      let (f, fits) := ofFraction w negative a b
      return (f, fits, rest)
    match cs with
    | '0' :: x :: rest =>
      if x == 'x' || x == 'X' then
        match pointed 16 rest with
        | some (n, behind, rest) =>
          let (e, rest) := exponent 'p' rest
          let (a, b) := scaled 2 n 1 (e - 4 * (behind : Int))
          let (f, fits) := ofFraction w negative a b
          some (f, fits, rest)
        | none => decimal
      else decimal
    | _ => decimal

/-! ## Writing -/

/-- Decimal digits, at least `least` of them. -/
def digits (least n : Nat) : List Char :=
  let ds := (toString n).toList
  List.replicate (least - ds.length) '0' ++ ds

/-- A number with `places` digits behind the point; `mark` keeps a point with nothing behind it. -/
def fixed (places : Nat) (mark : Bool) (m : Nat) (power : Int) : List Char :=
  let (a, b) := scaled 2 m 1 power
  let ds := digits (places + 1) (nearest (a * Nat.pow 10 places) b)
  let whole := ds.take (ds.length - places)
  let part := ds.drop (ds.length - places)
  whole ++ if part.isEmpty && !mark then [] else '.' :: part

/-- The decimal exponent of a fraction: the power of ten that it is at least. -/
def decimalExponent (a b : Nat) : Int :=
  let guess : Int := ((toString a).length : Int) - ((toString b).length : Int)
  let (x, y) := scaled 10 a b (-guess)
  if x < y then guess - 1 else guess

/-- The digits of a number, one before the point and `places` behind it, and its exponent. -/
def scientificDigits (places m : Nat) (power : Int) : List Char × Int :=
  if m = 0 then (List.replicate (places + 1) '0', 0)
  else
    let (a, b) := scaled 2 m 1 power
    let e := decimalExponent a b
    let (x, y) := scaled 10 a b ((places : Int) - e)
    let ds := (toString (nearest x y)).toList
    if ds.length = places + 1 then (ds, e) else (ds.take (places + 1), e + 1)

/-- An exponent with a sign. -/
def signed (least : Nat) (e : Int) : List Char :=
  (if e < 0 then '-' else '+') :: digits least e.natAbs

/-- A number with an exponent. -/
def scientific (places : Nat) (mark : Bool) (m : Nat) (power : Int) : List Char :=
  let (ds, e) := scientificDigits places m power
  ds.take 1 ++ (if places = 0 && !mark then [] else '.' :: ds.drop 1) ++ 'e' :: signed 2 e

/-- Digits without the zeros at the end, and without a point that nothing stands behind. -/
def withoutZeros (cs : List Char) : List Char :=
  if cs.contains '.' then
    let kept := (cs.reverse.dropWhile (· == '0')).reverse
    if kept.getLast? == some '.' then kept.dropLast else kept
  else cs

/-- A number with so many digits altogether, with an exponent only if it is far from one. -/
def general (count : Nat) (mark : Bool) (m : Nat) (power : Int) : List Char :=
  let count := max 1 count
  let (ds, e) := scientificDigits (count - 1) m power
  if -4 ≤ e && e < (count : Int) then
    let text := fixed ((count : Int) - 1 - e).toNat mark m power
    if mark then text else withoutZeros text
  else
    let body := ds.take 1 ++ (if count = 1 && !mark then [] else '.' :: ds.drop 1)
    (if mark then body else withoutZeros body) ++ 'e' :: signed 2 e

/-- A number in base sixteen. -/
def hexadecimal (w : Width) (places : Option Nat) (mark : Bool) (m : Nat) (power : Int) :
    List Char :=
  let write (lead : Nat) (part : List Char) (e : Int) : List Char :=
    '0' :: 'x' :: Nat.toDigits 16 lead ++ (if part.isEmpty && !mark then [] else '.' :: part) ++
      'p' :: signed 1 e
  if m = 0 then write 0 (List.replicate (places.getD 0) '0') 0
  else
    let length := bitLength m
    -- the bits behind the point fill whole digits
    let behind := (w.bits - w.lead + 3) / 4 * 4
    let m := m * Nat.pow 2 (behind + w.lead - length)
    let e := power - ((behind + w.lead - length : Nat) : Int) + (behind : Int)
    let m := match places with
      | some p =>
        if 4 * p < behind then
          nearest m (Nat.pow 2 (behind - 4 * p)) * Nat.pow 2 (behind - 4 * p)
        else m
      | none => m
    let lead := m / Nat.pow 2 behind
    let ds := Nat.toDigits 16 (m % Nat.pow 2 behind)
    let part := List.replicate (behind / 4 - ds.length) '0' ++ ds
    let part := match places with
      | some p => part.take p ++ List.replicate (p - part.length) '0'
      | none => (part.reverse.dropWhile (· == '0')).reverse
    write lead part e

/-- The number has a sign. -/
def isNegative : Floating → Bool
  | finite negative _ _ | infinite negative | undefined negative => negative

/-- It is neither infinite nor undefined. -/
def isFinite : Floating → Bool
  | finite _ _ _ => true
  | _ => false

/-- A number as a conversion writes it, without its sign. -/
def text (w : Width) (conversion : Char) (precision : Option Nat) (mark : Bool) :
    Floating → List Char
  | infinite _ => ['i', 'n', 'f']
  | undefined _ => ['n', 'a', 'n']
  | finite _ m power =>
    match conversion.toLower with
    | 'f' => fixed (precision.getD 6) mark m power
    | 'e' => scientific (precision.getD 6) mark m power
    | 'a' => hexadecimal w precision mark m power
    | _ => general (precision.getD 6) mark m power

end Floating

end Fleet.Shell

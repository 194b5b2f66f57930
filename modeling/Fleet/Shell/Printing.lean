import Fleet.Calendar.Form
import Fleet.Shell.Floating
import Fleet.Shell.Quotation
import Fleet.Text.Utf8

namespace Fleet.Shell

/-! # Formatted output

What `echo` and `printf` write: bytes, which a backslash and a few characters behind it can name.
The commands of the shells and the programs of the same names differ in details.
-/

namespace Printing

/-- What writes: a command of a shell, a command of an extended shell, or a program. -/
inductive Writer where
  | shell
  | extended
  | program
  deriving DecidableEq, Repr

/-- What a backslash and the characters behind it say. -/
inductive Escape where
  | bytes (bs : List UInt8)
  /-- nothing more is written -/
  | stop
  /-- a backslash that says nothing -/
  | plain
  deriving DecidableEq, Repr

/-- The escapes of one character. -/
def oneCharacter? (c : Char) : Option UInt8 :=
  [('a', 7), ('b', 8), ('e', 27), ('f', 12), ('n', 10), ('r', 13), ('t', 9), ('v', 11),
    ('\\', 92)].lookup c

/-- Where a backslash stands: in a text in which up to three octal digits stand behind a zero, or in
a format; and for what writes. -/
structure Spot where
  inText : Bool
  writer : Writer

/-- A character of a number in base sixteen, behind a letter.  A shell that knows such characters
writes only the first of them. -/
def named (writer : Writer) (letter : Char) (most : Nat) (cs : List Char) :
    Option (List UInt8 × List Char) :=
  let ds := (cs.take most).takeWhile fun c => (Number.digit? 16 c).isSome
  let n := (Number.takeDigits 16 ds.length 0 ds).1
  let rest := cs.drop ds.length
  match writer with
  | .shell => none
  | .program =>
    if ds.length < most then none else some (Text.encode (Char.ofNat n).toString, rest)
  | .extended =>
    if ds.isEmpty then none
    else if n < 128 then some ([UInt8.ofNat n], rest)
    else
      let digits := (Nat.toDigits 16 n).map Char.toUpper
      let zeros := List.replicate (most - digits.length) '0'
      some (Text.encode (String.ofList ('\\' :: letter :: zeros ++ digits)), rest)

/-- Reads what stands behind a backslash. -/
def escape (p : Spot) (cs : List Char) : Escape × List Char :=
  match cs with
  | [] => (.plain, [])
  | c :: rest =>
    let octal : Escape × List Char :=
      if (Number.digit? 8 c).isSome then
        let (value, rest) := Number.takeDigits 8 3 0 (if p.inText && c == '0' then rest else cs)
        (.bytes [UInt8.ofNat value], rest)
      else (.plain, cs)
    let isPlainShell := p.writer == .shell
    match c with
    | 'c' => if p.inText || p.writer == .program then (.stop, rest) else (.plain, cs)
    | '"' => if isPlainShell || p.inText then (.plain, cs) else (.bytes [34], rest)
    | '\'' => if p.writer == .extended && !p.inText then (.bytes [39], rest) else (.plain, cs)
    | '?' => if p.writer == .extended && !p.inText then (.bytes [63], rest) else (.plain, cs)
    | 'E' => if p.writer == .extended then (.bytes [27], rest) else (.plain, cs)
    | 'x' =>
      if !isPlainShell && (rest.head?.any fun c => (Number.digit? 16 c).isSome) then
        let (value, rest) := Number.takeDigits 16 2 0 rest
        (.bytes [UInt8.ofNat value], rest)
      else (.plain, cs)
    | 'u' =>
      match named p.writer 'u' 4 rest with
      | some (bs, rest) => (.bytes bs, rest)
      | none => (.plain, cs)
    | 'U' =>
      match named p.writer 'U' 8 rest with
      | some (bs, rest) => (.bytes bs, rest)
      | none => (.plain, cs)
    | _ =>
      match oneCharacter? c with
      | some b => (.bytes [b], rest)
      | none => octal

/-- The bytes of a text with escapes, and whether writing goes on after it; `n` bounds its
length. -/
def unescapeFrom (p : Spot) : Nat → List Char → List UInt8 × Bool
  | 0, _ => ([], true)
  | _, [] => ([], true)
  | n + 1, '\\' :: rest =>
    match escape p rest with
    | (.bytes bs, rest) => let (more, on) := unescapeFrom p n rest; (bs ++ more, on)
    | (.plain, rest) => let (more, on) := unescapeFrom p n rest; (92 :: more, on)
    | (.stop, _) => ([], false)
  | n + 1, c :: rest =>
    let (more, on) := unescapeFrom p n rest
    (Text.encode c.toString ++ more, on)

/-- The bytes of a text with escapes, and whether writing goes on after it. -/
def unescape (writer : Writer) (text : String) : List UInt8 × Bool :=
  unescapeFrom ⟨true, writer⟩ text.length text.toList

/-- What the command of the shell writes: every escape is read. -/
def echo : List String → List UInt8
  | "-n" :: args => (unescape .shell (" ".intercalate args)).1
  | args =>
    match unescape .shell (" ".intercalate args) with
    | (bytes, true) => bytes ++ [10]
    | (bytes, false) => bytes

/-- The bytes of a text in which octal numbers have a zero in front. -/
def unescapeStrictly (text : String) : List UInt8 × Bool :=
  unescape .extended (String.ofList (doubled text.length text.toList))
where
  /-- Backslashes in front of other digits stand for themselves. -/
  doubled : Nat → List Char → List Char
    | 0, _ => []
    | _, [] => []
    | n + 1, '\\' :: c :: rest =>
      if '1' ≤ c && c ≤ '7' then '\\' :: '\\' :: c :: doubled n rest
      else '\\' :: c :: doubled n rest
    | n + 1, c :: rest => c :: doubled n rest

/-- What the program writes, and the command of an extended shell: escapes are read only if `-e`
asks for it. -/
def echoProgram (writer : Writer) (args : List String) : List UInt8 :=
  let isFlag (arg : String) : Bool :=
    match arg.toList with
    | '-' :: c :: rest => (c :: rest).all fun c => ['n', 'e', 'E'].contains c
    | _ => false
  let flags := (args.takeWhile isFlag).flatMap fun arg => arg.toList.drop 1
  let text := " ".intercalate (args.dropWhile isFlag)
  let escapes := (flags.filter fun c => c != 'n').getLast? == some 'e'
  let (bytes, on) :=
    if !escapes then (Text.encode text, true)
    else if writer == .extended then unescapeStrictly text
    else unescape writer text
  bytes ++ if on && !flags.contains 'n' then [10] else []

/-! ## Formats -/

/-- A directive of a format. -/
structure Directive where
  left : Bool := false
  zeros : Bool := false
  sign : Bool := false
  gap : Bool := false
  mark : Bool := false
  width : Option Nat := none
  precision : Option Nat := none
  conversion : Char := 's'
  /-- how a point in time is written -/
  form : String := ""

/-- A piece of a format. -/
inductive Piece where
  | bytes (bs : List UInt8)
  | directive (d : Directive) (widthArg precisionArg : Bool)
  | bad (text : String)
  /-- nothing more is written -/
  | stop

/-- Reads the flags of a directive. -/
def flags : Directive → List Char → Directive × List Char
  | d, '-' :: rest => flags { d with left := true } rest
  | d, '0' :: rest => flags { d with zeros := true } rest
  | d, '+' :: rest => flags { d with sign := true } rest
  | d, ' ' :: rest => flags { d with gap := true } rest
  | d, '#' :: rest => flags { d with mark := true } rest
  | d, rest => (d, rest)

/-- Reads a number, or the star that stands for an argument. -/
def count (cs : List Char) : Option Nat × Bool × List Char :=
  match cs with
  | '*' :: rest => (none, true, rest)
  | _ =>
    let digits := cs.takeWhile Char.isDigit
    if digits.isEmpty then (none, false, cs)
    else (some (Number.takeDigits 10 digits.length 0 digits).1, false, cs.drop digits.length)

/-- The conversions. -/
def conversions (writer : Writer) : List Char :=
  ['s', 'b', 'c', 'd', 'i', 'u', 'o', 'x', 'X', 'f', 'F', 'e', 'E', 'g', 'G', 'a', 'A'] ++
    match writer with
    | .shell => []
    | .program => ['q']
    | .extended => ['q', 'Q', 'T']

/-- The conversions of the program that are written as they stand, without a width. -/
def isPlain (writer : Writer) (d : Directive) : Bool :=
  if writer != .program then false
  else match d.conversion with
    | 'b' | 'q' => d.left || d.zeros || d.sign || d.gap || d.mark || d.width.isSome ||
        d.precision.isSome
    | 's' | 'c' => d.zeros || d.mark || (d.conversion == 'c' && d.precision.isSome)
    | _ => false

/-- Reads a directive behind its `%`. -/
def directive (writer : Writer) (cs : List Char) : Piece × List Char :=
  let (d, rest) := flags {} cs
  let (width, widthArg, rest) := count rest
  let (precision, precisionArg, rest) := match rest with
    | '.' :: rest =>
      let (p, star, rest) := count rest
      (some (p.getD 0), star, rest)
    | rest => (none, false, rest)
  let rest := if writer == .shell then rest
    else rest.dropWhile fun c => ['h', 'l', 'L', 'j', 't', 'z'].contains c
  let (form, rest) := match writer, rest with
    | .extended, '(' :: inside =>
      let form := inside.takeWhile (· != ')')
      match inside.drop form.length with
      | ')' :: 'T' :: after => (String.ofList form, 'T' :: after)
      | _ => ("", rest)
    | _, rest => ("", rest)
  let read (rest : List Char) : String :=
    "%" ++ String.ofList (cs.take (cs.length - rest.length))
  match rest with
  | [] =>
    (.bad (match writer with
      | .shell => "missing format character"
      | .extended => "\x60" ++ read [] ++ "': missing format character"
      | .program => read [] ++ ": invalid conversion specification"), [])
  | c :: after =>
    let d := { d with width, precision, conversion := c, form }
    if (conversions writer).contains c && !isPlain writer d then
      (.directive d widthArg precisionArg, after)
    else
      (.bad (match writer with
        | .shell => read after ++ ": invalid directive"
        | .extended => "\x60" ++ c.toString ++ "': invalid format character"
        | .program => read after ++ ": invalid conversion specification"), after)

/-- Reads a format; `n` bounds its length. -/
def piecesFrom (writer : Writer) : Nat → List Char → List Piece
  | 0, _ => []
  | _, [] => []
  | n + 1, '%' :: '%' :: rest => .bytes [37] :: piecesFrom writer n rest
  | n + 1, '%' :: rest =>
    let (piece, rest) := directive writer rest
    piece :: piecesFrom writer n rest
  | n + 1, '\\' :: rest =>
    match escape ⟨false, writer⟩ rest with
    | (.bytes bs, rest) => .bytes bs :: piecesFrom writer n rest
    | (.plain, rest) => .bytes [92] :: piecesFrom writer n rest
    | (.stop, _) => [.stop]
  | n + 1, c :: rest => .bytes (Text.encode c.toString) :: piecesFrom writer n rest

/-- Reads a format. -/
def pieces (writer : Writer) (format : String) : List Piece :=
  piecesFrom writer format.length format.toList

/-- What is wrong with an argument. -/
def complaint? (writer : Writer) (arg : String) (found fits : Bool) (rest : List Char) :
    Option String :=
  let name := if writer == .program then "'" ++ arg ++ "'" else arg
  if arg.isEmpty then none
  else if !found then
    some (name ++ match writer with
      | .shell => ": expected numeric value"
      | .extended => ": invalid number"
      | .program => ": expected a numeric value")
  else if !rest.isEmpty then
    some (name ++ match writer with
      | .shell => ": not completely converted"
      | .extended => ": invalid number"
      | .program => ": value not completely converted")
  else if !fits then
    some ((if writer == .extended then "warning: " else "") ++ name ++
      ": Numerical result out of range")
  else none

/-- The number of the character behind a quotation mark. -/
def characterCode (writer : Writer) (c : Char) : Nat :=
  if writer == .program then c.toNat else ((Text.encode c.toString).headD 0).toNat

/-- The whole number that an argument stands for, and what is wrong with it. -/
def number (writer : Writer) (isSigned : Bool) (arg : String) : Int × Option String :=
  match arg.toList with
  | '\'' :: c :: _ | '"' :: c :: _ => (characterCode writer c, none)
  | cs =>
    match Number.read? 0 cs with
    | none => (0, complaint? writer arg false true [])
    | some (n, rest) =>
      let top : Int := if isSigned then Number.largest else 18446744073709551615
      let low : Int := if isSigned then Number.smallest else -top
      let v := max low (min top n)
      (v, complaint? writer arg true (v == n) rest)

/-- The number with a point that an argument stands for, and what is wrong with it. -/
def floating (writer : Writer) (arg : String) : Floating × Option String :=
  let width := if writer == .shell then Width.double else Width.extended
  match arg.toList with
  | '\'' :: c :: _ | '"' :: c :: _ => (.finite false (characterCode writer c) 0, none)
  | cs =>
    match Floating.read? width cs with
    | none => (.finite false 0 0, complaint? writer arg false true [])
    | some (f, fits, rest) => (f, complaint? writer arg true fits rest)

/-- Fills bytes up to a width. -/
def pad (left : Bool) (width : Nat) (bytes : List UInt8) : List UInt8 :=
  let fill := List.replicate (width - bytes.length) 32
  if left then bytes ++ fill else fill ++ bytes

/-- The digits of a number, at least `least` of them. -/
def digits (base least n : Nat) (upper : Bool) : List Char :=
  let ds := (Nat.toDigits base n).map fun c => if upper then c.toUpper else c
  let ds := if n = 0 && least = 0 then [] else ds
  List.replicate (least - ds.length) '0' ++ ds

/-- The sign in front of a number. -/
def signText (d : Directive) (negative : Bool) : String :=
  if negative then "-" else if d.sign then "+" else if d.gap then " " else ""

/-- The bytes of a whole number. -/
def numberBytes (d : Directive) (value : Int) : List UInt8 :=
  let wide := Number.unsigned value
  let (lead, base, magnitude) : String × Nat × Nat :=
    match d.conversion with
    | 'o' => ("", 8, wide)
    | 'x' => (if d.mark && wide != 0 then "0x" else "", 16, wide)
    | 'X' => (if d.mark && wide != 0 then "0X" else "", 16, wide)
    | 'u' => ("", 10, wide)
    | _ => (signText d (value < 0), 10, value.natAbs)
  let least := match d.precision with
    | some p => p
    | none => max 1 (if d.zeros && !d.left then d.width.getD 0 - lead.length else 1)
  let ds := digits base least magnitude (d.conversion == 'X')
  let ds := if d.conversion == 'o' && d.mark && ds.head? != some '0' then '0' :: ds else ds
  pad d.left (d.width.getD 0) (Text.encode (lead ++ String.ofList ds))

/-- The bytes of a number with a point. -/
def floatingBytes (writer : Writer) (d : Directive) (f : Floating) : List UInt8 :=
  let width := if writer == .shell then Width.double else Width.extended
  let lead := signText d f.isNegative
  let body := f.text width d.conversion d.precision d.mark
  let body := if d.conversion.isUpper then body.map Char.toUpper else body
  let room := d.width.getD 0 - lead.length - body.length
  let zeros := if d.zeros && !d.left && f.isFinite then List.replicate room '0' else []
  -- the zeros stand behind the sign of base sixteen
  let (sign, body) :=
    if d.conversion.toLower == 'a' && f.isFinite then body.splitAt 2 else ([], body)
  pad d.left (d.width.getD 0) (Text.encode (lead ++ String.ofList (sign ++ zeros ++ body)))

/-- The bytes of a directive for an argument, what is wrong with it, and whether writing goes on. -/
def directiveBytes (writer : Writer) (d : Directive) (arg : String) :
    List UInt8 × Option String × Bool :=
  let cut (bytes : List UInt8) : List UInt8 := match d.precision with
    | some p => bytes.take p
    | none => bytes
  let width := d.width.getD 0
  match d.conversion with
  | 's' => (pad d.left width (cut (Text.encode arg)), none, true)
  | 'b' =>
    let (bytes, on) := unescape writer arg
    (pad d.left width (cut bytes), none, on)
  | 'c' =>
    let first := (Text.encode arg).take 1
    (pad d.left width (if first.isEmpty then [0] else first), none, true)
  | 'T' =>
    let moment : Moment := match Number.ofText? 10 arg with
      | some n => if n < 0 then .now else ⟨n, 0⟩
      | none => .now
    let form := if d.form.isEmpty then "%H:%M:%S" else d.form
    let text := Calendar.write {} moment form
    (pad d.left width (cut (Text.encode text)), none, true)
  | 'Q' => (pad d.left width (Text.encode (Quotation.word arg)), none, true)
  | 'q' =>
    if writer == .extended then (pad d.left width (Text.encode (Quotation.word arg)), none, true)
    else
    let isPlain (c : Char) : Bool :=
      c.isAlphanum || ['%', '+', ',', '-', '.', '/', ':', '@', '_'].contains c
    let body := if !arg.isEmpty && arg.toList.all isPlain then arg
      else "'" ++ String.ofList (arg.toList.flatMap fun c =>
        if c == '\'' then ['\'', '\\', '\'', '\''] else [c]) ++ "'"
    (Text.encode body, none, true)
  | c =>
    if c == 'd' || c == 'i' then
      let (value, bad) := number writer true arg
      (numberBytes d value, bad, true)
    else if ['u', 'o', 'x', 'X'].contains c then
      let (value, bad) := number writer false arg
      (numberBytes d value, bad, true)
    else
      let (value, bad) := floating writer arg
      (floatingBytes writer d value, bad, true)

/-- What has been written so far. -/
structure Written where
  bytes : List (List UInt8) := []
  args : List String
  /-- what is wrong with arguments, latest first -/
  bad : List String := []
  /-- what is wrong with the format -/
  broken : Option String := none
  on : Bool := true

/-- Takes an argument. -/
def Written.take (w : Written) : String × Written :=
  (w.args.headD "", { w with args := w.args.tail })

/-- Writes one piece. -/
def Written.piece (writer : Writer) (w : Written) (p : Piece) : Written :=
  if !w.on then w
  else match p with
  | .bytes bs => { w with bytes := bs :: w.bytes }
  | .bad text => { w with broken := some text, on := false }
  | .stop => { w with on := false }
  | .directive d widthArg precisionArg =>
    let (d, w) :=
      if widthArg then
        let (arg, w) := w.take
        let n := (number writer true arg).1
        ({ d with width := some n.natAbs, left := d.left || n < 0 }, w)
      else (d, w)
    let (d, w) :=
      if precisionArg then
        let (arg, w) := w.take
        let n := (number writer true arg).1
        ({ d with precision := if n < 0 then none else some n.toNat }, w)
      else (d, w)
    let (arg, w) := w.take
    let (bytes, bad, on) := directiveBytes writer d arg
    { w with
      bytes := bytes :: w.bytes
      on
      bad := bad.toList ++ w.bad }

/-- Writes the whole format once, and again as long as there are arguments that it uses. -/
def rounds (writer : Writer) (format : List Piece) : Nat → Written → Written
  | 0, w => w
  | n + 1, w =>
    let after := format.foldl (Written.piece writer) w
    if after.on && !after.args.isEmpty && after.args.length < w.args.length then
      rounds writer format n after
    else after

/-- What `printf` writes; what is left of it are the arguments that were not used. -/
def printf (writer : Writer) (format : String) (args : List String) : Written :=
  let w := rounds writer (pieces writer format) (args.length + 1) { args }
  { w with bytes := w.bytes.reverse, bad := w.bad.reverse }

end Printing

end Fleet.Shell

namespace Fleet.Text

/-! # Bytes and text

Text becomes bytes as UTF-8.  Reading bytes as text never fails here: wherever the bytes stop
being UTF-8, the longest piece that could still have begun a character is read as one replacement
character U+FFFD, and reading goes on after it.

The reader takes one byte at a time and keeps what it has of an unfinished character, so a byte
below 0x80 always stands for itself, whatever came before it.
-/

/-- The bytes of a text. -/
def encode (s : String) : List UInt8 := s.toUTF8.data.toList

/-- The character that stands for bytes that are not UTF-8. -/
def replacement : Char := '\uFFFD'

/-- What has been read of a character that takes several bytes: how many are still to come, the
number made of those before, and the range of the next one. -/
structure Unfinished where
  missing : Nat
  value : Nat
  low : UInt8
  high : UInt8

/-- A reader of bytes: the characters read, latest first, and perhaps part of the next. -/
structure Reader where
  read : List Char := []
  unfinished : Option Unfinished := none

/-- Takes a byte that begins a character, or none. -/
def Reader.begin (r : Reader) (b : UInt8) : Reader :=
  if b < 0x80 then { read := Char.ofNat b.toNat :: r.read }
  else if 0xC2 ≤ b && b ≤ 0xDF then ⟨r.read, some ⟨1, b.toNat - 0xC0, 0x80, 0xBF⟩⟩
  else if b == 0xE0 then ⟨r.read, some ⟨2, 0, 0xA0, 0xBF⟩⟩
  else if b == 0xED then ⟨r.read, some ⟨2, 0xD, 0x80, 0x9F⟩⟩
  else if 0xE1 ≤ b && b ≤ 0xEF then ⟨r.read, some ⟨2, b.toNat - 0xE0, 0x80, 0xBF⟩⟩
  else if b == 0xF0 then ⟨r.read, some ⟨3, 0, 0x90, 0xBF⟩⟩
  else if b == 0xF4 then ⟨r.read, some ⟨3, 4, 0x80, 0x8F⟩⟩
  else if 0xF1 ≤ b && b ≤ 0xF3 then ⟨r.read, some ⟨3, b.toNat - 0xF0, 0x80, 0xBF⟩⟩
  else { read := replacement :: r.read }

/-- Takes one more byte. -/
def Reader.next (r : Reader) (b : UInt8) : Reader :=
  match r.unfinished with
  | none => r.begin b
  | some u =>
    if u.low ≤ b && b ≤ u.high then
      let value := u.value * 64 + (b.toNat - 0x80)
      if u.missing ≤ 1 then { read := Char.ofNat value :: r.read }
      else ⟨r.read, some ⟨u.missing - 1, value, 0x80, 0xBF⟩⟩
    else Reader.begin { read := replacement :: r.read } b

/-- The characters read once no more bytes come. -/
def Reader.finish (r : Reader) : List Char :=
  match r.unfinished with
  | none => r.read.reverse
  | some _ => (replacement :: r.read).reverse

/-- The text of bytes, with replacement characters where they are not UTF-8. -/
def decodeLossy (bytes : List UInt8) : List Char := (bytes.foldl Reader.next {}).finish

/-- The text of bytes that have to be UTF-8 throughout. -/
def decode? (bytes : ByteArray) : Option String := String.fromUTF8? bytes

end Fleet.Text

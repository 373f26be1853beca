/-!
# UTF-8

Characters as sequences of bytes, and back. Bytes that are no character are read as U+FFFD, one for each
longest run that could have begun a character.
-/

namespace SchemaRegistry.Text.Utf8

/-- The bytes of a character. -/
def encode (c : Char) : List Nat :=
  let n := c.toNat
  if n < 0x80 then [n]
  else if n < 0x800 then [0xC0 + n / 0x40, 0x80 + n % 0x40]
  else if n < 0x10000 then [0xE0 + n / 0x1000, 0x80 + n / 0x40 % 0x40, 0x80 + n % 0x40]
  else
    [0xF0 + n / 0x40000, 0x80 + n / 0x1000 % 0x40, 0x80 + n / 0x40 % 0x40, 0x80 + n % 0x40]

/-- The number of bytes of characters. -/
def size (cs : List Char) : Nat := (cs.flatMap encode).length

/-- What a first byte says: the bits it contributes, how many bytes follow, and the bounds of the next. -/
structure Lead where
  bits : Nat
  follow : Nat
  low : Nat
  high : Nat

/-- Reads a first byte of a longer sequence. -/
def lead? (b : Nat) : Option Lead :=
  if 0xC2 ≤ b ∧ b ≤ 0xDF then some ⟨b - 0xC0, 1, 0x80, 0xBF⟩
  else if b = 0xE0 then some ⟨0, 2, 0xA0, 0xBF⟩
  else if b = 0xED then some ⟨0xD, 2, 0x80, 0x9F⟩
  else if 0xE1 ≤ b ∧ b ≤ 0xEF then some ⟨b - 0xE0, 2, 0x80, 0xBF⟩
  else if b = 0xF0 then some ⟨0, 3, 0x90, 0xBF⟩
  else if b = 0xF4 then some ⟨4, 3, 0x80, 0x8F⟩
  else if 0xF1 ≤ b ∧ b ≤ 0xF3 then some ⟨b - 0xF0, 3, 0x80, 0xBF⟩
  else none

/-- The character that stands for bytes that are none. -/
def replacement : Char := '\ufffd'

/-- A sequence that has begun: the bits so far, how many bytes are still to come, and the bounds of the
next. -/
abbrev Pending := Option Lead

/-- Reads bytes after a sequence that may have begun. -/
def decodeFrom : Pending → List Nat → List Char
  | none, [] => []
  | some _, [] => [replacement]
  | none, b :: rest =>
    if b < 0x80 then Char.ofNat b :: decodeFrom none rest
    else
      match lead? b with
      | some lead => decodeFrom (some lead) rest
      | none => replacement :: decodeFrom none rest
  | some p, b :: rest =>
    if p.low ≤ b ∧ b ≤ p.high then
      let bits := p.bits * 0x40 + (b - 0x80)
      if p.follow ≤ 1 then Char.ofNat bits :: decodeFrom none rest
      else decodeFrom (some ⟨bits, p.follow - 1, 0x80, 0xBF⟩) rest
    else if b < 0x80 then replacement :: Char.ofNat b :: decodeFrom none rest
    else
      match lead? b with
      | some lead => replacement :: decodeFrom (some lead) rest
      | none => replacement :: replacement :: decodeFrom none rest

/-- The characters of bytes. -/
def decode (bytes : List Nat) : List Char := decodeFrom none bytes

/-- The characters of bytes, if nothing has to be replaced: the bytes are just those of the characters. -/
def decodeStrict? (bytes : List Nat) : Option (List Char) :=
  let cs := decode bytes
  if cs.flatMap encode = bytes then some cs else none

end SchemaRegistry.Text.Utf8

import SchemaRegistry.Text.Utf8

/-!
# The encoding of JSON bytes

JSON may come in UTF-8, UTF-16 or UTF-32. Which of them is told by where its first bytes are zero: the first
characters of JSON are ASCII. `Encoding.decode?` reads the characters; a unit that is half a character is
read as U+FFFD.
-/

namespace SchemaRegistry.Text

/-- How characters are written as bytes. Units of more than one byte have the first byte first or last. -/
inductive Encoding where
  | utf8
  | utf16 (bigEndian : Bool)
  | utf32 (bigEndian : Bool)
deriving DecidableEq, Repr

namespace Encoding

/-- The encoding of the bytes of a JSON text. -/
def guess : List Nat → Encoding
  | [first, second] =>
    if first = 0 then utf16 true else if second = 0 then utf16 false else utf8
  | first :: second :: third :: fourth :: _ =>
    if first = 0 then if second = 0 then utf32 true else utf16 true
    else if second = 0 then if third = 0 ∧ fourth = 0 then utf32 false else utf16 false
    else utf8
  | _ => utf8

/-- The units of two bytes. An odd byte at the end is no unit. -/
def pairs? (bigEndian : Bool) : List Nat → Option (List Nat)
  | [] => some []
  | [_] => none
  | a :: b :: rest =>
    (pairs? bigEndian rest).map ((if bigEndian then a * 0x100 + b else b * 0x100 + a) :: ·)

/-- The units of two units each. An odd unit at the end is none. -/
def quads? (bigEndian : Bool) : List Nat → Option (List Nat)
  | [] => some []
  | [_] => none
  | a :: b :: rest =>
    (quads? bigEndian rest).map ((if bigEndian then a * 0x10000 + b else b * 0x10000 + a) :: ·)

/-- The character with a number; half a character is U+FFFD. -/
def charOf (n : Nat) : Char := if 0xD800 ≤ n ∧ n ≤ 0xDFFF then Utf8.replacement else Char.ofNat n

/-- The characters of units of sixteen bits, in which two halves make a character. -/
def joinHalves : List Nat → List Char
  | [] => []
  | [n] => [charOf n]
  | a :: b :: rest =>
    if 0xD800 ≤ a ∧ a ≤ 0xDBFF ∧ 0xDC00 ≤ b ∧ b ≤ 0xDFFF then
      Char.ofNat (0x10000 + (a - 0xD800) * 0x400 + (b - 0xDC00)) :: joinHalves rest
    else charOf a :: joinHalves (b :: rest)
termination_by units => units.length

/-- The characters of bytes, if the bytes are a whole number of units and no unit is too great. A byte order
mark before UTF-8 is overlooked. -/
def decode? (encoding : Encoding) (bytes : List Nat) : Option (List Char) :=
  match encoding with
  | utf8 =>
    match Utf8.decode bytes with
    | '\ufeff' :: rest => some rest
    | cs => some cs
  | utf16 bigEndian => (pairs? bigEndian bytes).map joinHalves
  | utf32 bigEndian =>
    match (pairs? bigEndian bytes).bind (quads? bigEndian) with
    | some units => if units.all (· ≤ 0x10FFFF) then some (units.map charOf) else none
    | none => none

end Encoding

end SchemaRegistry.Text

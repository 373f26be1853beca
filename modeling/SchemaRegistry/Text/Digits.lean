import SchemaRegistry.Text.Blank

/-!
# Decimal digits of every script, and whole numbers written with them

Unicode 14 encodes the decimal digits of a script as ten consecutive characters, zero first, so a digit is
found by its zero.
-/

namespace SchemaRegistry.Text

/-- The zero of each set of decimal digits. -/
def zeros : List Nat := [
  0x0030, 0x0660, 0x06F0, 0x07C0, 0x0966, 0x09E6, 0x0A66, 0x0AE6, 0x0B66, 0x0BE6,
  0x0C66, 0x0CE6, 0x0D66, 0x0DE6, 0x0E50, 0x0ED0, 0x0F20, 0x1040, 0x1090, 0x17E0,
  0x1810, 0x1946, 0x19D0, 0x1A80, 0x1A90, 0x1B50, 0x1BB0, 0x1C40, 0x1C50, 0xA620,
  0xA8D0, 0xA900, 0xA9D0, 0xA9F0, 0xAA50, 0xABF0, 0xFF10, 0x104A0, 0x10D30, 0x11066,
  0x110F0, 0x11136, 0x111D0, 0x112F0, 0x11450, 0x114D0, 0x11650, 0x116C0, 0x11730, 0x118E0,
  0x11950, 0x11C50, 0x11D50, 0x11DA0, 0x16A60, 0x16AC0, 0x16B50, 0x1D7CE, 0x1D7D8, 0x1D7E2,
  0x1D7EC, 0x1D7F6, 0x1E140, 0x1E2F0, 0x1E950, 0x1FBF0]

/-- The value of a decimal digit of any script. -/
def digitValue? (c : Char) : Option Nat :=
  (zeros.find? fun first => first ≤ c.toNat && c.toNat ≤ first + 9).map (c.toNat - ·)

/-- Why a text is no whole number. -/
inductive IntFault where
  | malformed
  /-- It has so many digits, which are too many. -/
  | tooManyDigits (count : Nat)
deriving DecidableEq, Repr

/-- The greatest number of digits that a whole number may have. -/
def maxIntDigits : Nat := 4300

/-- Splits off digits in which single underscores may stand between two digits: the digits in reverse and
the rest. `afterDigit` says whether a digit came last. -/
def splitGrouped (digits : List Nat) (afterDigit : Bool) : List Char → Option (List Nat × List Char)
  | [] => if afterDigit then some (digits, []) else none
  | c :: rest =>
    if c = '_' then if afterDigit then splitGrouped digits false rest else none
    else
      match digitValue? c with
      | some d => splitGrouped (d :: digits) true rest
      | none => if afterDigit then some (digits, c :: rest) else none

/-- Reads a whole number without a sign, which ends the text. -/
def readGrouped (cs : List Char) : Except IntFault Nat :=
  match splitGrouped [] false cs with
  | none => .error .malformed
  | some (digits, rest) =>
    if maxIntDigits < digits.length then .error (.tooManyDigits digits.length)
    else if rest.isEmpty then .ok (digits.reverse.foldl (fun n d => n * 10 + d) 0)
    else .error .malformed

/-- Reads a whole number: white space around it, a sign and single underscores between digits are fine. -/
def readInt (s : String) : Except IntFault Int :=
  match trimList isBlank s.toList with
  | '-' :: rest => (readGrouped rest).map fun n => -(n : Int)
  | '+' :: rest => (readGrouped rest).map Int.ofNat
  | cs => (readGrouped cs).map Int.ofNat

end SchemaRegistry.Text

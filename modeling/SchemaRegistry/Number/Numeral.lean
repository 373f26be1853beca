import SchemaRegistry.Number.Binary64

/-!
# Numerals

Numbers written with the digits `0` to `9`: a sign, digits with a point among them, and a power of ten. The
columns of a table take a text for a number if the whole of it is such a numeral, with ASCII blanks around
it; `Numeral.read?` reads it and `Numeral.word?` says which whole number of 64 bits it writes, if any.
-/

namespace SchemaRegistry.Number

/-- The digits `0` to `9`. -/
def isDigit (c : Char) : Bool := 0x30 ≤ c.toNat && c.toNat ≤ 0x39

/-- The number that decimal digits write. -/
def digitsValue (digits : List Char) : Nat :=
  digits.foldl (fun n c => n * 10 + (c.toNat - 0x30)) 0

/-- The exponent part at the start of the text: its value and its length. Without a digit there is none. -/
def readExponent? (cs : List Char) : Option (Int × Nat) :=
  match cs with
  | e :: rest =>
    if e = 'e' || e = 'E' then
      let (negative, signs, body) :=
        match rest with
        | '-' :: body => (true, 1, body)
        | '+' :: body => (false, 1, body)
        | body => (false, 0, body)
      let digits := body.takeWhile isDigit
      if digits.isEmpty then none
      else
        let value : Int := digitsValue digits
        some (if negative then -value else value, 1 + signs + digits.length)
    else none
  | [] => none

/-- A numeral: `± digits · 10 ^ exponent`. -/
structure Numeral where
  negative : Bool
  digits : Nat
  exponent : Int
  /-- It is written without a point and without a power of ten. -/
  plain : Bool
deriving DecidableEq, Repr

/-- The blanks that may stand around a numeral. -/
def isNumeralBlank (c : Char) : Bool := c = ' ' || (0x09 ≤ c.toNat && c.toNat ≤ 0x0D)

namespace Numeral

/-- Reads digits and a point, with at least one digit: the digits before the point, those after it and the
rest. There is no second part without a point. -/
def readMantissa? (cs : List Char) : Option (List Char × Option (List Char) × List Char) :=
  let whole := cs.takeWhile isDigit
  match cs.drop whole.length with
  | '.' :: rest =>
    let fraction := rest.takeWhile isDigit
    if whole.isEmpty && fraction.isEmpty then none
    else some (whole, some fraction, rest.drop fraction.length)
  | rest => if whole.isEmpty then none else some (whole, none, rest)

/-- Reads a text that is a numeral with blanks around it. -/
def read? (text : String) : Option Numeral :=
  let cs := ((text.toList.dropWhile isNumeralBlank).reverse.dropWhile isNumeralBlank).reverse
  let (negative, body) :=
    match cs with
    | '-' :: body => (true, body)
    | '+' :: body => (false, body)
    | body => (false, body)
  match readMantissa? body with
  | none => none
  | some (whole, fraction, rest) =>
    let digits := digitsValue (whole ++ fraction.getD [])
    let places : Int := (fraction.getD []).length
    match readExponent? rest with
    | some (power, length) =>
      if length = rest.length then some ⟨negative, digits, power - places, false⟩ else none
    | none => if rest.isEmpty then some ⟨negative, digits, -places, fraction.isNone⟩ else none

/-- The whole number of 64 bits that a numeral writes. One with a point or a power of ten is rounded to
double precision first. -/
def word? (n : Numeral) : Option Int :=
  let signed (size : Nat) : Int := if n.negative then -(size : Int) else size
  if n.plain then
    let value := signed n.digits
    if -wordBound ≤ value ∧ value < wordBound then some value else none
  else
    match Binary64.ofDecimal n.negative n.digits n.exponent with
    | .finite _ significand exponent =>
      let (num, den) := Binary64.ratio significand exponent
      if num % den = 0 ∧ num / den < wordBound then some (signed (num / den)) else none
    | _ => none

end Numeral

end SchemaRegistry.Number

/-!
# Numbers of double precision

A finite number of the format is `± significand · 2 ^ exponent`. Rounding takes an exact quotient to the
nearest such number, a tie to the even significand; it is plain arithmetic on natural numbers.
-/

namespace SchemaRegistry.Number

/-- The bound of the whole numbers in a signed word of 64 bits, two to the power of 63. -/
def wordBound : Nat := 9223372036854775808

/-- A number in the 64-bit binary format. The significand of a finite number is below `2 ^ 53`, its
exponent at least `-1074`, and no smaller exponent would do. -/
inductive Binary64 where
  | finite (negative : Bool) (significand : Nat) (exponent : Int)
  | infinite (negative : Bool)
  | nan
deriving DecidableEq, Repr

namespace Binary64

/-- The least exponent of the format. -/
def minExponent : Int := -1074

/-- The greatest exponent of the format. -/
def maxExponent : Int := 971

/-- The quotient `num / (den · 2 ^ exponent)` as a numerator and a denominator. -/
def scale (num den : Nat) (exponent : Int) : Nat × Nat :=
  if 0 ≤ exponent then (num, den * Nat.pow 2 exponent.toNat)
  else (num * Nat.pow 2 (-exponent).toNat, den)

/-- Rounds `num / den` to a whole number, a tie to the even one. -/
def roundHalfEven (num den : Nat) : Nat :=
  let whole := num / den
  let twice := 2 * (num % den)
  if twice < den then whole
  else if twice = den then whole + whole % 2
  else whole + 1

/-- The exponent at which `num / den` has a significand of 53 bits, or the least exponent. -/
def exponentFor (num den : Nat) : Int :=
  let guess : Int := (Nat.log2 num : Int) - Nat.log2 den - 52
  let (n, d) := scale num den guess
  let exact := if n < d * Nat.pow 2 52 then guess - 1 else guess
  if exact < minExponent then minExponent else exact

/-- The number nearest to `± num / den`. -/
def ofRatio (negative : Bool) (num den : Nat) : Binary64 :=
  if num = 0 then finite negative 0 minExponent
  else
    let exponent := exponentFor num den
    let (n, d) := scale num den exponent
    let significand := roundHalfEven n d
    let (significand, exponent) :=
      if significand = Nat.pow 2 53 then (Nat.pow 2 52, exponent + 1) else (significand, exponent)
    if maxExponent < exponent then infinite negative else finite negative significand exponent

/-- The number nearest to `± digits · 10 ^ exponent`. Beyond four hundred places either way the answer
is known without the power of ten. -/
def ofDecimal (negative : Bool) (digits : Nat) (exponent : Int) : Binary64 :=
  let magnitude : Int := exponent + ((Nat.log2 digits : Int) * 3 / 10)
  if digits = 0 then finite negative 0 minExponent
  else if 400 < magnitude then infinite negative
  else if magnitude < -400 then finite negative 0 minExponent
  else if 0 ≤ exponent then ofRatio negative (digits * Nat.pow 10 exponent.toNat) 1
  else ofRatio negative digits (Nat.pow 10 (-exponent).toNat)

/-- Numerator and denominator of the absolute value. -/
def ratio (significand : Nat) (exponent : Int) : Nat × Nat :=
  if 0 ≤ exponent then (significand * Nat.pow 2 exponent.toNat, 1)
  else (significand, Nat.pow 2 (-exponent).toNat)

/-- The number is `n`. -/
def isNat (x : Binary64) (n : Nat) : Bool :=
  match x with
  | finite negative significand exponent =>
    let (num, den) := ratio significand exponent
    num == n * den && (!negative || n == 0)
  | _ => false

end Binary64

end SchemaRegistry.Number

import SchemaRegistry.Number.Shortest

/-!
# Decimal text with a given number of places

Three notations of a number that is not negative, given as an exact quotient: with so many digits after the
point, with an exponent, and the general one, which has so many significant digits and chooses between the
first two. Rounding is to the nearest, a tie to the even digit.
-/

namespace SchemaRegistry.Number

namespace Decimal

/-- The digits of `n`, with zeros before them up to `count` digits. -/
def padded (count n : Nat) : List Char :=
  let digits := Nat.toDigits 10 n
  List.replicate (count - digits.length) '0' ++ digits

/-- `num / den` with `places` digits after the point. A point with no digits after it is written only if
`point` is set. -/
def fixed (num den places : Nat) (point : Bool) : List Char :=
  let scaled := Binary64.roundHalfEven (num * Nat.pow 10 places) den
  let digits := padded (places + 1) scaled
  let whole := digits.take (digits.length - places)
  let fraction := digits.drop (digits.length - places)
  if fraction.isEmpty && !point then whole else whole ++ '.' :: fraction

/-- The `places + 1` leading digits of `num / den`, and the power of ten of the first of them. -/
def leading (num den places : Nat) : Nat × Int :=
  if num = 0 then (0, 0)
  else
    let power := magnitude num den
    let shift : Int := places - power
    let digits :=
      if 0 ≤ shift then Binary64.roundHalfEven (num * Nat.pow 10 shift.toNat) den
      else Binary64.roundHalfEven num (den * Nat.pow 10 (-shift).toNat)
    if digits = Nat.pow 10 (places + 1) then (digits / 10, power + 1) else (digits, power)

/-- An exponent: its sign and at least two digits. -/
def exponentText (power : Int) : List Char :=
  (if power < 0 then '-' else '+') :: padded 2 power.natAbs

/-- `num / den` with one digit before the point, `places` after it, and an exponent. -/
def exponential (num den places : Nat) (point : Bool) : List Char :=
  let (digits, power) := leading num den places
  let cs := padded (places + 1) digits
  let fraction := cs.drop 1
  cs.take 1 ++ (if fraction.isEmpty && !point then [] else '.' :: fraction) ++
    'e' :: exponentText power

/-- Drops the zeros at the end of a fraction, and the point if nothing is left of the fraction. -/
def dropZeros (cs : List Char) : List Char :=
  if cs.contains '.' then
    match cs.reverse.dropWhile (· == '0') with
    | '.' :: rest => rest.reverse
    | rest => rest.reverse
  else cs

/-- `num / den` with `count` significant digits: positional from `0.0001` up to `count` whole digits, else
with an exponent. Zeros at the end of the fraction are written only if `point` is set. -/
def general (num den count : Nat) (point : Bool) : List Char :=
  let count := max count 1
  let power := (leading num den (count - 1)).2
  let trim (cs : List Char) : List Char := if point then cs else dropZeros cs
  if -4 ≤ power && power < count then trim (fixed num den (count - 1 - power).toNat point)
  else
    let cs := exponential num den (count - 1) point
    trim (cs.takeWhile (· != 'e')) ++ cs.dropWhile (· != 'e')

end Decimal

end SchemaRegistry.Number

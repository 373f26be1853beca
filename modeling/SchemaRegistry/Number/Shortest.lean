import SchemaRegistry.Number.Binary64

/-!
# Shortest decimal text

A number is written with the fewest significant digits that read back as the same number, and among those
with the nearest. `Decimal.shortest` finds the digits by trying one digit, two digits, and so on; seventeen
always suffice.
-/

namespace SchemaRegistry.Number

/-- The decimal number `digits · 10 ^ exponent`. -/
structure Decimal where
  digits : Nat
  exponent : Int
deriving DecidableEq, Repr

namespace Decimal

/-- `digits · 10 ^ exponent` as a numerator and a denominator. -/
def ratio (d : Decimal) : Nat × Nat :=
  if 0 ≤ d.exponent then (d.digits * Nat.pow 10 d.exponent.toNat, 1)
  else (d.digits, Nat.pow 10 (-d.exponent).toNat)

/-- The decimal rounds to the number with this significand and exponent. -/
def readsBack (significand : Nat) (exponent : Int) (d : Decimal) : Bool :=
  let (num, den) := d.ratio
  Binary64.ofRatio false num den == .finite false significand exponent

/-- The number of decimal digits of `n`. -/
def width (n : Nat) : Nat := (Nat.toDigits 10 n).length

/-- The greatest `k` with `10 ^ k ≤ num / den`, found upwards from a lower bound. -/
def magnitude (num den : Nat) : Int :=
  let guess : Int := (width num : Int) - width den - 1
  let reaches (k : Int) : Bool :=
    if 0 ≤ k then den * Nat.pow 10 k.toNat ≤ num else den ≤ num * Nat.pow 10 (-k).toNat
  if reaches (guess + 1) then guess + 1 else guess

/-- The decimals with `count` digits next to `num / den`, the nearer first, a tie to the even one. -/
def neighbours (num den : Nat) (count : Nat) : List Decimal :=
  let exponent := magnitude num den - count + 1
  let (n, d) :=
    if 0 ≤ exponent then (num, den * Nat.pow 10 exponent.toNat)
    else (num * Nat.pow 10 (-exponent).toNat, den)
  let below := n / d
  let twice := 2 * (n % d)
  let (near, far) :=
    if twice < d || (twice = d && below % 2 = 0) then (below, below + 1) else (below + 1, below)
  [⟨near, exponent⟩, ⟨far, exponent⟩]

/-- The shortest decimal that reads back, tried from `count` digits on, at most `tries` times. -/
def search (significand : Nat) (exponent : Int) (count : Nat) : Nat → Decimal
  | 0 => ⟨significand, 0⟩
  | tries + 1 =>
    let (num, den) := Binary64.ratio significand exponent
    match (neighbours num den count).find? (readsBack significand exponent) with
    | some d => d
    | none => search significand exponent (count + 1) tries

/-- Removes trailing zeros from the digits, at most `tries` of them. -/
def normalize (d : Decimal) : Nat → Decimal
  | 0 => d
  | tries + 1 =>
    if d.digits ≠ 0 && d.digits % 10 = 0 then normalize ⟨d.digits / 10, d.exponent + 1⟩ tries else d

/-- The shortest decimal that reads back as the positive number `significand · 2 ^ exponent`. -/
def shortest (significand : Nat) (exponent : Int) : Decimal :=
  normalize (search significand exponent 1 17) 20

/-- The text of a decimal: positional from `0.0001` up to sixteen whole digits, with at least one digit
after the point, else with an exponent of at least two digits. -/
def text (d : Decimal) : String :=
  let digits := Nat.toDigits 10 d.digits
  let count := digits.length
  let point : Int := d.exponent + count
  if -4 < point && point ≤ 16 then
    if point ≤ 0 then
      String.ofList ("0.".toList ++ List.replicate (-point).toNat '0' ++ digits)
    else if (count : Int) ≤ point then
      String.ofList (digits ++ List.replicate (point.toNat - count) '0' ++ ".0".toList)
    else
      String.ofList (digits.take point.toNat ++ '.' :: digits.drop point.toNat)
  else
    let power := point - 1
    let fraction := if count = 1 then [] else '.' :: digits.drop 1
    let powerDigits := Nat.toDigits 10 power.natAbs
    let padded := if powerDigits.length < 2 then '0' :: powerDigits else powerDigits
    String.ofList
      (digits.take 1 ++ fraction ++ 'e' :: (if power < 0 then '-' else '+') :: padded)

end Decimal

/-- The shortest text of a number. -/
def Binary64.text : Binary64 → String
  | .finite negative significand exponent =>
    let body := if significand = 0 then "0.0" else (Decimal.shortest significand exponent).text
    if negative then "-" ++ body else body
  | .infinite negative => if negative then "-inf" else "inf"
  | .nan => "nan"

end SchemaRegistry.Number

import SchemaRegistry.Json.Basic
import SchemaRegistry.Text.Utf8
import SchemaRegistry.Time.DateTime

/-!
# Reading points in time

A time stamp is given as a text or as a number. A text is a date of ten characters, alone or followed by a
time of day and perhaps an offset from UTC; a text that is a numeral counts as the number. A number counts
seconds since 1970-01-01 in UTC, or milliseconds if it is beyond twenty billion either way.
-/

namespace SchemaRegistry.Time

open Number (Binary64)

/-- Why a number of seconds is no time stamp. -/
inductive RangeFault where
  | tooEarly
  | tooLate
  | notANumber
deriving DecidableEq, Repr

/-- Why a text is neither a time stamp nor a date. -/
inductive TextFault where
  | tooShort
  | year
  | separator
  | month
  | day
  | monthRange
  | dayRange
  | extra
  | range (fault : RangeFault)
deriving DecidableEq, Repr

/-- Why a value is no time stamp. -/
inductive TimeFault where
  /-- It is neither a text nor a number. -/
  | wrongType
  | number (fault : RangeFault)
  | text (fault : TextFault)
  /-- It names a day of the year 0. -/
  | yearZero
deriving DecidableEq, Repr

/-- The wording of a number out of range. -/
def RangeFault.message : RangeFault → String
  | tooEarly => "dates before 0000 are not supported as unix timestamps"
  | tooLate => "dates after 9999 are not supported as unix timestamps"
  | notANumber => "NaN values not permitted"

/-- The wording of a text that is no date. -/
def TextFault.message : TextFault → String
  | tooShort => "input is too short"
  | year => "invalid character in year"
  | separator => "invalid date separator, expected `-`"
  | month => "invalid character in month"
  | day => "invalid character in day"
  | monthRange => "month value is outside expected range of 1-12"
  | dayRange => "day value is outside expected range"
  | extra => "unexpected extra characters at the end of the input"
  | range fault => fault.message

/-! ## Digits -/

/-- The value of a digit `0` to `9`. -/
def digit? (c : Char) : Option Nat :=
  if 0x30 ≤ c.toNat ∧ c.toNat ≤ 0x39 then some (c.toNat - 0x30) else none

/-- Reads `count` digits after those that wrote `value`. -/
def readDigits? : Nat → Nat → List Char → Option (Nat × List Char)
  | 0, value, cs => some (value, cs)
  | _ + 1, _, [] => none
  | count + 1, value, c :: rest =>
    match digit? c with
    | some d => readDigits? count (value * 10 + d) rest
    | none => none

/-- Reads the character `c`. -/
def readChar? (c : Char) : List Char → Option (List Char)
  | [] => none
  | head :: rest => if head = c then some rest else none

/-- `n` as a number below `bound`. -/
def below? (bound n : Nat) : Option (Fin bound) := if h : n < bound then some ⟨n, h⟩ else none

/-! ## Dates -/

/-- Reads the ten characters of a date. The year 0 is read, though it is no year of a stamp. -/
def readDate (cs : List Char) : Except TextFault ((Nat × Nat × Nat) × List Char) := do
  let need {α : Type} (fault : TextFault) (x : Option α) : Except TextFault α :=
    match x with
    | some value => .ok value
    | none => .error fault
  if Text.Utf8.size cs < 10 then throw .tooShort
  let (year, rest) ← need .year (readDigits? 4 0 cs)
  let rest ← need .separator (readChar? '-' rest)
  let (month, rest) ← need .month (readDigits? 2 0 rest)
  let rest ← need .separator (readChar? '-' rest)
  let (day, rest) ← need .day (readDigits? 2 0 rest)
  if month < 1 ∨ 12 < month then throw .monthRange
  if day < 1 ∨ daysInMonth year month < day then throw .dayRange
  return ((year, month, day), rest)

/-! ## Times of day -/

/-- A time of day with its offset. -/
structure DayTime where
  hour : Fin 24
  minute : Fin 60
  second : Fin 60
  micro : Fin 1000000
  offset : Option Offset
deriving DecidableEq, Repr

/-- The stamp of a date and a time of day. -/
def DayTime.on (time : DayTime) (date : Date) : DateTime :=
  { time with date }

/-- The microseconds that the digits after the point write; digits past the sixth are cut off. -/
def microOf (digits : List Nat) : Fin 1000000 :=
  ⟨((digits ++ List.replicate 6 0).take 6).foldl (fun n d => n * 10 + d) 0 % 1000000, Nat.mod_lt _ (by decide)⟩

/-- The start of a second. -/
def noMicro : Fin 1000000 := ⟨0, Nat.zero_lt_succ 999999⟩

/-- The start of a minute. -/
def noSecond : Fin 60 := ⟨0, Nat.zero_lt_succ 59⟩

/-- Reads the part of a second, if there is one. -/
def readFraction? : List Char → Option (Fin 1000000 × List Char)
  | [] => some (noMicro, [])
  | c :: rest =>
    if c = '.' ∨ c = ',' then
      let digits := rest.takeWhile fun c => (digit? c).isSome
      if digits.isEmpty then none
      else some (microOf (digits.filterMap digit?), rest.drop digits.length)
    else some (noMicro, c :: rest)

/-- Reads the seconds, if there are any. -/
def readSeconds? : List Char → Option ((Fin 60 × Fin 1000000) × List Char)
  | ':' :: rest => do
    let (second, rest) ← readDigits? 2 0 rest
    let second ← below? 60 second
    let (micro, rest) ← readFraction? rest
    return ((second, micro), rest)
  | cs => some ((noSecond, noMicro), cs)

/-- The sign of an offset: a minus may be the mathematical one. -/
def offsetSign? (c : Char) : Option Int :=
  if c = '+' then some 1
  else if c = '-' ∨ c.toNat = 0x2212 then some (-1)
  else none

/-- Reads the offset, which ends the text. -/
def readOffset? : List Char → Option (Option Offset)
  | [] => some none
  | ['Z'] => some (some .utc)
  | ['z'] => some (some .utc)
  | c :: rest => do
    let sign ← offsetSign? c
    let (hours, rest) ← readDigits? 2 0 rest
    let rest := (readChar? ':' rest).getD rest
    let (minutes, rest) ← readDigits? 2 0 rest
    let minutes ← below? 60 minutes
    let offset ← Offset.ofMinutes? (sign * (hours * 60 + minutes.val : Nat))
    if rest.isEmpty then some (some offset) else none

/-- Reads a time of day with its offset, which end the text. -/
def readDayTime? (cs : List Char) : Option DayTime := do
  let (hour, rest) ← readDigits? 2 0 cs
  let hour ← below? 24 hour
  let rest ← readChar? ':' rest
  let (minute, rest) ← readDigits? 2 0 rest
  let minute ← below? 60 minute
  let ((second, micro), rest) ← readSeconds? rest
  let offset ← readOffset? rest
  return ⟨hour, minute, second, micro, offset⟩

/-- A character that may stand between a date and a time of day. -/
def isDateTimeSeparator (c : Char) : Bool := c = 'T' || c = 't' || c = ' ' || c = '_'

/-! ## Numbers -/

/-- Numbers up to this one count seconds, those beyond milliseconds. -/
def secondsBound : Nat := 20000000000

/-- What a number of absolute value `num / den` counts, in microseconds: seconds or milliseconds. -/
def unitOf (num den : Nat) : Nat := if num ≤ secondsBound * den then 1000000 else 1000

/-- The stamp that stands `n` units and some microseconds after 1970-01-01. -/
def ofCount (unit : Nat) (n : Int) (micros : Nat) : Except TimeFault DateTime :=
  let total := n * unit + micros
  if n ≤ -Number.wordBound ∨ total < -62167219200000000 then .error (.number .tooEarly)
  else if Number.wordBound ≤ n ∨ 253402300800000000 ≤ total then .error (.number .tooLate)
  else
    match DateTime.ofWall? total (some .utc) with
    | some stamp => .ok stamp
    | none => .error .yearZero

/-- The stamp a whole number names. -/
def ofWhole (n : Int) : Except TimeFault DateTime := ofCount (unitOf n.natAbs 1) n 0

/-- The microseconds of the part `num / den` of a unit, a half rounded up. The product is rounded to double
precision first. -/
def microsOfPart (unit num den : Nat) : Nat :=
  match Binary64.ofRatio false (num * unit) den with
  | .finite _ significand exponent =>
    let (num, den) := Binary64.ratio significand exponent
    (2 * num + den) / (2 * den)
  | _ => 0

/-- The stamp that a number of double precision names. The part after the point counts forward from the
next whole number below, whatever the sign. -/
def ofFloat : Binary64 → Except TimeFault DateTime
  | .nan => .error (.number .notANumber)
  | .infinite negative => .error (.number (if negative then .tooEarly else .tooLate))
  | .finite negative significand exponent =>
    let (num, den) := Binary64.ratio significand exponent
    let signed : Int := if negative then -(num : Int) else num
    let unit := unitOf num den
    ofCount unit (signed.fdiv den) (microsOfPart unit (signed.fmod den).toNat den)

/-- A numeral: an optional sign, digits, and perhaps a point and more digits. -/
inductive Numeral where
  | whole (n : Int)
  | fraction (x : Binary64)

/-- The stamp that a numeral names. -/
def Numeral.stamp : Numeral → Except TimeFault DateTime
  | whole n => ofWhole n
  | fraction x => ofFloat x

/-- Reads a numeral whose whole part fits into 64 bits. There are digits before the point or after it. -/
def readNumeral? (cs : List Char) : Option Numeral :=
  let (negative, body) :=
    match cs with
    | '-' :: body => (true, body)
    | '+' :: body => (false, body)
    | body => (false, body)
  let whole := body.takeWhile fun c => (digit? c).isSome
  let value (digits : List Char) : Nat :=
    (digits.filterMap digit?).foldl (fun n d => n * 10 + d) 0
  if Number.wordBound ≤ value whole then none
  else
    match body.drop whole.length with
    | [] =>
      if whole.isEmpty then none
      else some (.whole (if negative then -(value whole : Int) else value whole))
    | '.' :: fraction =>
      if (whole ++ fraction).isEmpty || !fraction.all fun c => (digit? c).isSome then none
      else some (.fraction (.ofDecimal negative (value (whole ++ fraction)) (-(fraction.length : Int))))
    | _ => none

/-! ## Texts and values -/

/-- Reads the text as a date alone, or as a whole number of seconds. -/
def readDateOnly (cs : List Char) : Except TimeFault DateTime :=
  let fault (fault : TextFault) : Except TimeFault DateTime :=
    match readNumeral? cs with
    | some (.whole n) =>
      match ofWhole n with
      | .error (.number range) => .error (.text (.range range))
      | answer => answer
    | _ => .error (.text fault)
  match readDate cs with
  | .error why => fault why
  | .ok (_, _ :: _) => fault .extra
  | .ok ((year, month, day), []) =>
    match Date.of? year month day with
    | some date => .ok (.midnight date)
    | none => .error .yearZero

/-- Reads the text of a stamp: a date with a time of day, else a numeral, else a date alone. -/
def ofText (text : String) : Except TimeFault DateTime :=
  let cs := text.toList
  let complete : Option ((Nat × Nat × Nat) × DayTime) :=
    match readDate cs with
    | .ok (date, c :: rest) =>
      if isDateTimeSeparator c then (readDayTime? rest).map (date, ·) else none
    | _ => none
  match complete with
  | some ((year, month, day), time) =>
    match Date.of? year month day with
    | some date => .ok (time.on date)
    | none => .error .yearZero
  | none =>
    match (readNumeral? cs).map Numeral.stamp with
    | some (.ok stamp) => .ok stamp
    | some (.error .yearZero) => .error .yearZero
    | _ => readDateOnly cs

/-- The stamp that a JSON value names. -/
def ofJson : Json → Except TimeFault DateTime
  | .str text => ofText text
  | .int n =>
    if -Number.wordBound ≤ n ∧ n < Number.wordBound then ofWhole n
    else
      match Binary64.ofRatio (n < 0) n.natAbs 1 with
      | .infinite _ => .error .wrongType
      | x => ofFloat x
  | .float x => ofFloat x
  | _ => .error .wrongType

end SchemaRegistry.Time

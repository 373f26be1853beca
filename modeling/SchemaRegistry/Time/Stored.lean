import SchemaRegistry.Number.Numeral
import SchemaRegistry.Text.Quoted
import SchemaRegistry.Text.Utf8
import SchemaRegistry.Time.DateTime

/-!
# Stored points in time

A table keeps points in time as text, and clocks are set by such texts too: a date, then any one character, a
time of day down to the microsecond, and an offset. The date is `YYYY-MM-DD` or counts weeks,
`YYYY-Www-D`, where the day of the week may be left out; hyphens may be left out of both, and colons out of
the time of day. A text that is a numeral is kept as a number, which is no point in time.

Texts are read as bytes. A byte behind the end is zero, and a zero byte ends a text.
-/

namespace SchemaRegistry.Time

/-- Why a stored text is no point in time. -/
inductive StoredFault where
  /-- It does not have the form. -/
  | form
  /-- It is a numeral. -/
  | number
  /-- Its offset, given in microseconds, is a day or more. -/
  | offset (micros : Int)
  | year (n : Nat)
  | month
  | day
  | hour
  | minute
  | second
deriving DecidableEq, Repr

/-- A span of time as days, seconds and microseconds, those that are not zero. The days round down. -/
def spanText (micros : Int) : String :=
  let rest := (micros.fmod dayMicros).toNat
  let parts : List (String × Int) :=
    [("days", micros.fdiv dayMicros), ("seconds", (rest / 1000000 : Nat)),
     ("microseconds", (rest % 1000000 : Nat))]
  let shown := parts.filter fun (_, count) => count ≠ 0
  "datetime.timedelta(" ++
    ", ".intercalate (shown.map fun (name, count) => name ++ "=" ++ toString count) ++ ")"

namespace StoredFault

/-- The wording of a fault of `text`. -/
def message (text : String) : StoredFault → String
  | form => "Invalid isoformat string: " ++ Text.quoted text
  | number => "fromisoformat: argument must be str"
  | offset micros =>
    "offset must be a timedelta strictly between -timedelta(hours=24) and timedelta(hours=24), not " ++
      spanText micros ++ "."
  | year n => "year " ++ toString n ++ " is out of range"
  | month => "month must be in 1..12"
  | day => "day is out of range for month"
  | hour => "hour must be in 0..23"
  | minute => "minute must be in 0..59"
  | second => "second must be in 0..59"

end StoredFault

/-! ## Bytes -/

/-- The bytes of a text. -/
abbrev Bytes := List Nat

/-- The byte at a place. -/
def byteAt (bs : Bytes) (place : Nat) : Nat := bs.getD place 0

/-- The byte is the character `c`. -/
def isByte (b : Nat) (c : Char) : Bool := b == c.toNat

/-- The byte is a digit `0` to `9`. -/
def isDigitByte (b : Nat) : Bool := 0x30 ≤ b && b ≤ 0x39

/-- Reads `count` digits after those that wrote `value`. -/
def readByteDigits? : Nat → Nat → Bytes → Option (Nat × Bytes)
  | 0, value, bs => some (value, bs)
  | _ + 1, _, [] => none
  | count + 1, value, b :: rest =>
    if isDigitByte b then readByteDigits? count (value * 10 + (b - 0x30)) rest else none

/-! ## Dates -/

/-- The length of the date at the start of a text, found from where its digits, hyphens and the letter `W`
stand. -/
def dateLength? (bs : Bytes) : Option Nat :=
  let length := bs.length
  if length < 7 then none
  else if length = 7 then some 7
  else if isByte (byteAt bs 4) '-' then
    if isByte (byteAt bs 5) 'W' then
      if 8 < length ∧ isByte (byteAt bs 8) '-' then
        if length = 9 then none
        else if 10 < length ∧ isDigitByte (byteAt bs 10) then some 8
        else some 10
      else some 8
    else some 10
  else if isByte (byteAt bs 4) 'W' then
    let place := 7 + ((bs.drop 7).takeWhile isDigitByte).length
    if place < 9 then some place
    else if place % 2 = 0 then some 7
    else some 8
  else some 8

/-- The day of the week of a day number: 0 for Monday. -/
def weekday (day : Int) : Nat := ((day + 3).fmod 7).toNat

/-- The day number of the first of January. -/
def newYear (year : Nat) : Int := (Date.daysBeforeYear year : Int) - Date.epoch

/-- The day number of the Monday of the first week of a year, the week that holds its first Thursday. -/
def firstMonday (year : Nat) : Int :=
  let first := newYear year
  let monday := first - weekday first
  if 3 < weekday first then monday + 7 else monday

/-- The year has 53 weeks. -/
def hasLongWeeks (year : Nat) : Bool :=
  let first := weekday (newYear year)
  year != 0 && (first == 3 || (first == 2 && isLeap year))

/-- The year, month and day of a day number, whatever the year. -/
def partsOfDay (day : Int) : Nat × Nat × Nat :=
  let (year, rest) := Date.findYear (day + Date.epoch).toNat
  let (month, day) := Date.findMonth year 1 rest 11
  (year, month, day)

/-- The parts of the date of a day of a week, if the year has the week. The weeks of the year 0 have no
month. -/
def dateOfWeek? (year week day : Nat) : Option (Nat × Nat × Nat) :=
  if 1 ≤ day ∧ day ≤ 7 ∧ 1 ≤ week ∧ (week < 53 ∨ (week = 53 ∧ hasLongWeeks year)) then
    if year = 0 then some (1, 0, 0)
    else some (partsOfDay (firstMonday year + ((week - 1) * 7 + (day - 1) : Nat)))
  else none

/-- Reads a hyphen, or nothing in a date without hyphens. -/
def readHyphen? (separated : Bool) (bs : Bytes) : Option Bytes :=
  if separated then
    match bs with
    | b :: rest => if isByte b '-' then some rest else none
    | [] => none
  else some bs

/-- Reads a date of so many bytes: its parts, not yet checked. -/
def readStoredDate? (length : Nat) (bs : Bytes) : Option (Nat × Nat × Nat) := do
  let (year, rest) ← readByteDigits? 4 0 bs
  let separated := isByte (byteAt rest 0) '-'
  let rest ← readHyphen? separated rest
  if isByte (byteAt rest 0) 'W' then
    let (week, rest) ← readByteDigits? 2 0 (rest.drop 1)
    if bs.length - rest.length < length then
      let rest ← readHyphen? separated rest
      let (day, _) ← readByteDigits? 1 0 rest
      dateOfWeek? year week day
    else dateOfWeek? year week 1
  else
    let (month, rest) ← readByteDigits? 2 0 rest
    let rest ← readHyphen? separated rest
    let (day, _) ← readByteDigits? 2 0 rest
    return (year, month, day)

/-! ## Times of day -/

/-- Hours, minutes, seconds and microseconds, not yet checked. -/
structure ClockParts where
  hour : Nat := 0
  minute : Nat := 0
  second : Nat := 0
  micro : Nat := 0
deriving DecidableEq, Repr

/-- Whether the reading of a time of day used up its text. -/
abbrev UsedUp := Bool

/-- Reads the digits after the seconds, of which there are `left` before the time of day is to end. Those
past the sixth are skipped. -/
def readMicros? (parts : ClockParts) (left : Nat) (bs : Bytes) : Option (ClockParts × UsedUp) := do
  let count := min left 6
  let (value, rest) ← readByteDigits? count 0 bs
  let rest := rest.dropWhile isDigitByte
  return ({ parts with micro := value * Nat.pow 10 (6 - count) }, byteAt rest 0 == 0)

/-- What stands behind a number of a time of day. -/
inductive ClockStep where
  /-- The end of the time of day. -/
  | finish (usedUp : UsedUp)
  /-- The next number. -/
  | next (rest : Bytes)
  /-- Parts of a second. -/
  | micros (rest : Bytes)
  | malformed

/-- Looks at what stands behind a number of a time of day that ends where `after` bytes are left.
`separated` says whether the numbers have colons between them. -/
def clockStep (separated : Bool) (after : Nat) (bs : Bytes) : ClockStep :=
  let b := byteAt bs 0
  if bs.length ≤ after + 1 then .finish (b == 0)
  else if separated && isByte b ':' then .next (bs.drop 1)
  else if isByte b '.' || isByte b ',' then .micros (bs.drop 1)
  else if separated then .malformed
  else .next bs

/-- Reads a time of day that ends where `after` bytes are left: two digits each for hours, minutes and
seconds, as many of them as there are, and parts of a second. -/
def readClock? (after : Nat) (bs : Bytes) : Option (ClockParts × UsedUp) := do
  let (hour, rest) ← readByteDigits? 2 0 bs
  let separated := isByte (byteAt rest 0) ':'
  let parts : ClockParts := { hour }
  match clockStep separated after rest with
  | .malformed => none
  | .finish usedUp => return (parts, usedUp)
  | .micros rest => readMicros? parts (rest.length - after) rest
  | .next rest => do
    let (minute, rest) ← readByteDigits? 2 0 rest
    let parts := { parts with minute }
    match clockStep separated after rest with
    | .malformed => none
    | .finish usedUp => return (parts, usedUp)
    | .micros rest => readMicros? parts (rest.length - after) rest
    | .next rest => do
      let (second, rest) ← readByteDigits? 2 0 rest
      let parts := { parts with second }
      match clockStep separated after rest with
      | .malformed => none
      | .finish usedUp => return (parts, usedUp)
      | .micros rest => readMicros? parts (rest.length - after) rest
      | .next rest => readMicros? parts (rest.length - after) rest

/-- The byte begins an offset. -/
def beginsOffset (b : Nat) : Bool := isByte b '+' || isByte b '-' || isByte b 'Z'

/-- An offset as read: its seconds and, beside them, its microseconds. -/
structure OffsetParts where
  seconds : Int
  micros : Int

/-- Reads a time of day and the offset behind it, if there is one. -/
def readStoredTime? (bs : Bytes) : Option (ClockParts × Option OffsetParts) := do
  let zone := bs.dropWhile (!beginsOffset ·)
  let (clock, usedUp) ← readClock? zone.length bs
  match zone with
  | [] => if usedUp then return (clock, none) else none
  | sign :: rest =>
    if isByte sign 'Z' then
      if byteAt rest 0 = 0 then return (clock, some ⟨0, 0⟩) else none
    else
      let (offset, usedUp) ← readClock? 0 rest
      let size : Int := ((offset.hour * 60 + offset.minute) * 60 + offset.second : Nat)
      let parts : OffsetParts :=
        if isByte sign '-' then ⟨-size, -(offset.micro : Int)⟩ else ⟨size, offset.micro⟩
      if usedUp then return (clock, some parts) else none

/-! ## Points in time -/

/-- The offset with these parts. One of no seconds is none at all, whatever the microseconds. -/
def OffsetParts.check (p : OffsetParts) : Except StoredFault Offset :=
  if p.seconds = 0 then .ok .utc
  else
    let micros := p.seconds * 1000000 + p.micros
    match Offset.of? micros with
    | some offset => .ok offset
    | none => .error (.offset micros)

/-- `n` as a number below `bound`, or else the fault. -/
def within (bound n : Nat) (fault : StoredFault) : Except StoredFault (Fin bound) :=
  if h : n < bound then .ok ⟨n, h⟩ else .error fault

/-- The date with these parts. -/
def checkDate (year month day : Nat) : Except StoredFault Date :=
  match Date.of? year month day with
  | some date => .ok date
  | none =>
    .error <|
      if year < 1 ∨ 9999 < year then .year year
      else if month < 1 ∨ 12 < month then .month
      else .day

/-- The point in time with these parts. -/
def assemble (date : Nat × Nat × Nat) (clock : ClockParts) (offset : Option OffsetParts) :
    Except StoredFault DateTime := do
  let offset ←
    match offset with
    | none => pure none
    | some parts => some <$> parts.check
  let date ← checkDate date.1 date.2.1 date.2.2
  let hour ← within 24 clock.hour .hour
  let minute ← within 60 clock.minute .minute
  let second ← within 60 clock.second .second
  let micro ← within 1000000 clock.micro .second
  return { date, hour, minute, second, micro, offset }

/-- The number of bytes of the character that begins with the byte `b`. -/
def sequenceLength (b : Nat) : Nat :=
  if b < 0x80 then 1 else if b / 16 = 0xE then 3 else if b / 16 = 0xF then 4 else 2

/-- Reads bytes as a point in time. -/
def ofBytes (bs : Bytes) : Except StoredFault DateTime :=
  match dateLength? bs with
  | none => .error .form
  | some length =>
    match readStoredDate? length bs with
    | none => .error .form
    | some date =>
      let rest := bs.drop length
      if rest.isEmpty then assemble date {} none
      else
        match readStoredTime? (rest.drop (sequenceLength (byteAt rest 0))) with
        | none => .error .form
        | some (clock, offset) => assemble date clock offset

/-- Reads the text of a point in time. -/
def ofIso (text : String) : Except StoredFault DateTime := ofBytes (text.toList.flatMap Text.Utf8.encode)

/-- Reads a stored point in time. -/
def ofStored (text : String) : Except StoredFault DateTime :=
  if (Number.Numeral.read? text).isSome then .error .number else ofIso text

end SchemaRegistry.Time

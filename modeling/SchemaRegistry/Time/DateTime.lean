import SchemaRegistry.Time.Calendar

/-!
# Points in time

A time stamp is a date, a time of day to the microsecond and, if it has one, an offset from UTC. Two stamps
are the same if both have an offset and name the same instant, or if neither has one and their parts agree.

The offset may come from the rules of a time zone. Where clocks are set back, the parts of a stamp show two instants,
and the stamp itself says which of them it is. Stamps of one zone are compared by their parts, and a stamp that
shows two instants is the same as none of another zone.
-/

namespace SchemaRegistry.Time

/-- The microseconds of a day. -/
def dayMicros : Nat := 86400000000

/-- An offset from UTC, in microseconds, less than a day either way. -/
structure Offset where
  micros : Int
  bounded : -dayMicros < micros ∧ micros < dayMicros
deriving DecidableEq, Repr

/-- The offset of so many microseconds, if it is less than a day. -/
def Offset.of? (micros : Int) : Option Offset :=
  if h : -dayMicros < micros ∧ micros < dayMicros then some ⟨micros, h⟩ else none

/-- The offset of so many minutes, if it is less than a day. -/
def Offset.ofMinutes? (minutes : Int) : Option Offset := Offset.of? (minutes * 60000000)

/-- No offset at all. -/
def Offset.utc : Offset := ⟨0, by decide⟩

/-- The offset to the nearest second, a half away from zero. -/
def Offset.seconds (offset : Offset) : Int :=
  let size := (offset.micros.natAbs + 500000) / 1000000
  if offset.micros < 0 then -(size : Int) else size

/-- The time zone of a stamp, and what it says of the stamp's date and time of day. -/
structure Zone where
  id : Nat
  /-- The offset if they are taken the other time that clocks show them. -/
  otherwise : Option Offset
deriving DecidableEq, Repr

/-- A date with a time of day and perhaps an offset from UTC. -/
structure DateTime where
  date : Date
  hour : Fin 24
  minute : Fin 60
  second : Fin 60
  micro : Fin 1000000
  offset : Option Offset
  /-- The time zone from which the offset comes, unless it is fixed. -/
  zone : Option Zone := none
deriving DecidableEq, Repr

namespace DateTime

/-- Midnight of a date. -/
def midnight (date : Date) : DateTime where
  date := date
  hour := ⟨0, by decide⟩
  minute := ⟨0, by decide⟩
  second := ⟨0, by decide⟩
  micro := ⟨0, by decide⟩
  offset := none

/-- Microseconds since 1970-01-01 that the fields show, whatever the offset. -/
def wall (t : DateTime) : Int :=
  (((t.date.dayNumber * 24 + t.hour.val) * 60 + t.minute.val) * 60 + t.second.val) * 1000000 +
    t.micro.val

/-- Microseconds since 1970-01-01 in UTC, for a stamp with an offset. -/
def instant? (t : DateTime) : Option Int :=
  t.offset.map fun offset => t.wall - offset.micros

/-- The stamp whose fields show so many microseconds since 1970-01-01, if its date is in range. -/
def ofWall? (micros : Int) (offset : Option Offset) : Option DateTime :=
  (Date.ofDayNumber? (micros.fdiv dayMicros)).map fun date =>
    let rest := (micros.fmod dayMicros).toNat
    { date
      hour := Fin.ofNat 24 (rest / 3600000000)
      minute := Fin.ofNat 60 (rest / 60000000)
      second := Fin.ofNat 60 (rest / 1000000)
      micro := Fin.ofNat 1000000 rest
      offset }

/-- The same instant with the fields of UTC. A stamp without an offset is left alone. -/
def toUtc? (t : DateTime) : Option DateTime :=
  match t.instant? with
  | none => some t
  | some micros => ofWall? micros (some .utc)

/-- The fields without the offset. -/
def dropOffset (t : DateTime) : DateTime := { t with offset := none, zone := none }

/-- The fields have one meaning in the zone of the stamp. -/
def IsSteady (t : DateTime) : Prop := ∀ zone ∈ t.zone, zone.otherwise = t.offset

instance (t : DateTime) : Decidable t.IsSteady :=
  inferInstanceAs (Decidable (∀ zone ∈ t.zone, zone.otherwise = t.offset))

/-- The two stamps are of one zone. -/
def shareZone (a b : DateTime) : Bool :=
  match a.zone, b.zone with
  | some x, some y => x.id == y.id
  | _, _ => false

/-- The two stamps name the same point in time: the same instant if both have an offset, the same fields if
neither has one, and the same fields in any case if they are of one zone. -/
def same (a b : DateTime) : Bool :=
  if a.shareZone b then a.wall == b.wall
  else
    decide a.IsSteady && decide b.IsSteady &&
      match a.instant?, b.instant? with
      | some x, some y => x == y
      | none, none => a.wall == b.wall
      | _, _ => false

/-! ## Text -/

/-- The last `count` decimal digits of `n`. -/
def digits : Nat → Nat → List Char
  | 0, _ => []
  | count + 1, n => digits count (n / 10) ++ [Nat.digitChar (n % 10)]

/-- The text of an offset: `Z` for none at all, else its sign, the hours, a colon and the minutes. What is
left of a minute is cut off. -/
def offsetText (offset : Offset) : List Char :=
  let minutes := offset.seconds.natAbs / 60
  if offset.seconds = 0 then ['Z']
  else
    (if offset.seconds < 0 then '-' else '+') :: digits 2 (minutes / 60) ++ ':' :: digits 2 (minutes % 60)

/-- The text of the part of a second: a point and six digits, nothing for a whole second. -/
def fractionText (micro : Nat) : List Char := if micro = 0 then [] else '.' :: digits 6 micro

/-- The characters of the text of a stamp. -/
def chars (t : DateTime) : List Char :=
  digits 4 t.date.year ++ '-' :: digits 2 t.date.month ++ '-' :: digits 2 t.date.day ++
    'T' :: digits 2 t.hour ++ ':' :: digits 2 t.minute ++ ':' :: digits 2 t.second ++
    fractionText t.micro ++ (t.offset.map offsetText).getD []

/-- The text of a stamp: `YYYY-MM-DDTHH:MM:SS`, the microseconds unless they are zero, and the offset. -/
def text (t : DateTime) : String := String.ofList t.chars

end DateTime

end SchemaRegistry.Time

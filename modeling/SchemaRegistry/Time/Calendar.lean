/-!
# The calendar

Dates of the years 1 to 9999 in the proleptic Gregorian calendar, and the day numbers that arithmetic on
them goes through. Day 0 is 1970-01-01.
-/

namespace SchemaRegistry.Time

/-- The year has a 29th of February. -/
def isLeap (year : Nat) : Bool := year % 4 == 0 && (year % 100 != 0 || year % 400 == 0)

/-- The number of days of a month, zero for a number that is no month. -/
def daysInMonth (year month : Nat) : Nat :=
  match month with
  | 2 => if isLeap year then 29 else 28
  | 4 | 6 | 9 | 11 => 30
  | 1 | 3 | 5 | 7 | 8 | 10 | 12 => 31
  | _ => 0

/-- A date of the years 1 to 9999. -/
structure Date where
  year : Nat
  month : Nat
  day : Nat
  /-- The year is in range and has the month, which has the day. -/
  valid : (1 ≤ year ∧ year ≤ 9999) ∧ (1 ≤ day ∧ day ≤ daysInMonth year month)
deriving DecidableEq, Repr

namespace Date

/-- The date with these parts, if there is one. -/
def of? (year month day : Nat) : Option Date :=
  if h : (1 ≤ year ∧ year ≤ 9999) ∧ (1 ≤ day ∧ day ≤ daysInMonth year month) then
    some ⟨year, month, day, h⟩
  else none

theorem month_le (d : Date) : d.month ≤ 12 := by
  have h := d.valid.2
  unfold daysInMonth at h
  split at h <;> omega

theorem day_le (d : Date) : d.day ≤ 31 := by
  have h := d.valid.2
  unfold daysInMonth at h
  split at h
  · split at h <;> omega
  all_goals omega

/-- The number of days between 0001-01-01 and the first day of a year. -/
def daysBeforeYear (year : Nat) : Nat :=
  let past := year - 1
  365 * past + past / 4 - past / 100 + past / 400

/-- The number of days of a year before a month. -/
def daysBeforeMonth (year : Nat) : Nat → Nat
  | 0 => 0
  | month + 1 => daysBeforeMonth year month + daysInMonth year month

/-- The number of days between 0001-01-01 and 1970-01-01. -/
def epoch : Nat := 719162

/-- The number of days since 1970-01-01. -/
def dayNumber (d : Date) : Int :=
  (daysBeforeYear d.year + daysBeforeMonth d.year d.month + (d.day - 1) : Nat) - (epoch : Int)

/-- The month and the day that stand `rest` days after the first of `month`, at most `tries` months on. -/
def findMonth (year month rest : Nat) : Nat → Nat × Nat
  | 0 => (month, rest + 1)
  | tries + 1 =>
    if rest < daysInMonth year month then (month, rest + 1)
    else findMonth year (month + 1) (rest - daysInMonth year month) tries

/-- The year that holds the day `n` days after 0001-01-01, and how many days of it come before. Cycles of
400, 100, 4 years and one year are counted off in turn; the last of a cycle may be a day longer. -/
def findYear (n : Nat) : Nat × Nat :=
  let cycles := n / 146097
  let n := n % 146097
  let centuries := min 3 (n / 36524)
  let n := n - centuries * 36524
  let fours := n / 1461
  let n := n % 1461
  let years := min 3 (n / 365)
  (400 * cycles + 100 * centuries + 4 * fours + years + 1, n - years * 365)

/-- The date with a day number, if it is in range. -/
def ofDayNumber? (n : Int) : Option Date :=
  let days := n + epoch
  if days < 0 then none
  else
    let (year, rest) := findYear days.toNat
    let (month, day) := findMonth year 1 rest 11
    of? year month day

end Date

end SchemaRegistry.Time

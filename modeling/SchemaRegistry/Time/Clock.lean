import SchemaRegistry.Failure
import SchemaRegistry.Time.Stored

/-!
# The clock

A session starts at midnight of 2026-01-01 in UTC, and the clock goes on by one second with each command,
unless a command sets it for itself. A clock that is set without an offset is set in UTC.
-/

namespace SchemaRegistry.Time

/-- There is a first of January in 2026. -/
theorem sessionDay_valid : (1 ≤ 2026 ∧ 2026 ≤ 9999) ∧ (1 ≤ 1 ∧ 1 ≤ daysInMonth 2026 1) := by decide

/-- The point in time at which sessions start. -/
def sessionStart : DateTime :=
  { DateTime.midnight ⟨2026, 1, 1, sessionDay_valid⟩ with offset := some .utc }

/-- What a clock shows in UTC, if its calendar has the day. -/
abbrev Reading := Option DateTime

/-- The reading of a clock that is set to a point in time. -/
def readingAt (t : DateTime) : Reading := { t with offset := some (t.offset.getD .utc) }.toUtc?

/-- The reading of the clock at a command: what its text sets, or so many seconds after the start. -/
def reading (index : Nat) : Option String → Except Failure Reading
  | some text =>
    match ofIso text with
    | .ok t => .ok (readingAt t)
    | .error fault => .error (.notTime fault text)
  | none => .ok (DateTime.ofWall? (sessionStart.wall + index * 1000000) (some .utc))

end SchemaRegistry.Time

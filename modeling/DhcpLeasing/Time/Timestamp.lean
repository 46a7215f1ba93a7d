import DhcpLeasing.Time.Calendar

/-!
# Points in time

Points in time with nanoseconds, up to the last year of the calendar, and how much later another
point is. Adding a duration never goes past the last point and never wraps.
-/

namespace DhcpLeasing

/-- A length of time in nanoseconds. -/
structure Duration where
  nanos : Nat
  deriving DecidableEq, Repr

namespace Duration

/-- The nanoseconds in a second. -/
def second : Nat := 1000000000

/-- The nanoseconds in a millisecond. -/
def milli : Nat := 1000000

/-- A number of seconds. -/
def ofSeconds (n : Nat) : Duration := ⟨n * second⟩

/-- A number of milliseconds. -/
def ofMillis (n : Nat) : Duration := ⟨n * milli⟩

/-- The whole milliseconds in a length of time. -/
def toMillis (d : Duration) : Nat := d.nanos / milli

/-- The whole seconds in a length of time. -/
def toSeconds (d : Duration) : Nat := d.nanos / second

/-- The longest difference between two times: 2^63 - 1 milliseconds. -/
def longest : Duration := ofMillis 9223372036854775807

/-- The length of time as a difference of times, unless it is too long to be one. -/
def asDifference? (d : Duration) : Option Duration :=
  if d.nanos ≤ longest.nanos then some d else none

end Duration

/-- A point in time: seconds since 1970-01-01T00:00:00Z, and nanoseconds. In a leap second, which
counts on from the second before it, the nanoseconds run from 10^9 to 2 · 10^9. -/
structure Timestamp where
  seconds : Int
  nanos : Nat
  deriving DecidableEq, Repr

namespace Timestamp

/-- Earlier or equal: by seconds, then by nanoseconds. -/
protected def le (a b : Timestamp) : Prop :=
  a.seconds < b.seconds ∨ a.seconds = b.seconds ∧ a.nanos ≤ b.nanos

instance : LE Timestamp := ⟨Timestamp.le⟩

theorem le_def {a b : Timestamp} :
    a ≤ b ↔ a.seconds < b.seconds ∨ a.seconds = b.seconds ∧ a.nanos ≤ b.nanos := Iff.rfl

instance (a b : Timestamp) : Decidable (a ≤ b) := decidable_of_iff' _ le_def

/-- The time a number of milliseconds after 1970-01-01T00:00:00Z, or before it. -/
def ofMillis (ms : Int) : Timestamp :=
  ⟨ms / 1000, (ms % 1000).toNat * Duration.milli⟩

/-- The last point in time. -/
def latest : Timestamp :=
  ⟨(Date.toDays ⟨Date.lastYear, 12, 31⟩ + 1) * 86400 - 1, Duration.second - 1⟩

/-- The date of a point in time. -/
def date (t : Timestamp) : Date :=
  Date.ofDays (t.seconds / 86400)

/-- The seconds since midnight. -/
def secondOfDay (t : Timestamp) : Nat :=
  (t.seconds % 86400).toNat

/-- The time a duration later, if the calendar reaches that far. -/
def add? (t : Timestamp) (d : Duration) : Option Timestamp :=
  let nanos := t.nanos + d.nanos
  let sum : Timestamp := ⟨t.seconds + (nanos / Duration.second : Nat), nanos % Duration.second⟩
  if sum ≤ latest then some sum else none

/-- When something that starts at `now` and lasts for `d` is over: at the latest at the end of the
calendar, also when `d` is too long for a difference of times. -/
def expiryAfter (now : Timestamp) (d : Duration) : Timestamp :=
  (now.add? (d.asDifference?.getD .longest)).getD latest

/-- The nanoseconds from `now` to `t`. A leap second of `t` does not count when `t` stands earlier
in its day than `now` does. -/
def nanosFrom (now t : Timestamp) : Int :=
  let difference := (t.seconds - now.seconds) * Duration.second + (t.nanos - now.nanos)
  if t.secondOfDay < now.secondOfDay ∧ Duration.second ≤ t.nanos then difference - Duration.second
  else difference

/-- The whole seconds that are left from `now` until `t`, none when `t` has passed. -/
def secondsLeft (now t : Timestamp) : Nat :=
  (nanosFrom now t / Duration.second).toNat

end Timestamp

end DhcpLeasing

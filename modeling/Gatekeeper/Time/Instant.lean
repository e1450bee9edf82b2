import Gatekeeper.Time.Calendar

/-!
# `Gatekeeper.Time.Instant`: readings of the clock

An instant is a whole number of nanoseconds since 1970-01-01T00:00:00Z that lies between the
first nanosecond of year -262143 and the last one of year 262142. Every arithmetic on
instants that would leave this range is an overflow, which `add?` and `subtract?` report as
`none`. A clock counts from 1970 on, so it shows no instant before.

A `Duration` is a signed number of nanoseconds without bounds.
-/

set_option autoImplicit false

namespace Gatekeeper

/-- A signed span of time, in nanoseconds. -/
abbrev Duration : Type := Int

namespace Duration

/-- The nanoseconds of a second. -/
def second : Int := 1000000000

/-- The nanoseconds of a millisecond. -/
def millisecond : Int := 1000000

/-- The longest span that settings can name, `2 ^ 63 - 1` milliseconds. -/
def longest : Duration := 0x7FFFFFFFFFFFFFFF * millisecond

/-- A span of whole seconds and nanoseconds, or `longest` if it is longer than that. -/
def clamped (seconds nanos : Nat) : Duration :=
  min (seconds * second + nanos) longest

/-- The span that seconds and nanoseconds make together, `longest` at most. The seconds have to
fit into 64 bits, with those that the nanoseconds amount to. -/
def ofParts? (seconds nanos : Nat) : Option Duration :=
  if seconds + nanos / 1000000000 < UInt64.size then some (.clamped seconds nanos) else none

/-- Half of a span, rounded down to a nanosecond. -/
def half (d : Duration) : Duration := d / 2

end Duration

/-- A reading of the clock. -/
structure Instant where
  /-- Nanoseconds since 1970-01-01T00:00:00Z. -/
  nanos : Int
  /-- The calendar begins with year -262143 and ends with year 262142. -/
  inCalendar : -8334601228800 * Duration.second ≤ nanos ∧
    nanos < 8210266876800 * Duration.second

namespace Instant

instance : DecidableEq Instant := fun a b =>
  if h : a.nanos = b.nanos then .isTrue (by cases a; cases b; simp_all)
  else .isFalse (by rintro rfl; exact h rfl)

instance : LT Instant := ⟨fun a b => a.nanos < b.nanos⟩

instance : LE Instant := ⟨fun a b => a.nanos ≤ b.nanos⟩

instance (a b : Instant) : Decidable (a < b) := inferInstanceAs (Decidable (a.nanos < b.nanos))

instance (a b : Instant) : Decidable (a ≤ b) := inferInstanceAs (Decidable (a.nanos ≤ b.nanos))

/-- The instant so many nanoseconds after 1970-01-01T00:00:00Z, if the calendar has it. -/
def ofNanos? (nanos : Int) : Option Instant :=
  if h : -8334601228800 * Duration.second ≤ nanos ∧ nanos < 8210266876800 * Duration.second then
    some ⟨nanos, h⟩
  else none

/-- The instant that a clock shows when it has counted so many nanoseconds since 1970. -/
def ofClock? (nanos : Int) : Option Instant := if 0 ≤ nanos then ofNanos? nanos else none

/-- The instant a span later, if the calendar has it. -/
def add? (t : Instant) (d : Duration) : Option Instant := ofNanos? (t.nanos + d)

/-- The instant a span earlier, if the calendar has it. -/
def subtract? (t : Instant) (d : Duration) : Option Instant := ofNanos? (t.nanos - d)

/-- The whole seconds since 1970-01-01T00:00:00Z, rounded down. -/
def secondCount (t : Instant) : Int := t.nanos / Duration.second

/-- The nanoseconds since the last full second. -/
def nanosOfSecond (t : Instant) : Nat := (t.nanos % Duration.second).toNat

/-- 1970-01-01T00:00:00Z. -/
def epoch : Instant := ⟨0, by decide⟩

instance : Inhabited Instant := ⟨epoch⟩

theorem nanos_of_ofNanos? {n : Int} {t : Instant} (h : ofNanos? n = some t) : t.nanos = n := by
  unfold ofNanos? at h
  split at h
  · obtain rfl := Option.some.inj h; rfl
  · cases h

example : (Time.Date.toDayNumber ⟨-262143, 1, 1⟩ : Int) * 86400 = -8334601228800 := by decide

example : ((Time.Date.toDayNumber ⟨262142, 12, 31⟩ + 1 : Int)) * 86400 = 8210266876800 := by decide

end Instant

end Gatekeeper

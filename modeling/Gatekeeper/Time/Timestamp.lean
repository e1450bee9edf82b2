import Gatekeeper.Time.Instant

/-!
# `Gatekeeper.Time.Timestamp`: the times that records hold

A record may hold any time that can be written down, and the last minute of a day can be
written with a sixty-first second, the leap second. A `Timestamp` is therefore an instant
and a mark that moves it into the leap second after its own. The clock never reads a leap
second: every `Instant` is a timestamp without the mark.

Timestamps are ordered as they are written, so a leap second comes after the second before
it and before the next one. The span between two timestamps counts a leap second only if
both lie on one day.
-/

set_option autoImplicit false

namespace Gatekeeper

/-- A point in time as a record holds it. -/
structure Timestamp where
  /-- The instant; in a leap second, the one a second earlier. -/
  instant : Instant
  /-- Whether the timestamp lies in the leap second that follows its instant's second. -/
  leap : Bool
  /-- A leap second is the sixty-first second of its minute. -/
  atMinuteEnd : leap = true → instant.secondCount % 60 = 59

namespace Timestamp

instance : DecidableEq Timestamp := fun a b =>
  if h : a.instant = b.instant ∧ a.leap = b.leap then
    .isTrue (by cases a; cases b; simp_all)
  else .isFalse (by rintro rfl; exact h ⟨rfl, rfl⟩)

/-- A reading of the clock as a timestamp. -/
@[coe] def ofInstant (t : Instant) : Timestamp := ⟨t, false, nofun⟩

instance : Coe Instant Timestamp := ⟨ofInstant⟩

instance : Inhabited Timestamp := ⟨ofInstant default⟩

/-- The length of the leap second, if the timestamp lies in one. -/
def leapNanos (t : Timestamp) : Int := if t.leap then Duration.second else 0

/-- The place of the timestamp among all: two seconds of room for each second. -/
def rank (t : Timestamp) : Int :=
  2 * Duration.second * t.instant.secondCount + t.leapNanos + t.instant.nanosOfSecond

instance : LT Timestamp := ⟨fun a b => a.rank < b.rank⟩

instance : LE Timestamp := ⟨fun a b => a.rank ≤ b.rank⟩

instance (a b : Timestamp) : Decidable (a < b) := inferInstanceAs (Decidable (a.rank < b.rank))

instance (a b : Timestamp) : Decidable (a ≤ b) := inferInstanceAs (Decidable (a.rank ≤ b.rank))

/-- The second of the day, where a leap second counts as the one before it. -/
def secondOfDay (t : Timestamp) : Int := t.instant.secondCount % 86400

/-- The span from `earlier` to `later`. -/
def since (later earlier : Timestamp) : Duration :=
  later.instant.nanos + later.leapNanos - (earlier.instant.nanos + earlier.leapNanos) +
    if later.secondOfDay > earlier.secondOfDay then earlier.leapNanos
    else if later.secondOfDay < earlier.secondOfDay then -later.leapNanos
    else 0

/-- On clock readings the order of timestamps is the order of their nanoseconds. -/
theorem ofInstant_lt_ofInstant {a b : Instant} : ofInstant a < ofInstant b ↔ a < b := by
  show rank _ < rank _ ↔ a.nanos < b.nanos
  have key (t : Instant) : rank (ofInstant t) = t.nanos + Duration.second * t.secondCount := by
    simp only [rank, leapNanos, ofInstant, Instant.secondCount, Instant.nanosOfSecond,
      Duration.second, Bool.false_eq_true, if_false]
    omega
  simp only [key, Instant.secondCount, Duration.second]
  omega

/-- On clock readings the span is the difference of their nanoseconds. -/
theorem ofInstant_since_ofInstant (a b : Instant) :
    (ofInstant a).since (ofInstant b) = a.nanos - b.nanos := by
  simp [since, leapNanos, ofInstant]

end Timestamp

end Gatekeeper

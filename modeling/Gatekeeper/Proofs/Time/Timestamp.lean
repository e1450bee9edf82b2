import Gatekeeper.Time.Timestamp

/-!
# `Gatekeeper.Proofs.Time.Timestamp`: the order of timestamps

Timestamps are compared by their rank. Here the rank is turned into
nanoseconds: a reading of the clock comes before a timestamp as long as
the clock has not reached its `deadline` (`ofInstant_lt_iff`). The
deadline of a leap second is the next full second, so its own fraction of
a second is lost on the clock. `lateness` is this fraction, and
`since_ofInstant_le` says how much of a span it can hide.
-/

set_option autoImplicit false

namespace Gatekeeper.Timestamp

/-- The first reading of the clock that does not come before the
timestamp. -/
def deadline (t : Timestamp) : Int :=
  if t.leap then (t.instant.secondCount + 1) * Duration.second else t.instant.nanos

/-- The fraction of a second that a leap second has, and none for other
timestamps. -/
def lateness (t : Timestamp) : Int := if t.leap then t.instant.nanosOfSecond else 0

/-- The later one of two timestamps. -/
def later (a b : Timestamp) : Timestamp := if a < b then b else a

/-- The nanoseconds of an instant are its full seconds and what is left. -/
theorem nanos_eq (t : Instant) :
    t.nanos = t.secondCount * Duration.second + t.nanosOfSecond ∧
      (t.nanosOfSecond : Int) < Duration.second := by
  simp only [Instant.secondCount, Instant.nanosOfSecond, Duration.second]
  omega

/-- A reading of the clock comes before a timestamp until the deadline. -/
theorem ofInstant_lt_iff (a : Instant) (b : Timestamp) :
    ofInstant a < b ↔ a.nanos < b.deadline := by
  obtain ⟨ha, haf⟩ := nanos_eq a
  obtain ⟨hb, hbf⟩ := nanos_eq b.instant
  show rank _ < rank _ ↔ _
  simp only [rank, leapNanos, ofInstant, deadline, Duration.second] at *
  cases b.leap <;> simp <;> omega

/-- A timestamp that has not come when the clock shows `a` is later. -/
theorem le_ofInstant_iff (a : Instant) (b : Timestamp) :
    b ≤ ofInstant a ↔ b.deadline ≤ a.nanos := by
  have hlt := ofInstant_lt_iff a b
  have hnot : b ≤ ofInstant a ↔ ¬ ofInstant a < b := Int.not_lt.symm
  rw [hnot, hlt]
  omega

theorem lateness_nonneg (t : Timestamp) : 0 ≤ t.lateness := by
  unfold lateness
  split <;> omega

@[simp] theorem lateness_ofInstant (a : Instant) : (ofInstant a).lateness = 0 := rfl

@[simp] theorem deadline_ofInstant (a : Instant) : (ofInstant a).deadline = a.nanos := rfl

/-- The calendar has the end of the first minute of 1970. -/
theorem inCalendar_minute : -8334601228800 * Duration.second ≤ 60000000000 ∧
    60000000000 < 8210266876800 * Duration.second := by
  decide

/-- A span that is not empty leads to a later instant. -/
theorem ofInstant_lt_of_add? {now later : Instant} {span : Duration}
    (h : now.add? span = some later) (hspan : 0 < span) : ofInstant now < ofInstant later := by
  rw [ofInstant_lt_ofInstant]
  show now.nanos < later.nanos
  rw [Instant.nanos_of_ofNanos? h]
  exact Int.lt_add_of_pos_right now.nanos hspan

theorem le_refl (a : Timestamp) : a ≤ a := Int.le_refl a.rank

theorem le_trans {a b c : Timestamp} (hab : a ≤ b) (hbc : b ≤ c) : a ≤ c := Int.le_trans hab hbc

theorem lt_of_lt_of_le {a b c : Timestamp} (hab : a < b) (hbc : b ≤ c) : a < c :=
  Int.lt_of_lt_of_le hab hbc

theorem not_lt {a b : Timestamp} : ¬ a < b ↔ b ≤ a := Int.not_lt

theorem not_le {a b : Timestamp} : ¬ a ≤ b ↔ b < a := Int.not_le

theorem le_of_lt {a b : Timestamp} (h : a < b) : a ≤ b := Int.le_of_lt h

/-- Two timestamps of one rank are the same. -/
theorem eq_of_rank_eq {a b : Timestamp} (h : a.rank = b.rank) : a = b := by
  obtain ⟨ha, haf⟩ := nanos_eq a.instant
  obtain ⟨hb, hbf⟩ := nanos_eq b.instant
  simp only [rank, leapNanos, Duration.second] at *
  have hleap : a.leap = b.leap := by
    cases hl : a.leap <;> cases hr : b.leap <;> simp [hl, hr] at h ⊢ <;> omega
  have hnanos : a.instant.nanos = b.instant.nanos := by
    rw [hleap] at h
    cases hr : b.leap <;> simp [hr] at h <;> omega
  obtain ⟨⟨na, _⟩, la, _⟩ := a
  obtain ⟨⟨nb, _⟩, lb, _⟩ := b
  simp only at hleap hnanos
  subst hleap hnanos
  rfl

theorem le_antisymm {a b : Timestamp} (hab : a ≤ b) (hba : b ≤ a) : a = b :=
  eq_of_rank_eq (Int.le_antisymm hab hba)

theorem le_later_left (a b : Timestamp) : a ≤ later a b := by
  unfold later
  split
  next h => exact le_of_lt h
  next => exact le_refl a

theorem le_later_right (a b : Timestamp) : b ≤ later a b := by
  unfold later
  split
  next => exact le_refl b
  next h => exact not_lt.1 h

/-- What both timestamps come before or are, the later one comes before or
is. -/
theorem later_le {a b c : Timestamp} (ha : a ≤ c) (hb : b ≤ c) : later a b ≤ c := by
  unfold later
  split
  next => exact hb
  next => exact ha

/-- What is no earlier than `a` and no later than the later one of `a` and
`b` may stand for `a` there. -/
theorem later_eq_of_between {a b c : Timestamp} (hlow : a ≤ c) (hhigh : c ≤ later a b) :
    later c b = later a b :=
  le_antisymm (later_le hhigh (le_later_right a b))
    (later_le (le_trans hlow (le_later_left c b)) (le_later_right c b))

/-- The earlier one of `a` and `b` may stand for `b` unless `b` alone is
later than `c`. -/
theorem later_eq_later_iff {a b c : Timestamp} (hle : a ≤ b) :
    later a c = later b c ↔ ¬ (c < b ∧ a < b) := by
  constructor
  · rintro heq ⟨hc, ha⟩
    have hlt : later a c < b := by
      unfold later
      split
      next => exact hc
      next => exact ha
    exact not_le.2 hlt (heq ▸ le_later_left b c)
  · intro hnot
    refine le_antisymm (later_le (le_trans hle (le_later_left b c)) (le_later_right b c))
      (later_le ?_ (le_later_right a c))
    by_cases hc : c < b
    · exact le_trans (not_lt.1 fun ha => hnot ⟨hc, ha⟩) (le_later_left a c)
    · exact le_trans (not_lt.1 hc) (le_later_right a c)

/-- The clock comes before the later one of a timestamp and a reading as
long as it comes before one of the two. -/
theorem lt_later_iff {a b c : Timestamp} : a < later b c ↔ a < b ∨ a < c := by
  unfold later
  split
  next h => exact ⟨.inr, fun h' => h'.elim (fun hb => lt_of_lt_of_le hb (le_of_lt h)) id⟩
  next h => exact ⟨.inl, fun h' => h'.elim id fun hc => lt_of_lt_of_le hc (not_lt.1 h)⟩

@[simp] theorem since_self (a : Timestamp) : a.since a = 0 := by
  simp [since]

/-- The span up to a reading of the clock is the time that the clock takes
from the deadline on, but for the fraction of a leap second. -/
theorem sub_deadline_le (later : Instant) (earlier : Timestamp) :
    later.nanos - earlier.deadline ≤ (ofInstant later).since earlier + earlier.lateness := by
  obtain ⟨he, hef⟩ := nanos_eq earlier.instant
  simp only [since, leapNanos, ofInstant, deadline, lateness, Duration.second] at *
  cases earlier.leap with
  | false => simp
  | true =>
    simp only [if_true, Bool.false_eq_true, if_false]
    -- The leap second is counted if it lies on the day of the reading.
    split
    next => omega
    next => split <;> omega

end Gatekeeper.Timestamp

import Gatekeeper.Time.Instant

/-!
# `Gatekeeper.Proofs.Time.Calendar`: every day has one date

`Date.ofDayNumber` gives each day a date of the calendar, and
`Date.toDayNumber` leads back from the date to the day. The theorems:

* `toDayNumber_ofDayNumber`: the way back ends at the same day.
* `isValid_ofDayNumber`: the calendar has the date.
* `year_ofDayNumber`: the days of the instants lie in the years from
  -262143 to 262142.

Both functions count from 1 March on. `MarchDate` names the parts into
which `Date.ofDayNumber` takes a day apart, and `marchDate` says how the
parts make up the day again, so the theorems are arithmetic on the parts.
-/

set_option autoImplicit false

namespace Gatekeeper.Time.Date

/-- The parts of a date that counts its years from 1 March on: cycles of
four centuries, centuries, groups of four years and years, and the day in
the year. A part that is longer than others of its kind is the last one. -/
structure MarchDate (n : Int) (cycle : Int) (century group part inYear : Nat) : Prop where
  sum : n + epochOffset =
    146097 * cycle + (36524 * century + 1461 * group + 365 * part + inYear : Nat)
  century_le : century ≤ 3
  group_le : group ≤ 24
  part_le : part ≤ 3
  inYear_le : inYear ≤ 365
  /-- A year has a 366th day only as the last one of its group, and the
  last group of a century only if the century is the last one of its
  cycle. -/
  leap : inYear = 365 → part = 3 ∧ (group = 24 → century = 3)

/-- The date that parts make up. -/
def ofMarch (cycle : Int) (century group part inYear : Nat) : Date :=
  let month := (5 * inYear + 2) / 153
  let day := inYear - (153 * month + 2) / 5 + 1
  let year := 400 * cycle + (100 * century + 4 * group + part : Nat)
  if month < 10 then ⟨year, month + 3, day⟩ else ⟨year + 1, month - 9, day⟩

/-- A day falls apart into the parts of its date. -/
theorem marchDate (n : Int) : ∃ cycle century group part inYear,
    MarchDate n cycle century group part inYear ∧
      ofDayNumber n = ofMarch cycle century group part inYear := by
  refine ⟨(n + epochOffset) / 146097, _, _, _, _, ⟨?_, ?_, ?_, ?_, ?_, ?_⟩, rfl⟩
  -- The parts are quotients of the day in its cycle, so each bound is linear.
  all_goals
    have hcycle : ((n + epochOffset) % 146097).toNat < 146097 := by omega
    have hsum : n + epochOffset = 146097 * ((n + epochOffset) / 146097) +
      ((n + epochOffset) % 146097).toNat := by omega
    generalize ((n + epochOffset) % 146097).toNat = inCycle at *
    omega

/-- The parts of a date make up the number of its day. -/
theorem toDayNumber_ofMarch {n cycle : Int} {century group part inYear : Nat}
    (h : MarchDate n cycle century group part inYear) :
    (ofMarch cycle century group part inYear).toDayNumber = n := by
  obtain ⟨sum, hcentury, hgroup, hpart, hinYear, -⟩ := h
  have hmonth : (5 * inYear + 2) / 153 ≤ 11 := by omega
  have hday : (153 * ((5 * inYear + 2) / 153) + 2) / 5 ≤ inYear := by omega
  -- With names for month and year, what is left is linear in them.
  generalize hm : (5 * inYear + 2) / 153 = month at hmonth hday
  generalize hy : 400 * cycle + (100 * century + 4 * group + part : Nat) = year
  have hyear : 365 * year + year / 4 - year / 100 + year / 400 =
      146097 * cycle + (36524 * century + 1461 * group + 365 * part : Nat) := by
    subst hy
    omega
  unfold ofMarch toDayNumber
  simp only [hm, hy]
  split
  next early =>
    have hleft : ¬ month + 3 ≤ 2 := by omega
    have hsame : (month + 3 + 9) % 12 = month := by omega
    simp only [if_neg hleft, hsame]
    omega
  next late =>
    have hleft : month - 9 ≤ 2 := by omega
    have hsame : (month - 9 + 9) % 12 = month := by omega
    simp only [if_pos hleft, hsame, Int.add_sub_cancel]
    omega

/-- The year of the February that ends the 366-day year of parts is a
leap year. -/
theorem isLeapYear_of_march (cycle : Int) {century group : Nat} (hgroup : group ≤ 24)
    (h : group = 24 → century = 3) :
    isLeapYear (400 * cycle + (100 * century + 4 * group + 3 : Nat) + 1) = true := by
  simp only [isLeapYear, Bool.and_eq_true, Bool.or_eq_true, beq_iff_eq, bne_iff_ne]
  omega

/-- The calendar has the date that parts make up. -/
theorem isValid_ofMarch {n cycle : Int} {century group part inYear : Nat}
    (h : MarchDate n cycle century group part inYear) :
    (ofMarch cycle century group part inYear).isValid = true := by
  obtain ⟨-, hcentury, hgroup, hpart, hinYear, hleap⟩ := h
  have hmonth : (5 * inYear + 2) / 153 ≤ 11 := by omega
  generalize hm : (5 * inYear + 2) / 153 = month at hmonth
  unfold ofMarch
  simp only [hm]
  -- February has the days that are left, and each other month its own number.
  by_cases hfebruary : month = 11
  · subst hfebruary
    have hday : inYear - 337 + 1 ≤ 29 ∧ (inYear - 337 + 1 = 29 → inYear = 365) := by omega
    by_cases hlast : inYear = 365
    · obtain ⟨rfl, hcenturyEnd⟩ := hleap hlast
      have hleapYear := isLeapYear_of_march cycle hgroup hcenturyEnd
      rw [if_neg (by decide)]
      simp only [isValid, daysInMonth, hleapYear, Bool.and_eq_true, decide_eq_true_eq]
      exact ⟨⟨⟨by decide, by decide⟩, by omega⟩, by simpa using hday.1⟩
    · rw [if_neg (by decide)]
      simp only [isValid, daysInMonth, Bool.and_eq_true, decide_eq_true_eq]
      refine ⟨⟨⟨by decide, by decide⟩, by omega⟩, ?_⟩
      simp only [Nat.reduceSub, if_true]
      split <;> omega
  · split
    next early =>
      simp only [isValid, daysInMonth, Bool.and_eq_true, decide_eq_true_eq]
      refine ⟨⟨⟨by omega, by omega⟩, by omega⟩, ?_⟩
      split
      · omega
      · split <;> omega
    next late =>
      obtain rfl : month = 10 := by omega
      simp [isValid, daysInMonth]
      omega

/-- The year of the date that parts make up, when the day is one of an
instant. -/
theorem year_ofMarch {n cycle : Int} {century group part inYear : Nat}
    (h : MarchDate n cycle century group part inYear)
    (hfirst : -96465292 ≤ n) (hlast : n < 95026237) :
    -262143 ≤ (ofMarch cycle century group part inYear).year ∧
      (ofMarch cycle century group part inYear).year ≤ 262142 := by
  obtain ⟨sum, hcentury, hgroup, hpart, hinYear, hleap⟩ := h
  have hoffset : epochOffset = 719468 := rfl
  have hcycle : -656 ≤ cycle ∧ cycle ≤ 655 := by omega
  -- Only the first and the last cycle reach the bounds, each within one century.
  have hlow : cycle = -656 → 2 ≤ century := by omega
  have hhigh : cycle = 655 → century ≤ 1 ∧ (century = 1 → group ≤ 10) := by omega
  unfold ofMarch
  dsimp only
  split
  next early =>
    show -262143 ≤ 400 * cycle + (100 * century + 4 * group + part : Nat) ∧
      400 * cycle + (100 * century + 4 * group + part : Nat) ≤ 262142
    constructor
    · by_cases hend : cycle = -656
      · have := hlow hend
        omega
      · omega
    · by_cases hend : cycle = 655
      · have := hhigh hend
        omega
      · omega
  next late =>
    show -262143 ≤ 400 * cycle + (100 * century + 4 * group + part : Nat) + 1 ∧
      400 * cycle + (100 * century + 4 * group + part : Nat) + 1 ≤ 262142
    constructor
    · by_cases hend : cycle = -656
      · have := hlow hend
        omega
      · omega
    · by_cases hend : cycle = 655
      · have := hhigh hend
        omega
      · omega

/-! ### Every day has one date -/

/-- The date of a day names that day. -/
theorem toDayNumber_ofDayNumber (n : Int) : (ofDayNumber n).toDayNumber = n := by
  obtain ⟨cycle, century, group, part, inYear, h, hdate⟩ := marchDate n
  rw [hdate, toDayNumber_ofMarch h]

/-- The calendar has the date of a day. -/
theorem isValid_ofDayNumber (n : Int) : (ofDayNumber n).isValid = true := by
  obtain ⟨cycle, century, group, part, inYear, h, hdate⟩ := marchDate n
  rw [hdate, isValid_ofMarch h]

/-- The days of the instants have years of the calendar. -/
theorem year_ofDayNumber {n : Int} (hfirst : -96465292 ≤ n) (hlast : n < 95026237) :
    -262143 ≤ (ofDayNumber n).year ∧ (ofDayNumber n).year ≤ 262142 := by
  obtain ⟨cycle, century, group, part, inYear, h, hdate⟩ := marchDate n
  rw [hdate]
  exact year_ofMarch h hfirst hlast

end Gatekeeper.Time.Date

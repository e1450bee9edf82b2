import Gatekeeper.Proofs.Text.Numeral
import Gatekeeper.Proofs.Time.Calendar
import Gatekeeper.Time.Rfc3339

/-!
# `Gatekeeper.Proofs.Time.Rfc3339`: written times read back

`Timestamp.parse_write` says that the written form of a timestamp, leap
seconds included, is read as the timestamp. The reader takes much more
than what is written, so the proof goes forward through the reader: for
each part of the written form there is a lemma that says what the reader
makes of it and what it leaves. `Timestamp.readParts_write` puts them
together, and the calendar (`Proofs/Time/Calendar.lean`) leads from the
parts back to the instant.
-/

set_option autoImplicit false

namespace Gatekeeper

open Text (padded numeral value isBlank trimStart)

namespace Time

open Text (isDigit_of_mem_padded length_padded padded_ne_nil isBlank_of_isDigit trimStart_cons
  trimStart_append value_padded)

/-! ### The parts of a written time -/

/-- Digits in front are read as their number, if the width ends with them
or no digit follows. -/
theorem readNumber_append {width : Nat} {digits rest : List Char}
    (hdigits : ∀ c ∈ digits, c.isDigit = true) (hne : digits ≠ [])
    (h : digits.length = width ∨
      digits.length ≤ width ∧ ∀ c ∈ rest.head?, c.isDigit = false) :
    readNumber width (digits ++ rest) = .ok (value digits, rest) := by
  have htaken : ((digits ++ rest).take width).takeWhile Char.isDigit = digits := by
    rcases h with h | ⟨hle, hrest⟩
    · rw [← h, List.take_left]
      rw [← List.append_nil digits, List.takeWhile_append_of_pos hdigits, List.takeWhile_nil]
    · -- What the reader takes beyond the digits begins with no digit.
      have htail : (rest.take (width - digits.length)).takeWhile Char.isDigit = [] := by
        cases rest with
        | nil => simp
        | cons c rest =>
          have hc := hrest c rfl
          cases width - digits.length <;> simp [hc]
      rw [List.take_append, List.take_of_length_le hle,
        List.takeWhile_append_of_pos hdigits, htail, List.append_nil]
  unfold readNumber
  simp only [htaken, List.isEmpty_eq_false_iff.2 hne, List.drop_left, Bool.false_eq_true,
    if_false]

/-- A number of two digits is read if it is in its range. -/
theorem readTwoDigits_padded {least greatest n : Nat} (hleast : least ≤ n)
    (hgreatest : n ≤ greatest) (h : n < 100) (rest : List Char) :
    readTwoDigits least greatest (padded 2 n ++ rest) = .ok (n, rest) := by
  have hnumber : readNumber 2 (padded 2 n ++ rest) = .ok (n, rest) := by
    rw [readNumber_append (fun c => isDigit_of_mem_padded) (padded_ne_nil 2 n)
      (.inl (length_padded (by decide) h)), value_padded]
  unfold readTwoDigits
  rw [trimStart_append (fun c => isDigit_of_mem_padded) (padded_ne_nil 2 n), hnumber]
  show (if least ≤ n ∧ n ≤ greatest then _ else _) = _
  rw [if_pos ⟨hleast, hgreatest⟩]
  rfl

/-- A mark is read over. -/
theorem readMark_cons {c : Char} (h : isBlank c = false) (rest : List Char) :
    readMark c (c :: rest) = .ok rest := by
  unfold readMark
  rw [trimStart_cons h]
  exact if_pos rfl

/-- The digits of a padded year are read as the year, whatever the width
that the reader allows beyond them. -/
theorem readNumber_padded (width : Nat) {n : Nat} (rest : List Char)
    (h : (padded 4 n).length ≤ width) :
    readNumber width (padded 4 n ++ '-' :: rest) = .ok (n, '-' :: rest) := by
  have hrest : ∀ c ∈ ('-' :: rest).head?, c.isDigit = false := by
    rintro c ⟨⟩
    decide
  rw [readNumber_append (fun c => isDigit_of_mem_padded) (padded_ne_nil 4 n)
    (.inr ⟨h, hrest⟩), value_padded]

/-- The year that a number stands for, if it fits into 32 bits. -/
theorem readYear_signed {c : Char} {cs rest : List Char} {n : Nat}
    (hsign : c = '-' ∨ c = '+') (hnumber : readNumber cs.length cs = .ok (n, rest))
    (hfits : n ≤ 0x7FFFFFFF) :
    readYear (c :: cs) = .ok (if c = '-' then -(n : Int) else n, rest) := by
  rcases hsign with rfl | rfl
  · show (readNumber cs.length cs >>= fun p =>
      if -0x80000000 ≤ -(p.1 : Int) ∧ -(p.1 : Int) ≤ 0x7FFFFFFF then
        Except.ok (-(p.1 : Int), p.2) else .error .outOfRange) = _
    rw [hnumber]
    exact if_pos (by omega)
  · show (readNumber cs.length cs >>= fun p =>
      if -0x80000000 ≤ (p.1 : Int) ∧ (p.1 : Int) ≤ 0x7FFFFFFF then
        Except.ok ((p.1 : Int), p.2) else .error .outOfRange) = _
    rw [hnumber]
    exact if_pos (by omega)

/-- The year that digits in front stand for, if it fits into 32 bits. -/
theorem readYear_bare {c : Char} {cs rest : List Char} {n : Nat} (hc : c.isDigit = true)
    (hnumber : readNumber 4 (c :: cs) = .ok (n, rest)) (hfits : n ≤ 0x7FFFFFFF) :
    readYear (c :: cs) = .ok ((n : Int), rest) := by
  have hminus : c ≠ '-' := by rintro rfl; exact absurd hc (by decide)
  unfold readYear
  rw [trimStart_cons (isBlank_of_isDigit hc)]
  dsimp only
  split
  next heq => exact absurd (List.cons.inj heq).1 hminus
  next heq =>
    obtain rfl := (List.cons.inj heq).1
    exact absurd hc (by decide)
  next =>
    have hhead : ¬ (c :: cs).head? = some '-' := fun h => hminus (Option.some.inj h)
    rw [hnumber]
    simp only [if_neg hhead]
    exact if_pos (by omega)

/-- A written year is read if it fits into 32 bits. -/
theorem readYear_writeYear {year : Int} (hlow : -0x7FFFFFFF ≤ year)
    (hhigh : year ≤ 0x7FFFFFFF) (rest : List Char) :
    readYear (writeYear year ++ '-' :: rest) = .ok (year, '-' :: rest) := by
  unfold writeYear
  split
  next bare =>
    have hlength : (padded 4 year.toNat).length = 4 := length_padded (by decide) (by omega)
    have hnumber := readNumber_padded 4 rest (Nat.le_of_eq hlength)
    obtain ⟨d, digits, hpadded⟩ := List.exists_cons_of_ne_nil (padded_ne_nil 4 year.toNat)
    have hd : d.isDigit = true :=
      isDigit_of_mem_padded (n := year.toNat) (hpadded ▸ List.mem_cons_self)
    rw [hpadded] at hnumber ⊢
    rw [List.cons_append] at hnumber ⊢
    rw [readYear_bare hd hnumber (by omega), Int.toNat_of_nonneg bare.1]
  split
  next negative =>
    have hnumber := readNumber_padded (padded 4 (-year).toNat ++ '-' :: rest).length
      (n := (-year).toNat) rest (by simp)
    rw [List.cons_append, readYear_signed (.inl rfl) hnumber (by omega), if_pos rfl]
    simp only [Except.ok.injEq, Prod.mk.injEq, and_true]
    omega
  next positive =>
    have hnumber := readNumber_padded (padded 4 year.toNat ++ '-' :: rest).length
      (n := year.toNat) rest (by simp)
    rw [List.cons_append, readYear_signed (.inr rfl) hnumber (by omega), if_neg (by decide)]
    simp only [Except.ok.injEq, Prod.mk.injEq, and_true]
    omega

/-- The decimals that are written for a part of a second are read as that
part. -/
theorem readDecimals_writeDecimals {nanos : Nat} (h : nanos < 1000000000) :
    readDecimals (writeDecimals nanos ++ ['Z']) = .ok (nanos, ['Z']) := by
  -- So many decimals are read as a number of their own unit.
  have key : ∀ {width n : Nat}, 0 < width → width ≤ 9 → n < 10 ^ width →
      readDecimals ('.' :: padded width n ++ ['Z']) =
        .ok (n * Nat.pow 10 (9 - width), ['Z']) := by
    intro width n hpos hle hn
    have hlength := length_padded hpos hn
    have hnumber : readNumber 9 (padded width n ++ ['Z']) = .ok (n, ['Z']) := by
      rw [readNumber_append (fun c => isDigit_of_mem_padded) (padded_ne_nil width n)
        (.inr ⟨by omega, by rintro c ⟨⟩; decide⟩), value_padded]
    show (readNumber 9 (padded width n ++ ['Z']) >>= fun p => _) = _
    rw [hnumber]
    show Except.ok (n * Nat.pow 10 (9 - ((padded width n ++ ['Z']).length - 1)), _) = _
    rw [List.length_append, hlength]
    rfl
  unfold writeDecimals
  split
  next none =>
    rw [none]
    rfl
  split
  next millis =>
    rw [key (by decide) (by decide) (by omega)]
    simp only [Nat.reduceSub, Nat.pow_eq, Except.ok.injEq, Prod.mk.injEq, and_true]
    omega
  split
  next micros =>
    rw [key (by decide) (by decide) (by omega)]
    simp only [Nat.reduceSub, Nat.pow_eq, Except.ok.injEq, Prod.mk.injEq, and_true]
    omega
  next =>
    rw [key (by decide) (by decide) (by omega)]
    simp

/-! ### Written times read back -/

/-- The parts of a written time are read. -/
theorem readParts_append {year : Int} {month day hour minute second nanos : Nat}
    (hyear : -0x7FFFFFFF ≤ year ∧ year ≤ 0x7FFFFFFF) (hmonth : 1 ≤ month ∧ month ≤ 12)
    (hday : 1 ≤ day ∧ day ≤ 31) (hhour : hour ≤ 23) (hminute : minute ≤ 59)
    (hsecond : second ≤ 60) (hnanos : nanos < 1000000000) :
    readParts (writeYear year ++ '-' :: (padded 2 month ++ '-' :: (padded 2 day ++
      'T' :: (padded 2 hour ++ ':' :: (padded 2 minute ++ ':' :: (padded 2 second ++
      (writeDecimals nanos ++ ['Z'])))))))
      = .ok ⟨⟨year, month, day⟩, hour, minute, second, nanos, 0⟩ := by
  have hdash (rest : List Char) : readMark '-' ('-' :: rest) = .ok rest :=
    readMark_cons (by decide) rest
  have hcolon (rest : List Char) : readMark ':' (':' :: rest) = .ok rest :=
    readMark_cons (by decide) rest
  have hzone : readZone (trimStart ['Z']) = .ok (0, []) := rfl
  unfold readParts
  rw [readYear_writeYear hyear.1 hyear.2]
  simp only [bind, Except.bind, hdash, hcolon, readSeparator,
    readTwoDigits_padded hmonth.1 hmonth.2 (by omega),
    readTwoDigits_padded hday.1 hday.2 (by omega),
    readTwoDigits_padded (Nat.zero_le _) hhour (by omega),
    readTwoDigits_padded (Nat.zero_le _) hminute (by omega),
    readTwoDigits_padded (Nat.zero_le _) hsecond (by omega),
    readDecimals_writeDecimals hnanos, hzone]
  rfl

end Time

/-! ### Written times read back -/

namespace Timestamp

open Time

/-- The parts of a timestamp, as it is written. -/
def parts (t : Timestamp) : Parts where
  date := Date.ofDayNumber (t.instant.secondCount / 86400)
  hour := (t.instant.secondCount % 86400).toNat / 3600
  minute := (t.instant.secondCount % 86400).toNat / 60 % 60
  second := (t.instant.secondCount % 86400).toNat % 60 + if t.leap then 1 else 0
  nanos := t.instant.nanosOfSecond
  offset := 0

/-- The day of an instant lies in the calendar. -/
theorem day_bounds (t : Instant) :
    -96465292 ≤ t.secondCount / 86400 ∧ t.secondCount / 86400 < 95026237 := by
  have h := t.inCalendar
  simp only [Duration.second] at h
  simp only [Instant.secondCount, Duration.second]
  omega

/-- The parts of a written timestamp are read. -/
theorem readParts_write (t : Timestamp) : readParts t.write = .ok t.parts := by
  obtain ⟨hfirst, hlast⟩ := day_bounds t.instant
  have hyear := Date.year_ofDayNumber hfirst hlast
  have hvalid := Date.isValid_ofDayNumber (t.instant.secondCount / 86400)
  simp only [Date.isValid, Bool.and_eq_true, decide_eq_true_eq] at hvalid
  obtain ⟨⟨hmonth, hday⟩, hlastDay⟩ := hvalid
  -- The reader bounds a day by 31 only, whatever the month.
  have hdays (year : Int) (month : Nat) : Date.daysInMonth year month ≤ 31 := by
    unfold Date.daysInMonth
    repeat' split
    all_goals decide
  have hdays := hdays (Date.ofDayNumber (t.instant.secondCount / 86400)).year
    (Date.ofDayNumber (t.instant.secondCount / 86400)).month
  have hnanos : t.instant.nanosOfSecond < 1000000000 := by
    simp only [Instant.nanosOfSecond, Duration.second]
    omega
  have hsecond : (t.instant.secondCount % 86400).toNat % 60 + (if t.leap then 1 else 0) ≤ 60 := by
    split <;> omega
  unfold write
  simp only [List.append_assoc, List.cons_append]
  rw [readParts_append (by omega) hmonth (by omega) (by omega) (by omega) hsecond hnanos]
  rfl

/-- An instant is the one at its nanoseconds. -/
theorem ofNanos?_nanos (t : Instant) : Instant.ofNanos? t.nanos = some t := by
  unfold Instant.ofNanos?
  rw [dif_pos t.inCalendar]

/-- The second that is written tells a leap second. -/
theorem second_parts (t : Timestamp) : (t.parts.second == 60) = t.leap := by
  have hend := t.atMinuteEnd
  simp only [parts, Instant.secondCount] at hend ⊢
  -- A leap second follows the last second of a minute, so it is written as 60.
  cases hleap : t.leap with
  | false =>
    simp only [Bool.false_eq_true, if_false, beq_eq_false_iff_ne]
    omega
  | true =>
    have := hend hleap
    simp only [if_true, beq_iff_eq]
    omega

/-- The parts of a timestamp make up the seconds of its instant, where a
leap second counts as the one before it. -/
theorem secondCount_parts (t : Timestamp) :
    t.parts.date.toDayNumber * 86400 + t.parts.hour * 3600 + t.parts.minute * 60 +
      ((if t.leap then 59 else t.parts.second : Nat) : Int) - t.parts.offset =
        t.instant.secondCount := by
  have hday := Date.toDayNumber_ofDayNumber (t.instant.secondCount / 86400)
  have hend := t.atMinuteEnd
  simp only [parts, hday] at hend ⊢
  cases hleap : t.leap with
  | false =>
    simp only [Bool.false_eq_true, if_false]
    omega
  | true =>
    have := hend hleap
    simp only [if_true]
    omega

/-- The parts of a timestamp name it. -/
theorem toTimestamp_parts (t : Timestamp) : t.parts.toTimestamp = .ok t := by
  obtain ⟨hfirst, hlast⟩ := day_bounds t.instant
  have hyear := Date.year_ofDayNumber hfirst hlast
  have hvalid : (t.parts.date.isValid && -262143 ≤ t.parts.date.year &&
      t.parts.date.year ≤ 262142 && -86400 < t.parts.offset && t.parts.offset < 86400) = true := by
    simp [parts, Date.isValid_ofDayNumber, hyear.1, hyear.2]
  have hnanos : t.instant.secondCount * Duration.second + (t.parts.nanos : Int) =
      t.instant.nanos := by
    simp only [parts, Instant.secondCount, Instant.nanosOfSecond, Duration.second]
    omega
  unfold Parts.toTimestamp
  rw [if_pos hvalid]
  dsimp only
  simp only [second_parts]
  rw [secondCount_parts, hnanos, ofNanos?_nanos]
  exact dif_pos t.atMinuteEnd

/-- A written timestamp is read as itself. -/
theorem parse_write (t : Timestamp) : parse t.write = .ok t := by
  unfold parse
  rw [readParts_write]
  exact toTimestamp_parts t

end Timestamp

end Gatekeeper

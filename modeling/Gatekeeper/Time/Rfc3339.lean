import Gatekeeper.Text.Blank
import Gatekeeper.Text.Numeral
import Gatekeeper.Time.Timestamp

/-!
# `Gatekeeper.Time.Rfc3339`: timestamps as text

A timestamp is written in UTC as `YYYY-MM-DDThh:mm:ssZ`, with three, six or nine decimals
of the second where fewer would lose some. A year before 0 or after 9999 carries its sign
and at least four digits.

`Timestamp.parse` reads what `Timestamp.write` writes and much more: blanks between the
parts, numbers with fewer digits than written ones, a lower-case or blank separator, any
offset from UTC, and the zone name UTC. The text is read from the left, and the first part
that does not fit decides why it is not a time; only then it is asked whether the calendar has
the date.
-/

set_option autoImplicit false

namespace Gatekeeper

open Text (padded numeral value isBlank trimStart)

namespace Time

/-! ### Writing -/

/-- The year, with a sign unless it lies between 0 and 9999. -/
def writeYear (year : Int) : List Char :=
  if 0 ≤ year ∧ year ≤ 9999 then padded 4 year.toNat
  else if year < 0 then '-' :: padded 4 (-year).toNat
  else '+' :: padded 4 year.toNat

/-- The decimals of the second: none, or the fewest of three, six and nine that lose nothing. -/
def writeDecimals (nanos : Nat) : List Char :=
  if nanos = 0 then []
  else if nanos % 1000000 = 0 then '.' :: padded 3 (nanos / 1000000)
  else if nanos % 1000 = 0 then '.' :: padded 6 (nanos / 1000)
  else '.' :: padded 9 nanos

end Time

/-- The written form of a timestamp. -/
def Timestamp.write (t : Timestamp) : List Char :=
  let seconds := t.instant.secondCount
  let date := Time.Date.ofDayNumber (seconds / 86400)
  let inDay := (seconds % 86400).toNat
  let second := inDay % 60 + if t.leap then 1 else 0
  Time.writeYear date.year ++ '-' :: padded 2 date.month ++ '-' :: padded 2 date.day ++
    'T' :: padded 2 (inDay / 3600) ++ ':' :: padded 2 (inDay / 60 % 60) ++
    ':' :: padded 2 second ++ Time.writeDecimals t.instant.nanosOfSecond ++ ['Z']

namespace Time

/-! ### Reading -/

/-- Why a text is not a time. -/
inductive Fault where
  /-- The text ends before the time does. -/
  | tooShort
  /-- The text goes on behind the time. -/
  | tooLong
  /-- A character stands where another one has to. -/
  | unexpected
  /-- A number is beyond its range, or the month has no such day. -/
  | outOfRange
  /-- The time is no time of the calendar in UTC. -/
  | beyondCalendar
  deriving DecidableEq, Repr

/-- The words for a cause. -/
def Fault.message : Fault → String
  | tooShort => "premature end of input"
  | tooLong => "trailing input"
  | unexpected => "input contains invalid characters"
  | outOfRange => "input is out of range"
  | beyondCalendar => "no possible date and time matching input"

/-- What comes of reading a part of a time. -/
abbrev Reading : Type → Type := Except Fault

/-- The fault of a text that has to go on in another way. -/
def misfit : List Char → Fault
  | [] => .tooShort
  | _ => .unexpected

/-- A number of one to `width` digits in front, and the rest. -/
def readNumber (width : Nat) (cs : List Char) : Reading (Nat × List Char) :=
  let digits := (cs.take width).takeWhile Char.isDigit
  if digits.isEmpty then .error (misfit cs) else .ok (value digits, cs.drop digits.length)

/-- A number of at most two digits from `least` to `greatest`, after blanks. -/
def readTwoDigits (least greatest : Nat) (cs : List Char) : Reading (Nat × List Char) := do
  let (n, rest) ← readNumber 2 (trimStart cs)
  if least ≤ n ∧ n ≤ greatest then return (n, rest) else .error .outOfRange

/-- A year of 32 bits, after blanks: up to four digits, or a sign and any number of digits. -/
def readYear (cs : List Char) : Reading (Int × List Char) := do
  let cs := trimStart cs
  let (n, rest) ← match cs with
    | '-' :: rest | '+' :: rest => readNumber rest.length rest
    | rest => readNumber 4 rest
  let year : Int := if cs.head? = some '-' then -n else n
  if -0x80000000 ≤ year ∧ year ≤ 0x7FFFFFFF then return (year, rest) else .error .outOfRange

/-- The rest after the character `c`, which may have blanks in front. -/
def readMark (c : Char) (cs : List Char) : Reading (List Char) :=
  match trimStart cs with
  | d :: rest => if d = c then .ok rest else .error .unexpected
  | [] => .error .tooShort

/-- The rest after a `T`, a `t` or a space. -/
def readSeparator : List Char → Reading (List Char)
  | 'T' :: rest | 't' :: rest | ' ' :: rest => .ok rest
  | cs => .error (misfit cs)

/-- The nanoseconds that a point and decimals in front stand for; decimals after the ninth
do not count. -/
def readDecimals : List Char → Reading (Nat × List Char)
  | '.' :: rest => do
    let (n, tail) ← readNumber 9 rest
    return (n * Nat.pow 10 (9 - (rest.length - tail.length)), tail.dropWhile Char.isDigit)
  | rest => .ok (0, rest)

/-- A number of two digits in front, and the rest. The text is too short if it ends within
two bytes. -/
def readDigitPair (cs : List Char) : Reading (Nat × List Char) :=
  match cs with
  | d :: d' :: rest =>
    if d.isDigit && d'.isDigit then .ok (value [d, d'], rest) else .error .unexpected
  | [d] => .error (if d.utf8Size < 2 then .tooShort else .unexpected)
  | [] => .error .tooShort

/-- The seconds of an offset `hh:mm` in front, where blanks and colons in any number may
stand between hours and minutes. -/
def readOffset (cs : List Char) : Reading (Int × List Char) := do
  let (hours, rest) ← readDigitPair cs
  let (minutes, rest) ← readDigitPair (rest.dropWhile fun c => c == ':' || isBlank c)
  if minutes < 60 then return ((hours * 3600 + minutes * 60 : Nat), rest)
  else .error .outOfRange

/-- The offset from UTC in seconds, by the letter `Z`, the name UTC, or in digits after a
sign. -/
def readZone (cs : List Char) : Reading (Int × List Char) :=
  if (cs.take 3).map Char.toUpper = ['U', 'T', 'C'] then .ok (0, cs.drop 3)
  else match cs with
    | 'Z' :: rest | 'z' :: rest => .ok (0, rest)
    | '+' :: rest => readOffset rest
    | '-' :: rest | '\u2212' :: rest => do
      let (offset, rest) ← readOffset rest
      return (-offset, rest)
    | cs => .error (misfit cs)

/-- The parts of a written time, as they were read. -/
structure Parts where
  date : Date
  hour : Nat
  minute : Nat
  second : Nat
  nanos : Nat
  /-- Seconds east of UTC. -/
  offset : Int

/-- The parts of a written time. -/
def readParts (cs : List Char) : Reading Parts := do
  let (year, cs) ← readYear cs
  let (month, cs) ← readTwoDigits 1 12 (← readMark '-' cs)
  let (day, cs) ← readTwoDigits 1 31 (← readMark '-' cs)
  let cs ← readSeparator cs
  let (hour, cs) ← readTwoDigits 0 23 cs
  let (minute, cs) ← readTwoDigits 0 59 (← readMark ':' cs)
  let (second, cs) ← readTwoDigits 0 60 (← readMark ':' cs)
  let (nanos, cs) ← readDecimals cs
  let (offset, cs) ← readZone (trimStart cs)
  if cs.all isBlank then return ⟨⟨year, month, day⟩, hour, minute, second, nanos, offset⟩
  else .error .tooLong

/-- The timestamp that the parts name. -/
def Parts.toTimestamp (parts : Parts) : Reading Timestamp :=
  if parts.date.isValid && -262143 ≤ parts.date.year && parts.date.year ≤ 262142 &&
      -86400 < parts.offset && parts.offset < 86400 then
    let leap := parts.second == 60
    let seconds := parts.date.toDayNumber * 86400 + parts.hour * 3600 + parts.minute * 60 +
      (if leap then 59 else parts.second) - parts.offset
    match Instant.ofNanos? (seconds * Duration.second + parts.nanos) with
    | some t =>
      if h : leap = true → t.secondCount % 60 = 59 then .ok ⟨t, leap, h⟩
      else .error .beyondCalendar
    | none => .error .beyondCalendar
  else .error .outOfRange

end Time

/-- The timestamp that a text stands for. -/
def Timestamp.parse (cs : List Char) : Time.Reading Timestamp := do
  (← Time.readParts cs).toTimestamp

end Gatekeeper

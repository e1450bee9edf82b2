/-!
# `Gatekeeper.Double.Basic`: numbers of double precision

A number of double precision is a mantissa of at most 53 bits times a power of two. Only such
numbers that are not negative are kept here; a sign is the business of those who write
numbers. Everything is exact arithmetic on whole numbers, and a quotient is rounded once: to
the nearest number of double precision, and halfway between two to the one with the even
mantissa. There is none for a quotient that rounds to `2 ^ 1024` or more.
-/

set_option autoImplicit false

namespace Gatekeeper

/-- A number of double precision that is not negative. -/
structure Double where
  mantissa : Nat
  /-- The power of two that the mantissa counts. -/
  exponent : Int
  /-- The mantissa has 53 bits, or fewer if there is no smaller power of two. -/
  isDouble : mantissa < 0x20000000000000 ∧ -1074 ≤ exponent ∧ exponent ≤ 971 ∧
    (exponent = -1074 ∨ 0x10000000000000 ≤ mantissa)
  deriving DecidableEq, Repr

namespace Double

/-- The number with these parts, if there is one. -/
def ofParts? (mantissa : Nat) (exponent : Int) : Option Double :=
  if h : mantissa < 0x20000000000000 ∧ -1074 ≤ exponent ∧ exponent ≤ 971 ∧
      (exponent = -1074 ∨ 0x10000000000000 ≤ mantissa) then
    some ⟨mantissa, exponent, h⟩
  else none

/-- Zero. -/
def zero : Double := ⟨0, -1074, by decide⟩

instance : Inhabited Double := ⟨zero⟩

/-- The whole number nearest to a quotient; of two, the even one. -/
def nearestWhole (num den : Nat) : Nat :=
  let quotient := num / den
  let twice := 2 * (num % den)
  if twice < den ∨ (twice = den ∧ quotient % 2 = 0) then quotient else quotient + 1

/-- How often the power of two goes into a quotient, to the nearest whole number. -/
def countOf (num den : Nat) (exponent : Int) : Nat :=
  nearestWhole (num * Nat.pow 2 (-exponent).toNat) (den * Nat.pow 2 exponent.toNat)

/-- The number nearest to a quotient, if it is not too large. The power of two is the smallest
one that goes into it fewer than `2 ^ 53` times; the bits of both parts leave three to try. -/
def ofRatio? (num den : Nat) : Option Double :=
  if num = 0 then some zero
  else
    let least : Int := max (-1074) (num.log2 - den.log2 - 53)
    [least, least + 1, least + 2].findSome? fun exponent =>
      ofParts? (countOf num den exponent) exponent

/-- The numerator of a number over `denominator`. -/
def numerator (d : Double) : Nat := d.mantissa * Nat.pow 2 d.exponent.toNat

/-- The denominator of a number, a power of two. -/
def denominator (d : Double) : Nat := Nat.pow 2 (-d.exponent).toNat

/-- The product, if it is not too large. -/
def times? (a b : Double) : Option Double :=
  ofRatio? (a.numerator * b.numerator) (a.denominator * b.denominator)

/-- The quotient, if it is not too large. -/
def over? (a b : Double) : Option Double :=
  ofRatio? (a.numerator * b.denominator) (a.denominator * b.numerator)

/-- The number nearest to a power of ten, which may not exceed `10 ^ 308`. -/
def powerOfTen? (n : Nat) : Option Double :=
  if n ≤ 308 then ofRatio? (Nat.pow 10 n) 1 else none

/-- The number divided by a power of ten, by `10 ^ 308` at most at a time. No number below
`2 ^ 64` survives two divisions by it. -/
def overPowerOfTen? (d : Double) (n : Nat) : Option Double := do
  if n ≤ 308 then d.over? (← powerOfTen? n)
  else if n ≤ 616 then (← d.over? (← powerOfTen? 308)).over? (← powerOfTen? (n - 308))
  else return zero

/-- The number that stands for `significand * 10 ^ exponent`, where the significand has at most
64 bits, if it is not too large. The significand and the power of ten are rounded first and
their product or quotient after that, so it need not be the nearest one. -/
def ofDecimal? (significand : Nat) (exponent : Int) : Option Double := do
  if significand = 0 then return zero
  else
    let d ← ofRatio? significand 1
    if 0 ≤ exponent then d.times? (← powerOfTen? exponent.toNat)
    else d.overPowerOfTen? (-exponent).toNat

example : ofRatio? 1 1 = ofParts? 0x10000000000000 (-52) := by decide +kernel

example : ofRatio? 1 3 = ofParts? 0x15555555555555 (-54) := by decide +kernel

example : ofDecimal? 17976931348623157 292 = ofParts? 0x1FFFFFFFFFFFFF 971 := by decide +kernel

example : ofDecimal? 17976931348623158 292 = none := by decide +kernel

end Double

end Gatekeeper

/-!
# `Gatekeeper.Text.Numeral`: decimal numerals

Writing and reading of natural numbers in ASCII decimal digits. `value_numeral` says that a
written number reads back; `value_padded` says the same of a number written to a least
width.
-/

set_option autoImplicit false

namespace Gatekeeper.Text

/-- The decimal digits of `n`, without leading zeros. -/
def numeral (n : Nat) : List Char := Nat.toDigits 10 n

/-- The decimal digits of `n`, with zeros in front up to `width` digits. -/
def padded (width n : Nat) : List Char :=
  List.replicate (width - (numeral n).length) '0' ++ numeral n

/-- The number that a row of decimal digits stands for. -/
def value (digits : List Char) : Nat := Nat.ofDigitChars 10 digits 0

/-- The number that results when decimal digits are put behind `n`, as many of them as keep it
at most `limit`, and the digits from the first one on that does not. -/
def valueUpTo (limit : Nat) : Nat → List Char → Nat × List Char
  | n, [] => (n, [])
  | n, d :: digits =>
    let longer := 10 * n + value [d]
    if longer ≤ limit then valueUpTo limit longer digits else (n, d :: digits)

/-- The longest row of decimal digits in front, and what follows it. -/
def spanDigits (cs : List Char) : List Char × List Char :=
  (cs.takeWhile Char.isDigit, cs.dropWhile Char.isDigit)

/-- The number that a text of one to any number of decimal digits stands for, with an
optional plus sign in front, if it is at most `limit`. -/
def boundedNumeral? (limit : Nat) (cs : List Char) : Option Nat :=
  let digits := match cs with
    | '+' :: rest => rest
    | _ => cs
  if !digits.isEmpty && digits.all Char.isDigit && value digits ≤ limit then
    some (value digits)
  else none

theorem value_numeral (n : Nat) : value (numeral n) = n :=
  Nat.ofDigitChars_toDigits (by decide) (by decide)

theorem value_padded (width n : Nat) : value (padded width n) = n := by
  have zeros : ∀ k, Nat.ofDigitChars 10 (List.replicate k '0') 0 = 0 := by
    intro k
    induction k with
    | zero => rfl
    | succ k ih => simpa [List.replicate_succ, Nat.ofDigitChars] using ih
  unfold padded value Nat.ofDigitChars
  rw [List.foldl_append]
  have := zeros (width - (numeral n).length)
  unfold Nat.ofDigitChars at this
  rw [this]
  exact value_numeral n

example : boundedNumeral? 255 "+007".toList = some 7 := by decide

example : valueUpTo 255 0 "2567".toList = (25, ['6', '7']) := by decide

example : boundedNumeral? 255 "256".toList = none ∧ boundedNumeral? 255 "+".toList = none := by
  decide

end Gatekeeper.Text

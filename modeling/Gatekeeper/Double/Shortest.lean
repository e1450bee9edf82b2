import Gatekeeper.Double.Basic
import Gatekeeper.Text.Numeral

/-!
# `Gatekeeper.Double.Shortest`: numbers of double precision as text

A number is written with the fewest decimal digits that read back: the decimals that round to
it lie between the points halfway to its neighbours, and among them those on the coarsest grid
of powers of ten are the shortest. Of two, the nearer one is written.

Numbers from `10 ^ -5` up to `10 ^ 16` are written out, with a decimal after the point at
least, and all others with a power of ten that has a sign.
-/

set_option autoImplicit false

namespace Gatekeeper.Double

/-- Compares `a * 10 ^ i` with `b * 2 ^ j`. -/
def compareScaled (a : Nat) (i : Int) (b : Nat) (j : Int) : Ordering :=
  compare (a * Nat.pow 10 i.toNat * Nat.pow 2 (-j).toNat)
    (b * Nat.pow 2 j.toNat * Nat.pow 10 (-i).toNat)

/-- Whether `digits * 10 ^ place` rounds to the number: it lies between the points halfway to
the neighbours, or on one of them if the mantissa is even. The neighbour below a power of two
is nearer than the one above. -/
def readsBack (d : Double) (digits : Nat) (place : Int) : Bool :=
  let isNarrow := d.mantissa == 0x10000000000000 && d.exponent != -1074
  let low := compareScaled digits place (4 * d.mantissa - if isNarrow then 1 else 2)
    (d.exponent - 2)
  let high := compareScaled digits place (4 * d.mantissa + 2) (d.exponent - 2)
  let isEven := d.mantissa % 2 == 0
  (low == .gt || (isEven && low == .eq)) && (high == .lt || (isEven && high == .eq))

/-- The multiple of `10 ^ place` that is to be written, if one reads back. -/
def onGrid? (d : Double) (place : Int) : Option (Nat × Int) :=
  let below := d.mantissa * Nat.pow 2 d.exponent.toNat * Nat.pow 10 (-place).toNat /
    (Nat.pow 2 (-d.exponent).toNat * Nat.pow 10 place.toNat)
  let above := below + 1
  match 0 < below && d.readsBack below place, d.readsBack above place with
  | true, true =>
    match compareScaled (below + above) place (2 * d.mantissa) d.exponent with
    | .gt => some (below, place)
    | .lt => some (above, place)
    | .eq => some (if below % 2 = 0 then below else above, place)
  | true, false => some (below, place)
  | false, true => some (above, place)
  | false, false => none

/-- The shortest decimal that reads back, as digits and the power of ten that they count. It
has seventeen digits at most, and the number of bits tells its first place up to one or two. -/
def shortest (d : Double) : Nat × Int :=
  let top : Int := (d.exponent + d.mantissa.log2 + 1) * 30103 / 100000 + 1
  match (List.range 24).findSome? fun (i : Nat) => d.onGrid? (top - i) with
  | some decimal => decimal
  | none => (d.mantissa * Nat.pow 2 d.exponent.toNat * Nat.pow 5 (-d.exponent).toNat,
      min d.exponent 0)

/-- The digits with a point after the first `whole` ones, and zeros where there are none. -/
def writePositional (digits : List Char) (whole : Int) : List Char :=
  let front := if 0 < whole then digits.take whole.toNat else ['0']
  let back := List.replicate (-whole).toNat '0' ++ digits.drop whole.toNat
  front ++ List.replicate (whole.toNat - digits.length) '0' ++
    '.' :: if back.isEmpty then ['0'] else back

/-- The digits with a point after the first one, and the power of ten. -/
def writeScientific (digits : List Char) (power : Int) : List Char :=
  let point := if digits.length = 1 then [] else ['.']
  digits.take 1 ++ point ++ digits.drop 1 ++
    'e' :: (if power < 0 then '-' else '+') :: Text.numeral power.natAbs

/-- The written form of a number. -/
def write (d : Double) : List Char :=
  if d.mantissa = 0 then ['0', '.', '0']
  else
    let (significand, place) := d.shortest
    let digits := Text.numeral significand
    let whole := digits.length + place
    if -5 < whole ∧ whole ≤ 16 then writePositional digits whole
    else writeScientific digits (whole - 1)

example : (ofDecimal? 1 23).map write = some "1e+23".toList := by decide +kernel

example : (ofDecimal? 150 (-2)).map write = some "1.5".toList := by decide +kernel

example : (ofDecimal? 1 2).map write = some "100.0".toList := by decide +kernel

example : (ofDecimal? 123 (-7)).map write = some "0.0000123".toList := by decide +kernel

example : (ofDecimal? 5 (-324)).map write = some "5e-324".toList := by decide +kernel

end Gatekeeper.Double

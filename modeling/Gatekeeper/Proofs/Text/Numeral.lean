import Gatekeeper.Text.Blank
import Gatekeeper.Text.Numeral
import Mathlib.Algebra.Group.Nat.Defs

/-!
# `Gatekeeper.Proofs.Text.Numeral`: the digits of a number

What a row of decimal digits looks like to a reader. A numeral is a row
of digits that is not empty (`isDigit_of_mem_numeral`,
`numeral_ne_nil`), without a zero in front of other digits
(`numeral_ne_zero_cons`). A padded one has its width (`length_padded`).
`spanDigits_append` and `valueUpTo_eq` say what the two readers of digits
make of such rows.
-/

set_option autoImplicit false

namespace Gatekeeper.Text

/-- The characters of a numeral are digits. -/
theorem isDigit_of_mem_numeral {n : Nat} {c : Char} (h : c ∈ numeral n) : c.isDigit = true :=
  Nat.isDigit_of_mem_toDigits (by decide) (by decide) h

/-- A numeral has a digit. -/
theorem numeral_ne_nil (n : Nat) : numeral n ≠ [] := Nat.toDigits_ne_nil

/-- Digits put behind a number leave it at least as large. -/
theorem le_ofDigitChars (digits : List Char) (n : Nat) :
    n ≤ Nat.ofDigitChars 10 digits n := by
  induction digits generalizing n with
  | nil => simp
  | cons d digits ih =>
    rw [Nat.ofDigitChars_cons]
    have := ih (10 * n + (d.toNat - '0'.toNat))
    omega

/-- No digit is dropped when the whole number stays within the limit. -/
theorem valueUpTo_eq {limit n : Nat} {digits : List Char}
    (h : Nat.ofDigitChars 10 digits n ≤ limit) :
    valueUpTo limit n digits = (Nat.ofDigitChars 10 digits n, []) := by
  induction digits generalizing n with
  | nil => simp [valueUpTo]
  | cons d digits ih =>
    have hd : value [d] = d.toNat - '0'.toNat := by
      simp [value, Nat.ofDigitChars_cons]
    rw [Nat.ofDigitChars_cons] at h ⊢
    have hle := le_ofDigitChars digits (10 * n + (d.toNat - '0'.toNat))
    unfold valueUpTo
    rw [hd, if_pos (by omega)]
    exact ih h

/-- So many digits make a number below that power of ten. -/
theorem ofDigitChars_lt {digits : List Char} (h : ∀ c ∈ digits, c.isDigit = true) :
    Nat.ofDigitChars 10 digits 0 < 10 ^ digits.length := by
  induction digits with
  | nil => simp
  | cons d digits ih =>
    have hd : d.toNat - '0'.toNat ≤ 9 := by
      have := h d List.mem_cons_self
      simp only [Char.isDigit, Bool.and_eq_true, decide_eq_true_eq] at this
      have hle : d.toNat ≤ 57 := this.2
      have : '0'.toNat = 48 := rfl
      omega
    have hrest := ih fun c hc => h c (List.mem_cons_of_mem d hc)
    rw [Nat.ofDigitChars_cons, Nat.ofDigitChars_eq_ofDigitChars_zero, List.length_cons,
      Nat.pow_succ]
    -- A digit is nine at most, so it stays below the next power of ten.
    have : 10 ^ digits.length * (10 * 0 + (d.toNat - '0'.toNat)) ≤ 10 ^ digits.length * 9 :=
      Nat.mul_le_mul_left _ (by omega)
    omega

/-- A numeral of two digits or more does not begin with a zero. -/
theorem numeral_ne_zero_cons {n : Nat} {d : Char} {digits : List Char} :
    numeral n ≠ '0' :: d :: digits := by
  intro h
  have hdigits : ∀ c ∈ d :: digits, c.isDigit = true := fun c hc =>
    isDigit_of_mem_numeral (n := n) (h ▸ List.mem_cons_of_mem _ hc)
  have hvalue : n = Nat.ofDigitChars 10 (d :: digits) 0 := by
    rw [← Nat.ofDigitChars_ten_toDigits (n := n)]
    show Nat.ofDigitChars 10 (numeral n) 0 = _
    rw [h, Nat.ofDigitChars_cons]
    rfl
  -- The zero adds nothing, so the digits behind it would do as a numeral.
  have hlength : (Nat.toDigits 10 n).length ≤ (d :: digits).length :=
    (Nat.length_toDigits_le_iff (by decide) (by simp)).2 (hvalue ▸ ofDigitChars_lt hdigits)
  rw [show Nat.toDigits 10 n = numeral n from rfl, h] at hlength
  simp only [List.length_cons] at hlength
  omega

/-- The digits in front of a text that goes on otherwise. -/
theorem spanDigits_append {digits rest : List Char} (h : ∀ c ∈ digits, c.isDigit = true)
    (hrest : ∀ c ∈ rest.head?, c.isDigit = false) :
    spanDigits (digits ++ rest) = (digits, rest) := by
  have htail : rest.takeWhile Char.isDigit = [] ∧ rest.dropWhile Char.isDigit = rest := by
    cases rest with
    | nil => simp
    | cons c rest => simp [hrest c rfl]
  unfold spanDigits
  rw [List.takeWhile_append_of_pos h, List.dropWhile_append_of_pos h, htail.1, htail.2,
    List.append_nil]

/-- A padded numeral is made of digits. -/
theorem isDigit_of_mem_padded {width n : Nat} {c : Char} (h : c ∈ padded width n) :
    c.isDigit = true := by
  rcases List.mem_append.1 h with h | h
  · rw [(List.mem_replicate.1 h).2]
    decide
  · exact isDigit_of_mem_numeral h

/-- A padded numeral has its width, unless the number is too large. -/
theorem length_padded {width n : Nat} (hwidth : 0 < width) (h : n < 10 ^ width) :
    (padded width n).length = width := by
  have hle : (numeral n).length ≤ width := (Nat.length_toDigits_le_iff (by decide) hwidth).2 h
  rw [padded, List.length_append, List.length_replicate]
  omega

/-- A padded numeral has a digit. -/
theorem padded_ne_nil (width n : Nat) : padded width n ≠ [] := by
  intro h
  exact numeral_ne_nil n (List.append_eq_nil_iff.1 h).2

/-- No digit is blank. -/
theorem isBlank_of_isDigit {c : Char} (h : c.isDigit = true) : isBlank c = false := by
  simp only [Char.isDigit, Bool.and_eq_true, decide_eq_true_eq] at h
  have hlow : 48 ≤ c.toNat := h.1
  have hhigh : c.toNat ≤ 57 := h.2
  simp [isBlank]
  omega

/-- Nothing is trimmed in front of a character that is not blank. -/
theorem trimStart_cons {c : Char} (h : isBlank c = false) (cs : List Char) :
    trimStart (c :: cs) = c :: cs := by
  simp [trimStart, h]

/-- Nothing is trimmed in front of a digit. -/
theorem trimStart_append {digits : List Char} (h : ∀ c ∈ digits, c.isDigit = true)
    (hne : digits ≠ []) (rest : List Char) :
    trimStart (digits ++ rest) = digits ++ rest := by
  obtain ⟨d, digits, rfl⟩ := List.exists_cons_of_ne_nil hne
  exact trimStart_cons (isBlank_of_isDigit (h d List.mem_cons_self)) _

end Gatekeeper.Text

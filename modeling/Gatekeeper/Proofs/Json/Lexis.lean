import Gatekeeper.Json.Lexis
import Gatekeeper.Proofs.Text.Numeral

/-!
# `Gatekeeper.Proofs.Json.Lexis`: strings and whole numbers read back

What is written for a string or a whole number is read back from the
front of a text, and the rest of the text is left. The theorems:

* `readStringBody_escaped`: the characters of a written string, behind
  its opening quotation mark, are read as the string. One round of
  `readChars` undoes one `escapeChar` (`readChars_escapeChar`).
* `readNumber_numeral` and `readNumber_negative`: a written whole number
  that is kept as it is is read as itself, if what follows does not make
  it longer (`EndsNumber`).
-/

set_option autoImplicit false

namespace Gatekeeper.Json

open Text (numeral valueUpTo spanDigits isDigit_of_mem_numeral numeral_ne_nil
  numeral_ne_zero_cons valueUpTo_eq spanDigits_append)

/-! ### Strings -/

/-- A written hexadecimal digit stands for its number. -/
theorem hexDigit?_digitChar {d : Nat} (h : d < 16) :
    hexDigit? (Nat.digitChar d) = some d := by
  have all : ∀ d < 16, hexDigit? (Nat.digitChar d) = some d := by decide
  exact all d h

/-- The escape that is written for a character below U+0020 is read as
the character. -/
theorem readEscape_control {c : Char} (h : c.toNat < 0x20) (rest : List Char) :
    readEscape ('u' :: '0' :: '0' :: Nat.digitChar (c.toNat / 16) ::
      Nat.digitChar (c.toNat % 16) :: rest) = .ok (c, rest) := by
  have hzero : hexDigit? '0' = some 0 := by decide
  have hhigh := hexDigit?_digitChar (d := c.toNat / 16) (by omega)
  have hlow := hexDigit?_digitChar (d := c.toNat % 16) (by omega)
  have hhex : readHex ('0' :: '0' :: Nat.digitChar (c.toNat / 16) ::
      Nat.digitChar (c.toNat % 16) :: rest) = .ok (c.toNat, rest) := by
    simp [readHex, List.mapM_cons, hzero, hhigh, hlow]
    omega
  show (readHex _ >>= fun p => readUnits p.1 p.2) = _
  rw [hhex]
  show readUnits c.toNat rest = _
  -- A unit below the surrogates is a character by itself.
  unfold readUnits
  rw [if_neg (by omega), if_pos (by omega), Char.ofNat_toNat]

/-- One round of reading undoes the escape of one character. -/
theorem readChars_escapeChar (c : Char) (fuel : Nat) (rest : List Char) :
    readChars (fuel + 1) (escapeChar c ++ rest) =
      (readChars fuel rest).map fun p => (c :: p.1, p.2) := by
  unfold escapeChar
  -- First the characters that are escaped by one letter.
  split
  · subst_vars; rfl
  split
  · subst_vars; rfl
  split
  · subst_vars; rfl
  split
  · subst_vars; rfl
  split
  · subst_vars; rfl
  split
  · subst_vars; rfl
  split
  · subst_vars; rfl
  split
  next control =>
    show (readEscape _ >>= fun p => (readChars fuel p.2).bind fun q =>
      .ok (p.1 :: q.1, q.2)) = _
    erw [readEscape_control control]
    rfl
  next notQuote notSolidus _ _ _ _ _ notControl =>
    show (if c = '"' then _ else _) = _
    rw [if_neg notQuote, if_neg notSolidus, if_neg notControl]
    rfl

/-- No escape is empty. -/
theorem escapeChar_length_pos (c : Char) : 0 < (escapeChar c).length := by
  unfold escapeChar
  repeat' split
  all_goals simp

/-- An escaped text is at least as long as the text. -/
theorem length_le_length_flatMap_escapeChar (cs : List Char) :
    cs.length ≤ (cs.flatMap escapeChar).length := by
  induction cs with
  | nil => simp
  | cons c cs ih =>
    have hc := escapeChar_length_pos c
    rw [List.flatMap_cons, List.length_append, List.length_cons]
    omega

/-- The escapes of a text in front of a closing quotation mark are read
as the text, if the fuel lasts. -/
theorem readChars_flatMap_escapeChar (cs rest : List Char) {fuel : Nat}
    (h : cs.length < fuel) :
    readChars fuel (cs.flatMap escapeChar ++ '"' :: rest) = .ok (cs, rest) := by
  induction cs generalizing fuel with
  | nil =>
    obtain ⟨fuel, rfl⟩ := Nat.exists_eq_succ_of_ne_zero (Nat.ne_of_gt h)
    rfl
  | cons c cs ih =>
    obtain ⟨fuel, rfl⟩ := Nat.exists_eq_succ_of_ne_zero (by omega : fuel ≠ 0)
    have hfuel : cs.length < fuel := by simpa using h
    rw [List.flatMap_cons, List.append_assoc, readChars_escapeChar, ih hfuel]
    rfl

/-- The body of a written string is read as the string. -/
theorem readStringBody_escaped (s : String) (rest : List Char) :
    readStringBody (s.toList.flatMap escapeChar ++ '"' :: rest) = .ok (s, rest) := by
  have hfuel : s.toList.length < (s.toList.flatMap escapeChar ++ '"' :: rest).length + 1 := by
    have := length_le_length_flatMap_escapeChar s.toList
    rw [List.length_append]
    omega
  unfold readStringBody
  rw [readChars_flatMap_escapeChar _ _ hfuel]
  show Except.ok (String.ofList s.toList, rest) = _
  rw [String.ofList_toList]

/-- A written string begins with a quotation mark, and its body reads
back. -/
theorem writeString_append (s : String) (rest : List Char) :
    writeString s ++ rest = '"' :: (s.toList.flatMap escapeChar ++ '"' :: rest) := by
  simp [writeString]

/-! ### Whole numbers -/

/-- The text does not go on like a number: no digit, no point and no
power of ten is in front. -/
def EndsNumber (rest : List Char) : Prop :=
  ∀ c ∈ rest.head?, c.isDigit = false ∧ c ≠ '.' ∧ c ≠ 'e' ∧ c ≠ 'E'

/-- A numeral is read as its number, or as the number below zero. -/
theorem readUnsigned_numeral (isNegative : Bool) {n : Nat} (h : n ≤ greatestWhole)
    {rest : List Char} (hrest : EndsNumber rest) :
    readUnsigned isNegative (numeral n ++ rest) =
      if !isNegative then .ok (.integer n, rest)
      else if 0 < n ∧ n ≤ greatestDebt then .ok (.integer (-n), rest)
      else scaled isNegative n 0 rest := by
  have hspan : spanDigits (numeral n ++ rest) = (numeral n, rest) :=
    spanDigits_append (fun c hc => isDigit_of_mem_numeral hc) fun c hc => (hrest c hc).1
  -- The digits are followed by neither a fraction nor a power of ten.
  have hfraction : readFraction rest = .ok ([], rest) := by
    unfold readFraction
    split
    next => exact absurd rfl (hrest '.' rfl).2.1
    next => rfl
  have hpower : readPower rest = .ok (none, rest) := by
    unfold readPower
    split
    next => exact absurd rfl (hrest 'e' rfl).2.2.1
    next => exact absurd rfl (hrest 'E' rfl).2.2.2
    next => rfl
  have hvalue : valueUpTo greatestWhole 0 (numeral n) = (n, []) := by
    have : Nat.ofDigitChars 10 (numeral n) 0 = n := Nat.ofDigitChars_ten_toDigits
    rw [valueUpTo_eq (by omega), this]
  obtain ⟨d, digits, hnumeral⟩ := List.exists_cons_of_ne_nil (numeral_ne_nil n)
  unfold readUnsigned
  rw [hspan]
  -- A numeral has a digit, and no zero in front of others.
  split
  next heq => simp [hnumeral] at heq
  next heq => simp [hnumeral] at heq
  next heq => exact absurd (congrArg Prod.fst heq) numeral_ne_zero_cons
  next heq =>
    cases heq
    rw [hfraction]
    show (readPower rest >>= fun p => _) = _
    rw [hpower, hvalue]
    rfl

/-- A written whole number is read as itself. -/
theorem readNumber_numeral {n : Nat} (h : n ≤ greatestWhole) {rest : List Char}
    (hrest : EndsNumber rest) :
    readNumber (numeral n ++ rest) = .ok (.integer n, rest) := by
  obtain ⟨d, digits, hnumeral⟩ := List.exists_cons_of_ne_nil (numeral_ne_nil n)
  have hd : d.isDigit = true := isDigit_of_mem_numeral (n := n) (by simp [hnumeral])
  unfold readNumber
  split
  next heq =>
    rw [hnumeral] at heq
    cases heq
    exact absurd hd (by decide)
  next => exact readUnsigned_numeral false h hrest

/-- A written whole number below zero is read as itself. -/
theorem readNumber_negative {n : Nat} (hpos : 0 < n) (h : n ≤ greatestDebt) {rest : List Char}
    (hrest : EndsNumber rest) :
    readNumber ('-' :: (numeral n ++ rest)) = .ok (.integer (-n), rest) := by
  have hwhole : n ≤ greatestWhole := Nat.le_trans h (by decide)
  show readUnsigned true (numeral n ++ rest) = _
  rw [readUnsigned_numeral true hwhole hrest, if_neg (by decide), if_pos ⟨hpos, h⟩]

end Gatekeeper.Json

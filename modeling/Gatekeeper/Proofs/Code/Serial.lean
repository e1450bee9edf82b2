import Gatekeeper.Code.Store
import Gatekeeper.Json.Lexis

/-!
# `Gatekeeper.Proofs.Code.Serial`: no two codes are alike

The text of a code is a mark and the digits of a number that was drawn
for it. `Bears text n` says so, and `Bears.unique` says that a text
stands for one number only: the marks differ, and the digits tell the
number. As no number is drawn twice, no text is issued twice. The same
holds of session tokens and codes together (`Numbered.unique`).
-/

set_option autoImplicit false

namespace Gatekeeper

namespace SerialId

/-- The number that hexadecimal digits stand for, put behind a number. -/
def value (n : Nat) (digits : List Char) : Nat :=
  digits.foldl (fun n c => 16 * n + (Json.hexDigit? c).getD 0) n

/-- The digit of a number below sixteen stands for that number. -/
theorem hexDigit?_digitChar {n : Nat} (h : n < 16) : (Json.hexDigit? n.digitChar).getD 0 = n := by
  have hall : ∀ n : Fin 16, (Json.hexDigit? n.val.digitChar).getD 0 = n.val := by decide
  exact hall ⟨n, h⟩

/-- The digits of a number stand for it. -/
theorem value_toDigits (n : Nat) : value 0 (Nat.toDigits 16 n) = n := by
  induction n using Nat.strongRecOn with
  | ind n ih =>
    rw [Nat.toDigits_eq_if (by decide)]
    split
    next hlt =>
      show 16 * 0 + (Json.hexDigit? n.digitChar).getD 0 = n
      rw [hexDigit?_digitChar hlt, Nat.mul_zero, Nat.zero_add]
    next hle =>
      have hlow := hexDigit?_digitChar (Nat.mod_lt n (by decide : 0 < 16))
      unfold value at ih ⊢
      rw [List.foldl_append, ih (n / 16) (by omega), List.foldl_cons, List.foldl_nil, hlow]
      exact Nat.div_add_mod n 16

/-- Zeros in front do not count. -/
theorem value_zeros (count : Nat) (digits : List Char) :
    value 0 (List.replicate count '0' ++ digits) = value 0 digits := by
  induction count with
  | zero => rfl
  | succ count ih => exact ih

/-- The digits of an id tell its number. -/
theorem digits_inj {m n : Nat} (h : digits m = digits n) : m = n := by
  have hvalue := congrArg (value 0) h
  unfold digits at hvalue
  rwa [value_zeros, value_zeros, value_toDigits, value_toDigits] at hvalue

/-- The written form of an id tells its number. -/
theorem plain_inj {m n : Nat} (h : plain m = plain n) : m = n :=
  digits_inj (List.append_cancel_left (String.ofList_injective h))

/-- The written form in groups tells it too. -/
theorem grouped_inj {m n : Nat} (h : grouped m = grouped n) : m = n :=
  digits_inj (List.append_cancel_left (String.ofList_injective h))

theorem head?_grouped (n : Nat) : (grouped n).toList.head? = some '0' := by
  have hfront : "00000000-0000-4000-8000-".toList.head? = some '0' := by decide
  unfold grouped
  rw [String.toList_ofList, List.head?_append, hfront]
  rfl

end SerialId

/-- The text is that of a code with a number. -/
def Bears (text : String) (n : Nat) : Prop :=
  text = codeMark ++ SerialId.plain n ∨ text = cliMark ++ SerialId.plain n

/-- Whatever mark a code gets, its text is that of its number. -/
theorem bears_marked (cli : Bool) (n : Nat) :
    Bears ((if cli = true then cliMark else codeMark) ++ SerialId.plain n) n := by
  cases cli with
  | true => exact .inr rfl
  | false => exact .inl rfl

/-- A text is that of one number at most. -/
theorem Bears.unique {text : String} {m n : Nat} (hm : Bears text m) (hn : Bears text n) :
    m = n := by
  have hmarks (m n : Nat) : codeMark ++ SerialId.plain m ≠ cliMark ++ SerialId.plain n := by
    intro heq
    have hchars := congrArg String.toList heq
    rw [String.toList_append, String.toList_append] at hchars
    -- The marks differ in their second letter.
    have hsecond := congrArg (fun cs => cs[1]?) hchars
    cases hsecond
  rcases hm with rfl | rfl <;> rcases hn with heq | heq
  · exact SerialId.plain_inj (String.append_right_inj _ |>.1 heq)
  · exact absurd heq (hmarks m n)
  · exact absurd heq.symm (hmarks n m)
  · exact SerialId.plain_inj (String.append_right_inj _ |>.1 heq)

/-- The text is that of a session token or a code with a number. -/
def Numbered (text : String) (n : Nat) : Prop := text = SerialId.grouped n ∨ Bears text n

/-- A text is that of one number at most, be it a token or a code. -/
theorem Numbered.unique {text : String} {m n : Nat} (hm : Numbered text m) (hn : Numbered text n) :
    m = n := by
  -- A token begins with a digit, and a code with a letter.
  have hkinds {m n : Nat} (hgrouped : text = SerialId.grouped m) (hbears : Bears text n) :
      False := by
    have hfirst := SerialId.head?_grouped m
    rw [← hgrouped] at hfirst
    rcases hbears with rfl | rfl <;>
    · rw [String.toList_append, List.head?_append] at hfirst
      exact absurd (Option.some.inj hfirst) (by decide)
  rcases hm with hm | hm <;> rcases hn with hn | hn
  · exact SerialId.grouped_inj (hm.symm.trans hn)
  · exact (hkinds hm hn).elim
  · exact (hkinds hn hm).elim
  · exact hm.unique hn

end Gatekeeper

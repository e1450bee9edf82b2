/-!
# `Gatekeeper.Text.Blank`: blank characters

The blank characters are those with the Unicode property `White_Space`, twenty-five of
them. Settings, credentials and route entries are trimmed of all of them, not only of the
ASCII ones, and a written time may hold them between its parts.
-/

set_option autoImplicit false

namespace Gatekeeper.Text

/-- The characters with the Unicode property `White_Space`. -/
def isBlank (c : Char) : Bool :=
  let n := c.toNat
  (0x9 ≤ n && n ≤ 0xD) || n == 0x20 || n == 0x85 || n == 0xA0 || n == 0x1680 ||
    (0x2000 ≤ n && n ≤ 0x200A) || n == 0x2028 || n == 0x2029 || n == 0x202F ||
    n == 0x205F || n == 0x3000

/-- The characters from the first one on that is not blank. -/
def trimStart (cs : List Char) : List Char := cs.dropWhile isBlank

/-- The characters from the first to the last one that is not blank. -/
def trimChars (cs : List Char) : List Char := (trimStart (trimStart cs).reverse).reverse

/-- The text between its first and its last character that is not blank. -/
def trim (s : String) : String := String.ofList (trimChars s.toList)

/-- Whether every character is blank. -/
def isBlankText (s : String) : Bool := s.toList.all isBlank

/-- Every character that Lean counts as white space is blank. -/
theorem isBlank_of_isWhitespace {c : Char} (h : c.isWhitespace = true) : isBlank c = true := by
  simp only [Char.isWhitespace, Bool.or_eq_true, decide_eq_true_eq] at h
  rcases h with ((rfl | rfl) | rfl) | rfl <;> decide

example : isBlank '\u0085' = true ∧ isBlank '\u200b' = false := by decide

example : trimChars "\u00a0 GET /a \u3000".toList = "GET /a".toList := by decide

end Gatekeeper.Text

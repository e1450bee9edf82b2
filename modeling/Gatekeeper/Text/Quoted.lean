import Gatekeeper.Text.Hidden

/-!
# `Gatekeeper.Text.Quoted`: texts between quotation marks

A message shows a text between quotation marks, in a form that a reader can tell by sight: the
quotation mark and the reverse solidus are escaped, and so is every hidden character. Five
characters have an escape of their own, the others are named by their hexadecimal number.
-/

set_option autoImplicit false

namespace Gatekeeper.Text

/-- A character as it is shown between quotation marks. -/
def showChar (c : Char) : List Char :=
  if c = '"' then ['\\', '"']
  else if c = '\\' then ['\\', '\\']
  else if c = '\n' then ['\\', 'n']
  else if c = '\r' then ['\\', 'r']
  else if c = '\t' then ['\\', 't']
  else if c = '\x00' then ['\\', '0']
  else if isHidden c then '\\' :: 'u' :: '\x7b' :: Nat.toDigits 16 c.toNat ++ ['\x7d']
  else [c]

/-- A text between quotation marks. -/
def quoted (s : String) : String := String.ofList ('"' :: s.toList.flatMap showChar ++ ['"'])

example : showChar '\u200b' = "\\u\x7b200b\x7d".toList := by decide +kernel

example : showChar 'é' = ['é'] ∧ showChar '\x1b' = "\\u\x7b1b\x7d".toList := by decide +kernel

end Gatekeeper.Text

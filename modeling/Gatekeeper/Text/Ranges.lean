/-!
# `Gatekeeper.Text.Ranges`: classes of characters

The classes of characters that a standard lists are kept as lists of ranges, each by its first
and its last character.
-/

set_option autoImplicit false

namespace Gatekeeper.Text

/-- Whether a character lies in one of the ranges. -/
def inRanges (ranges : List (Nat × Nat)) (c : Char) : Bool :=
  ranges.any fun (first, last) => first ≤ c.toNat && c.toNat ≤ last

end Gatekeeper.Text

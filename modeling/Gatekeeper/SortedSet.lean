import Gatekeeper.SortedMap

/-!
# `Gatekeeper.SortedSet`: finite sets listed in order

A set is a map that holds nothing but its keys, so it too has one form and one order. Its
elements are listed increasing. `contains_insert` says what an insertion does to membership.
-/

set_option autoImplicit false

namespace Gatekeeper

/-- A finite set of `κ`, listed increasing. -/
abbrev SortedSet (κ : Type) [Ord κ] : Type := SortedMap κ Unit

namespace SortedSet

variable {κ : Type} [Ord κ]

/-- The elements, increasing. -/
def toList (s : SortedSet κ) : List κ := s.keys

variable [Std.TransOrd κ] [Std.LawfulEqOrd κ]

/-- The set with `x` in it. -/
def insert (s : SortedSet κ) (x : κ) : SortedSet κ := SortedMap.insert s x ()

/-- The set of the elements of a list. -/
def ofList (xs : List κ) : SortedSet κ := xs.foldl insert SortedMap.empty

theorem contains_insert (s : SortedSet κ) (x y : κ) :
    (s.insert x).contains y = (compare y x == .eq || s.contains y) := by
  unfold insert SortedMap.contains
  rw [SortedMap.get?_insert]
  by_cases h : compare y x = .eq <;> simp [h]

end SortedSet

end Gatekeeper

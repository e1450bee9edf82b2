import Gatekeeper.SortedSet

/-!
# `Gatekeeper.Proofs.SortedMap`: maps and sets from their lists

A map is made again of its entries (`SortedMap.ofList_entries`) and a set
of its elements (`SortedSet.ofList_toList`).
-/

set_option autoImplicit false

namespace Gatekeeper

namespace SortedMap

variable {κ α : Type} [Ord κ] [Std.TransOrd κ] [Std.LawfulEqOrd κ]

/-- A look-up after the insertion of entries finds the entry of its key,
and else what stood there before. -/
theorem get?_foldl_insert {entries : List (κ × α)} (h : KeysIncrease entries)
    (m : SortedMap κ α) (key : κ) :
    (entries.foldl (fun m entry => m.insert entry.1 entry.2) m).get? key =
      (lookupEntry key entries).or (m.get? key) := by
  induction entries generalizing m with
  | nil => rfl
  | cons entry entries ih =>
    obtain ⟨k, a⟩ := entry
    obtain ⟨below, tail⟩ := List.pairwise_cons.1 h
    rw [List.foldl_cons, ih tail, get?_insert, lookupEntry]
    by_cases hk : compare key k = .eq
    · -- The keys behind are greater, so they cannot replace this entry.
      obtain rfl := Std.compare_eq_iff_eq.1 hk
      rw [lookupEntry_of_below below, if_pos hk, if_pos hk]
      rfl
    · rw [if_neg hk, if_neg hk]

/-- A map is made again of its entries. -/
theorem ofList_entries (m : SortedMap κ α) : ofList m.entries = m := by
  apply ext
  intro key
  unfold ofList
  rw [get?_foldl_insert m.increasing, get?_empty, Option.or_none]
  rfl

end SortedMap

namespace SortedSet

variable {κ : Type} [Ord κ] [Std.TransOrd κ] [Std.LawfulEqOrd κ]

/-- A set is made again of its elements. -/
theorem ofList_toList (s : SortedSet κ) : ofList s.toList = s := by
  have hentries := SortedMap.ofList_entries s
  unfold ofList toList SortedMap.keys
  rw [List.foldl_map]
  exact hentries

end SortedSet

end Gatekeeper

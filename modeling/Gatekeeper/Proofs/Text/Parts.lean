import Gatekeeper.Proofs.Text.Numeral
import Gatekeeper.Text.Search

/-!
# `Gatekeeper.Proofs.Text.Parts`: what is left of a text

`Trimmed core cs` says that `core` is the text `cs` without the blanks
around it. There is one such core, and trimming finds it
(`trimChars_eq_iff`). It begins and ends with characters that are not
blank, so what stands before or after a blank in it is never empty
(`Trimmed.ne_nil_of_blank`).

A text falls apart at a character as the lists of the library do
(`split_eq_splitOn`).
-/

set_option autoImplicit false

namespace Gatekeeper.Text

/-- The core is the text without the blanks around it. -/
structure Trimmed (core cs : List Char) : Prop where
  around : ∃ left right, cs = left ++ core ++ right ∧ ∀ c ∈ left ++ right, isBlank c = true
  first : ∀ c ∈ core.head?, isBlank c = false
  last : ∀ c ∈ core.getLast?, isBlank c = false

variable {core cs : List Char}

/-- Blanks in front are trimmed, whatever comes after them. -/
theorem trimStart_append_of_blank {left : List Char} (h : ∀ c ∈ left, isBlank c = true)
    (cs : List Char) : trimStart (left ++ cs) = trimStart cs :=
  List.dropWhile_append_of_pos h

/-- Nothing is trimmed in front of a text that does not begin with a
blank. -/
theorem trimStart_of_head? (h : ∀ c ∈ cs.head?, isBlank c = false) : trimStart cs = cs := by
  cases cs with
  | nil => rfl
  | cons c cs => exact trimStart_cons (h c rfl) cs

/-- What is trimmed in front is blank, and what is left does not begin with
a blank. -/
theorem exists_trimStart (cs : List Char) : ∃ left, cs = left ++ trimStart cs ∧
    (∀ c ∈ left, isBlank c = true) ∧ ∀ c ∈ (trimStart cs).head?, isBlank c = false := by
  refine ⟨cs.takeWhile isBlank, List.takeWhile_append_dropWhile.symm,
    List.all_eq_true.1 List.all_takeWhile, ?_⟩
  intro c hc
  have hfirst := List.head?_dropWhile_not isBlank cs
  change (trimStart cs).head? = some c at hc
  unfold trimStart at hc
  rw [hc] at hfirst
  exact hfirst

/-- Trimming leaves the core. -/
theorem Trimmed.trimChars_eq (h : Trimmed core cs) : trimChars cs = core := by
  obtain ⟨⟨left, right, rfl, hblank⟩, hfirst, hlast⟩ := h
  have hleft : ∀ c ∈ left, isBlank c = true := fun c hc => hblank c (List.mem_append_left _ hc)
  have hright : ∀ c ∈ right.reverse, isBlank c = true :=
    fun c hc => hblank c (List.mem_append_right _ (List.mem_reverse.1 hc))
  unfold trimChars
  rw [List.append_assoc, trimStart_append_of_blank hleft]
  cases core with
  | nil =>
    have hnone : trimStart (right ++ []) = trimStart [] :=
      trimStart_append_of_blank (fun c hc => hright c (List.mem_reverse.2 hc)) []
    rw [List.append_nil] at hnone
    rw [List.nil_append, hnone]
    rfl
  | cons c core =>
    rw [List.cons_append, trimStart_cons (hfirst c rfl), ← List.cons_append, List.reverse_append,
      trimStart_append_of_blank hright, trimStart_of_head?, List.reverse_reverse]
    rwa [List.head?_reverse]

/-- What trimming leaves is the core. -/
theorem trimmed_trimChars (cs : List Char) : Trimmed (trimChars cs) cs := by
  obtain ⟨left, hcs, hleft, hfirst⟩ := exists_trimStart cs
  obtain ⟨right, hrest, hright, hlast⟩ := exists_trimStart (trimStart cs).reverse
  have hcore : trimStart cs = trimChars cs ++ right.reverse := by
    unfold trimChars
    rw [← List.reverse_append, ← hrest, List.reverse_reverse]
  refine ⟨⟨left, right.reverse, ?_, ?_⟩, ?_, ?_⟩
  · rw [List.append_assoc, ← hcore]
    exact hcs
  · intro c hc
    rcases List.mem_append.1 hc with hc | hc
    · exact hleft c hc
    · exact hright c (List.mem_reverse.1 hc)
  · intro c hc
    apply hfirst
    rw [hcore, List.head?_append, Option.mem_def.1 hc]
    rfl
  · intro c hc
    apply hlast
    unfold trimChars at hc
    rwa [List.getLast?_reverse] at hc

theorem trimChars_eq_iff : trimChars cs = core ↔ Trimmed core cs := by
  constructor
  · rintro rfl
    exact trimmed_trimChars cs
  · exact Trimmed.trimChars_eq

/-- There is nothing to trim about a core. -/
theorem Trimmed.trimChars_core (h : Trimmed core cs) : trimChars core = core :=
  Trimmed.trimChars_eq ⟨⟨[], [], (List.append_nil core).symm, nofun⟩, h.first, h.last⟩

/-- Neither side of a blank in a core is empty, and the side after it is not
blank as a whole. -/
theorem Trimmed.ne_nil_of_blank {before after rest : List Char} {c : Char} (hc : isBlank c = true)
    (h : Trimmed (before ++ c :: after) cs) (hrest : Trimmed rest after) :
    before ≠ [] ∧ rest ≠ [] := by
  constructor
  · rintro rfl
    have hfirst := h.first c rfl
    rw [hc] at hfirst
    cases hfirst
  · rintro rfl
    -- The core would end with the blank, or with one of those after it.
    obtain ⟨left, right, rfl, hblank⟩ := hrest.around
    have hend : ∀ d ∈ (c :: (left ++ [] ++ right)), isBlank d = true := by
      intro d hd
      rcases List.mem_cons.1 hd with rfl | hd
      · exact hc
      · exact hblank d (by simpa using hd)
    obtain ⟨d, hd⟩ : ∃ d, (c :: (left ++ [] ++ right)).getLast? = some d :=
      ⟨_, List.getLast?_cons⟩
    have hlast := h.last d (by rw [List.getLast?_append, hd]; rfl)
    rw [hend d (List.mem_of_getLast? hd)] at hlast
    cases hlast

/-- The parts of a text are those of the list of its characters. -/
theorem split_eq_splitOn (c : Char) (cs : List Char) : split c cs = cs.splitOn c := by
  induction cs with
  | nil => rfl
  | cons d cs ih =>
    rw [List.splitOn_cons_eq_if_modifyHead]
    unfold split
    rw [ih]
    by_cases hd : d = c
    · rw [if_pos hd, if_pos (beq_iff_eq.2 hd)]
    · rw [if_neg hd, if_neg fun heq => hd (beq_iff_eq.1 heq)]
      cases hparts : cs.splitOn c with
      | nil => exact absurd hparts (List.splitOn_ne_nil c cs)
      | cons part parts => rfl

end Gatekeeper.Text

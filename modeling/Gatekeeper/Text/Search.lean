/-!
# `Gatekeeper.Text.Search`: parts of a text

Where a text begins with another one, where it holds another one, and how it falls apart at
a character. All work on the characters of a text; `split_joined` and `splitOnce_eq_some_iff`
say that a text is made of its parts.
-/

set_option autoImplicit false

namespace Gatekeeper.Text

/-- The characters after `start`, if the text begins with it. -/
def strip? : List Char → List Char → Option (List Char)
  | [], cs => some cs
  | _ :: _, [] => none
  | s :: start, c :: cs => if c = s then strip? start cs else none

/-- Whether the text begins with `start`. -/
def startsWith (start cs : List Char) : Bool := (strip? start cs).isSome

/-- Whether `part` stands somewhere in the text. -/
def holds (part : List Char) : List Char → Bool
  | [] => part.isEmpty
  | c :: cs => startsWith part (c :: cs) || holds part cs

/-- The parts between the characters `c`: one more than there are of these. -/
def split (c : Char) : List Char → List (List Char)
  | [] => [[]]
  | d :: cs =>
    if d = c then [] :: split c cs
    else match split c cs with
      | [] => [[d]]
      | part :: parts => (d :: part) :: parts

/-- The parts before and after the first character `c`. -/
def splitOnce (c : Char) : List Char → Option (List Char × List Char)
  | [] => none
  | d :: cs =>
    if d = c then some ([], cs)
    else (splitOnce c cs).map fun (before, after) => (d :: before, after)

theorem strip?_eq_some_iff {start cs rest : List Char} :
    strip? start cs = some rest ↔ cs = start ++ rest := by
  fun_induction strip? start cs with
  | case1 cs => simp [eq_comm]
  | case2 => simp
  | case3 start s cs ih => simp [ih]
  | case4 s start c cs h =>
    simp only [reduceCtorEq, List.cons_append, List.cons.injEq, false_iff, not_and]
    exact fun e => absurd e h

theorem holds_iff {part cs : List Char} :
    holds part cs = true ↔ ∃ before after, cs = before ++ part ++ after := by
  induction cs with
  | nil =>
    simp only [holds, List.isEmpty_iff]
    constructor
    · rintro rfl; exact ⟨[], [], rfl⟩
    · rintro ⟨before, after, h⟩
      have := congrArg List.length h
      simp only [List.length_nil, List.length_append] at this
      exact List.length_eq_zero_iff.1 (by omega)
  | cons c cs ih =>
    simp only [holds, startsWith, Bool.or_eq_true, Option.isSome_iff_exists, strip?_eq_some_iff,
      ih]
    constructor
    · rintro (⟨rest, h⟩ | ⟨before, after, h⟩)
      · exact ⟨[], rest, h⟩
      · exact ⟨c :: before, after, by rw [h]; rfl⟩
    · rintro ⟨before, after, h⟩
      cases before with
      | nil => exact .inl ⟨after, h⟩
      | cons d before =>
        simp only [List.cons_append, List.cons.injEq] at h
        exact .inr ⟨before, after, h.2⟩

theorem splitOnce_eq_some_iff {c : Char} {cs before after : List Char} :
    splitOnce c cs = some (before, after) ↔ c ∉ before ∧ cs = before ++ c :: after := by
  induction cs generalizing before with
  | nil => simp [splitOnce]
  | cons d cs ih =>
    unfold splitOnce
    split
    next h =>
      subst h
      cases before with
      | nil => simp [eq_comm]
      | cons e before => simp +contextual [eq_comm]
    next h =>
      simp only [Option.map_eq_some_iff, Prod.mk.injEq, Prod.exists]
      constructor
      · rintro ⟨b, a, hs, rfl, rfl⟩
        obtain ⟨hn, rfl⟩ := ih.1 hs
        exact ⟨by simp [hn, Ne.symm h], rfl⟩
      · rintro ⟨hn, he⟩
        cases before with
        | nil => simp at he; exact absurd he.1 h
        | cons e before =>
          simp only [List.cons_append, List.cons.injEq] at he
          obtain ⟨rfl, rfl⟩ := he
          exact ⟨before, after, ih.2 ⟨fun hm => hn (List.mem_cons_of_mem _ hm), rfl⟩, rfl, rfl⟩

theorem split_ne_nil (c : Char) (cs : List Char) : split c cs ≠ [] := by
  cases cs with
  | nil => simp [split]
  | cons d cs =>
    unfold split
    split
    · simp
    · split <;> simp

/-- A text is its parts, with the character between them. -/
theorem split_joined (c : Char) (cs : List Char) : [c].intercalate (split c cs) = cs := by
  induction cs with
  | nil => rfl
  | cons d cs ih =>
    unfold split
    split
    next h =>
      subst h
      match hs : split d cs, split_ne_nil d cs with
      | part :: parts, _ => simp_all [List.intercalate]
    next h =>
      match hs : split c cs, split_ne_nil c cs with
      | part :: parts, _ =>
        rw [hs] at ih
        cases parts <;> simp_all [List.intercalate]

end Gatekeeper.Text

import Gatekeeper.Proofs.Json.Form

/-!
# `Gatekeeper.Proofs.Json.Value`: free JSON reads back

A `Value` has more forms than its text can tell apart: a text lists the
members of an object in any order, and the reader lists them by name.
`Value.Plain depth v` says that `v` is what the reader would make of it:
the members of each object stand by increasing name, each number is a
whole one that is kept as it is, and nothing nests deeper than `depth`.
`free_faithful` says that such a value is read back.
-/

set_option autoImplicit false

namespace Gatekeeper.Json

open Text (numeral isDigit_of_mem_numeral numeral_ne_nil)

/-- The value is as the reader makes it and nests at most so deep. -/
def Value.Plain : Nat → Value → Prop
  | _, .null | _, .boolean _ | _, .text _ => True
  | _, .number (.integer n) => -greatestDebt ≤ n ∧ n ≤ greatestWhole
  | _, .number (.decimal ..) => False
  | 0, .array _ | 0, .object _ => False
  | depth + 1, .array items => ∀ item ∈ items, Plain depth item
  | depth + 1, .object members => KeysIncrease members ∧ ∀ member ∈ members, Plain depth member.2

/-- A value may nest less than it is allowed to. -/
theorem Value.Plain.mono {depth deeper : Nat} (hle : depth ≤ deeper) {v : Value}
    (h : v.Plain depth) : v.Plain deeper := by
  induction depth generalizing deeper v with
  | zero =>
    cases v with
    | null | boolean | text => cases deeper <;> trivial
    | number n => cases n <;> cases deeper <;> exact h
    | array | object => exact h.elim
  | succ depth ih =>
    cases deeper with
    | zero => cases hle
    | succ deeper =>
      have hle' := Nat.le_of_succ_le_succ hle
      cases v with
      | null | boolean | text => trivial
      | number n => cases n <;> exact h
      | array items => exact fun item hmem => ih hle' (h item hmem)
      | object members => exact ⟨h.1, fun member hmem => ih hle' (h.2 member hmem)⟩

namespace Form

theorem writeItems_eq_map (items : List Value) :
    Value.writeItems items = items.map Value.write := by
  induction items with
  | nil => rfl
  | cons item items ih => rw [Value.writeItems, ih]; rfl

theorem writeMembers_eq_map (members : List (String × Value)) :
    Value.writeMembers members = members.map fun m => memberText (m.1, m.2.write) := by
  induction members with
  | nil => rfl
  | cons member members ih => rw [Value.writeMembers, ih]; rfl

/-- Where no array and no object begins, a value of any depth is read as
one that holds no other. -/
theorem read_eq_readScalar {c : Char} (hspace : isSpace c = false) (harray : c ≠ '[')
    (hobject : c ≠ '\x7b') (depth : Nat) (cs : List Char) :
    Value.read depth (c :: cs) = Value.readScalar (c :: cs) := by
  cases depth with
  | zero =>
    unfold Value.read
    rw [skipSpace_cons hspace]
  | succ depth =>
    unfold Value.read
    rw [skipSpace_cons hspace]
    split
    next heq => exact absurd (List.cons.inj heq).1 harray
    next heq => exact absurd (List.cons.inj heq).1 hobject
    next => rfl

/-- A number in front is read as a value. -/
theorem readScalar_number {c : Char} {cs rest : List Char} {n : Number}
    (hc : c = '-' ∨ c.isDigit = true) (h : readNumber (c :: cs) = .ok (n, rest)) :
    Value.readScalar (c :: cs) = .ok (.number n, rest) := by
  have hne {d : Char} (hd : ¬ (d = '-' ∨ d.isDigit = true)) : c ≠ d := by
    rintro rfl
    exact hd hc
  unfold Value.readScalar
  -- Neither a string nor one of the three words begins like a number.
  split
  next heq => cases heq
  next heq => exact absurd (List.cons.inj heq).1 (hne (by decide))
  next heq => exact absurd (List.cons.inj heq).1 (hne (by decide))
  next heq => exact absurd (List.cons.inj heq).1 (hne (by decide))
  next heq => exact absurd (List.cons.inj heq).1 (hne (by decide))
  next heq =>
    cases heq
    rw [if_neg (by rintro (rfl | rfl) <;> exact absurd hc (by decide)), if_pos hc, h]
    rfl

/-- A whole number that is kept as it is is read back. -/
theorem integer_faithful {n : Int} (hlow : -greatestDebt ≤ n) (hhigh : n ≤ greatestWhole)
    (depth : Nat) : free.Faithful depth (.number (.integer n)) := by
  by_cases hneg : n < 0
  · have hwrite : free.write (.number (.integer n)) = '-' :: numeral n.natAbs := by
      simp [free, Value.write, Number.write, hneg]
    refine ⟨⟨'-', _, hwrite, by decide, by decide⟩, fun {_} _ {rest} hrest => ?_⟩
    have hnumber := readNumber_negative (n := n.natAbs) (by omega) (by omega) hrest.endsNumber
    have hn : -(n.natAbs : Int) = n := by omega
    rw [hn] at hnumber
    rw [hwrite]
    show Value.read _ ('-' :: (numeral n.natAbs ++ rest)) = _
    rw [read_eq_readScalar (by decide) (by decide) (by decide)]
    exact readScalar_number (.inl rfl) hnumber
  · have hwrite : free.write (.number (.integer n)) = numeral n.natAbs := by
      simp [free, Value.write, Number.write, hneg]
    obtain ⟨d, digits, hnumeral⟩ := List.exists_cons_of_ne_nil (numeral_ne_nil n.natAbs)
    have hd : d.isDigit = true := isDigit_of_mem_numeral (n := n.natAbs) (by simp [hnumeral])
    have hbegins := begins_of_isDigit hd
    refine ⟨⟨d, digits, hwrite.trans hnumeral, hbegins⟩, fun {_} _ {rest} hrest => ?_⟩
    have hnumber := readNumber_numeral (n := n.natAbs) (by omega) hrest.endsNumber
    have hn : (n.natAbs : Int) = n := by omega
    rw [hn, hnumeral] at hnumber
    rw [hwrite, hnumeral]
    show Value.read _ (d :: (digits ++ rest)) = _
    rw [read_eq_readScalar hbegins.1 (by rintro rfl; exact absurd hd (by decide))
      (by rintro rfl; exact absurd hd (by decide))]
    exact readScalar_number (.inr hd) hnumber

/-- An array of values that are read back is read back. -/
theorem array_faithful {depth : Nat} {items : List Value}
    (h : ∀ item ∈ items, free.Faithful depth item) :
    free.Faithful (depth + 1) (.array items) where
  begins := ⟨'[', _, rfl, by decide, by decide⟩
  read {limit} hlimit rest _ := by
    obtain ⟨limit, rfl⟩ := Nat.exists_eq_succ_of_ne_zero (by omega : limit ≠ 0)
    have htext : free.write (.array items) ++ rest =
        '[' :: joined ']' rest true (items.map Value.write) := by
      rw [← commaSeparated_append, ← writeItems_eq_map]
      simp [free, Value.write]
    have hne : ∀ text ∈ items.map Value.write, text ≠ [] := by
      intro text htext
      obtain ⟨item, hitem, rfl⟩ := List.mem_map.1 htext
      obtain ⟨c, cs, hwrite, -⟩ := (h item hitem).begins
      rw [show item.write = c :: cs from hwrite]
      exact List.cons_ne_nil c cs
    have hfuel := length_le_joined ']' rest true hne
    rw [List.length_map] at hfuel
    have hread : readItems (Value.read limit)
        ((joined ']' rest true (items.map Value.write)).length + 1) true
        (joined ']' rest true (items.map Value.write)) = .ok (items, rest) :=
      readItems_joined rest (fun item hitem => (h item hitem).begins)
        (fun item hitem _ hends => (h item hitem).read (by omega) hends) true (by omega)
    rw [htext]
    show (readItems (Value.read limit) _ true (joined ']' rest true (items.map Value.write)) >>=
      fun p => Except.ok (Value.array p.1, p.2)) = _
    rw [hread]
    rfl

/-- The form of an object by its members: a map whose keys are the
names. -/
def membersForm : Form (SortedMap String Value) := map free (fun s _ => .ok s) id

/-- An object is read like the map of its members. -/
theorem read_object (depth : Nat) (cs : List Char) :
    Value.read (depth + 1) ('\x7b' :: cs) =
      (membersForm.read (depth + 1) ('\x7b' :: cs) >>= fun p =>
        Except.ok (Value.object p.1.entries, p.2)) := rfl

/-- An object with increasing names whose values are read back is read
back. -/
theorem object_faithful {depth : Nat} {members : List (String × Value)}
    (hkeys : KeysIncrease members) (h : ∀ m ∈ members, free.Faithful depth m.2) :
    free.Faithful (depth + 1) (.object members) where
  begins := ⟨'\x7b', _, rfl, by decide, by decide⟩
  read {limit} hlimit rest hrest := by
    obtain ⟨limit, rfl⟩ := Nat.exists_eq_succ_of_ne_zero (by omega : limit ≠ 0)
    have hmap : membersForm.Faithful (depth + 1) ⟨members, hkeys⟩ :=
      map_faithful (fun _ _ => rfl) h
    have hread := hmap.read hlimit hrest
    have hwrite : free.write (.object members) = membersForm.write ⟨members, hkeys⟩ := by
      show Value.write (.object members) = _
      rw [Value.write, writeMembers_eq_map]
      rfl
    obtain ⟨cs, hcs⟩ : ∃ cs, membersForm.write ⟨members, hkeys⟩ ++ rest = '\x7b' :: cs := ⟨_, rfl⟩
    rw [hcs] at hread
    rw [hwrite, hcs]
    show Value.read (limit + 1) ('\x7b' :: cs) = _
    rw [read_object, hread]
    rfl

/-- Free JSON as the reader makes it is read back. -/
theorem free_faithful {depth : Nat} {v : Value} (h : v.Plain depth) : free.Faithful depth v := by
  -- What holds no other value is read back at every depth.
  have hnull (depth : Nat) : free.Faithful depth .null :=
    ⟨⟨'n', _, rfl, by decide, by decide⟩, fun _ _ _ => by
      show Value.read _ ('n' :: _) = _
      rw [read_eq_readScalar (by decide) (by decide) (by decide)]
      rfl⟩
  have hboolean (depth : Nat) (b : Bool) : free.Faithful depth (.boolean b) := by
    cases b with
    | false =>
      refine ⟨⟨'f', _, rfl, by decide, by decide⟩, fun _ _ _ => ?_⟩
      show Value.read _ ('f' :: _) = _
      rw [read_eq_readScalar (by decide) (by decide) (by decide)]
      rfl
    | true =>
      refine ⟨⟨'t', _, rfl, by decide, by decide⟩, fun _ _ _ => ?_⟩
      show Value.read _ ('t' :: _) = _
      rw [read_eq_readScalar (by decide) (by decide) (by decide)]
      rfl
  have htext (depth : Nat) (s : String) : free.Faithful depth (.text s) := by
    refine ⟨⟨'"', _, rfl, by decide, by decide⟩, fun {_} _ {rest} _ => ?_⟩
    show Value.read _ (writeString s ++ rest) = _
    rw [writeString_append, read_eq_readScalar (by decide) (by decide) (by decide)]
    show (readStringBody _ >>= fun p => Except.ok (Value.text p.1, p.2)) = _
    rw [readStringBody_escaped]
    rfl
  induction depth generalizing v with
  | zero =>
    cases v with
    | null => exact hnull 0
    | boolean b => exact hboolean 0 b
    | text s => exact htext 0 s
    | number n =>
      cases n with
      | integer n => exact integer_faithful h.1 h.2 0
      | decimal => exact h.elim
    | array items => exact h.elim
    | object members => exact h.elim
  | succ depth ih =>
    cases v with
    | null => exact hnull _
    | boolean b => exact hboolean _ b
    | text s => exact htext _ s
    | number n =>
      cases n with
      | integer n => exact integer_faithful h.1 h.2 _
      | decimal => exact h.elim
    | array items => exact array_faithful fun item hitem => ih (h item hitem)
    | object members => exact object_faithful h.1 fun m hm => ih (h.2 m hm)

end Form

end Gatekeeper.Json

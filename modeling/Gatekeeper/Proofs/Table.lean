import Gatekeeper.Database

/-!
# `Gatekeeper.Proofs.Table`: look-ups after a change of a table

What a table finds under a key of which the row is known
(`Table.find_of_get?`), and which rows are left after a record is written
(`Table.get?_write_self`, `Table.get?_write_of_ne`).

A removal reads all rows before it erases any. Where each of them can be
read, it leaves the rows whose records do not satisfy the condition and
counts the others (`Table.removeWhere_of_decodes`). Otherwise it fails at
the first row that cannot (`Table.removeWhere_of_malformed`). There is no
third case (`Table.decodes_or_malformed`), and `Table.removeWhere_eq_ok_iff`
and the lemmas after it say the same of a removal that is known to have
been carried out.
-/

set_option autoImplicit false

namespace Gatekeeper

namespace SortedMap

variable {κ α : Type} [Ord κ] [Std.TransOrd κ] [Std.LawfulEqOrd κ]

theorem get?_erase_of_ne (m : SortedMap κ α) {key k : κ} (h : k ≠ key) :
    (m.erase key).get? k = m.get? k := by
  rw [get?_erase, if_neg fun hk => h (Std.compare_eq_iff_eq.1 hk).symm]

omit [Std.TransOrd κ] [Std.LawfulEqOrd κ] in
/-- An empty map has nothing under any key. -/
theorem get?_of_isEmpty {m : SortedMap κ α} (h : m.isEmpty = true) (k : κ) : m.get? k = none := by
  obtain ⟨entries, increasing⟩ := m
  cases List.isEmpty_iff.1 h
  rfl

/-- A map that is not empty has something under some key. -/
theorem isEmpty_eq_false_iff {m : SortedMap κ α} :
    m.isEmpty = false ↔ ∃ key a, m.get? key = some a := by
  unfold isEmpty
  rw [List.isEmpty_eq_false_iff_exists_mem]
  simp [get?_eq_some_iff]

/-- A look-up after keys are erased finds none of them and all else as
before. -/
theorem get?_foldl_erase [DecidableEq κ] (keys : List κ) (m : SortedMap κ α) (k : κ) :
    (keys.foldl erase m).get? k = if k ∈ keys then none else m.get? k := by
  induction keys generalizing m with
  | nil => rw [List.foldl_nil, if_neg List.not_mem_nil]
  | cons key keys ih =>
    rw [List.foldl_cons, ih]
    by_cases hkey : k = key
    · subst hkey
      rw [get?_erase_self, ite_self, if_pos List.mem_cons_self]
    · rw [get?_erase_of_ne m hkey]
      simp [hkey]

/-! ### The number of entries -/

omit [Std.TransOrd κ] in
/-- No key stands twice. -/
theorem nodup_keys (m : SortedMap κ α) : m.keys.Nodup := by
  unfold keys List.Nodup
  rw [List.pairwise_map]
  refine m.increasing.imp ?_
  intro a b hlt heq
  rw [Std.compare_eq_iff_eq.2 heq] at hlt
  cases hlt

/-- The keys are those under which something is found. -/
theorem mem_keys {m : SortedMap κ α} {key : κ} : key ∈ m.keys ↔ ∃ a, m.get? key = some a := by
  simp [keys, get?_eq_some_iff]

omit [Std.TransOrd κ] in
/-- Of a map from which a key is erased the other keys are left. -/
theorem keys_erase [DecidableEq κ] (m : SortedMap κ α) (key : κ) :
    (m.erase key).keys = m.keys.erase key := by
  rw [m.nodup_keys.erase_eq_filter]
  show (m.entries.filter _).map _ = (m.entries.map _).filter _
  rw [List.filter_map]
  refine congrArg _ (List.filter_congr fun entry _ => ?_)
  by_cases hkey : entry.1 = key
  · simp [hkey]
  · have hcompare : compare key entry.1 ≠ .eq := fun heq => hkey (Std.compare_eq_iff_eq.1 heq).symm
    exact (bne_iff_ne.2 hcompare).trans (bne_iff_ne.2 hkey).symm

omit [Std.TransOrd κ] [Std.LawfulEqOrd κ] in
theorem size_eq_length_keys (m : SortedMap κ α) : m.size = m.keys.length := by
  rw [size, keys, List.length_map]

/-- There is one entry less after a key is erased that had one. -/
theorem size_erase [DecidableEq κ] {m : SortedMap κ α} {key : κ} {a : α} (h : m.get? key = some a) :
    (m.erase key).size + 1 = m.size := by
  have hmem : key ∈ m.keys := mem_keys.2 ⟨a, h⟩
  rw [size_eq_length_keys, size_eq_length_keys, keys_erase, List.length_erase_of_mem hmem]
  exact Nat.succ_pred_eq_of_pos (List.length_pos_of_mem hmem)

/-- There are as many entries as before after a value takes the place of
another one. -/
theorem size_insert {m : SortedMap κ α} {key : κ} {a : α} (h : m.get? key = some a) (value : α) :
    (m.insert key value).size = m.size := by
  obtain ⟨entries, increasing⟩ := m
  show (insertEntry key value entries).length = entries.length
  replace h : lookupEntry key entries = some a := h
  induction entries with
  | nil => cases h
  | cons entry entries ih =>
    obtain ⟨k, b⟩ := entry
    obtain ⟨below, tail⟩ := List.pairwise_cons.1 increasing
    unfold insertEntry
    split
    next hlt =>
      -- The key would come before all others, but it is one of them.
      have hnone : lookupEntry key ((k, b) :: entries) = none := by
        refine lookupEntry_of_below ?_
        intro e hmem
        rcases List.mem_cons.1 hmem with rfl | hmem
        · exact hlt
        · exact Std.TransCmp.lt_trans hlt (below e hmem)
      cases hnone.symm.trans h
    next => rfl
    next hgt =>
      unfold lookupEntry at h
      rw [if_neg (by rw [hgt]; decide)] at h
      rw [List.length_cons, List.length_cons, ih tail h]

end SortedMap

namespace Table

variable {α : Type} {form : Json.Form α}

/-- A record that its form reads back comes back from its row. -/
theorem decodeRow_encode {a : α} (h : form.decode (form.encode a) = .ok a) :
    decodeRow form (form.encode a) = .ok a := by
  unfold decodeRow
  rw [h]

@[simp] theorem get?_write_self (table : Table) (key : String) (a : α) :
    (table.write form key a).get? key = some (form.encode a) :=
  SortedMap.get?_insert_self table key _

theorem get?_write_of_ne (table : Table) {key other : String} (a : α) (h : other ≠ key) :
    (table.write form key a).get? other = table.get? other :=
  SortedMap.get?_insert_of_ne table _ h

/-- The record in a row is found under the key of the row. -/
theorem find_of_get? {table : Table} {key : String} {a : α}
    (hrow : table.get? key = some (form.encode a))
    (h : form.decode (form.encode a) = .ok a) : table.find form key = .ok (some a) := by
  unfold find
  rw [hrow]
  show (decodeRow form (form.encode a) >>= fun a => Except.ok (some a)) = _
  rw [decodeRow_encode h]
  rfl

theorem find_of_get?_none {table : Table} {key : String} (hrow : table.get? key = none) :
    table.find form key = .ok none := by
  unfold find
  rw [hrow]

/-- A record that is found is that of its row. -/
theorem row_of_find {table : Table} {key : String} {a : α}
    (h : table.find form key = .ok (some a)) :
    ∃ row, table.get? key = some row ∧ form.decode row = .ok a := by
  unfold find at h
  cases hrow : table.get? key with
  | none =>
    rw [hrow] at h
    cases h
  | some row =>
    rw [hrow] at h
    replace h : (decodeRow form row >>= fun a => Except.ok (some a)) = .ok (some a) := h
    unfold decodeRow at h
    cases hdecode : form.decode row with
    | error failure =>
      rw [hdecode] at h
      cases h
    | ok decoded =>
      rw [hdecode] at h
      cases h
      exact ⟨row, rfl, hdecode⟩

/-- Where every row can be read, each look-up is answered. -/
theorem exists_find {table : Table}
    (h : ∀ key row, table.get? key = some row → ∃ a, form.decode row = .ok a) (key : String) :
    ∃ found, table.find form key = .ok found := by
  unfold find
  cases hrow : table.get? key with
  | none => exact ⟨none, rfl⟩
  | some row =>
    obtain ⟨a, hdecode⟩ := h key row hrow
    refine ⟨some a, ?_⟩
    show (decodeRow form row >>= fun a => Except.ok (some a)) = _
    unfold decodeRow
    rw [hdecode]
    rfl

/-! ### Which rows a removal leaves -/

/-- Whether a row holds a record that satisfies `p`. -/
def rowSatisfies (form : Json.Form α) (p : α → Bool) (row : String) : Bool :=
  match form.decode row with
  | .ok a => p a
  | .error _ => false

/-- A row that can be read satisfies what its record does. -/
theorem rowSatisfies_of_decode {row : String} {a : α} (h : form.decode row = .ok a)
    (p : α → Bool) : rowSatisfies form p row = p a := by
  unfold rowSatisfies
  rw [h]

/-- A row that was written satisfies what its record does. -/
theorem rowSatisfies_encode {a : α} (h : form.decode (form.encode a) = .ok a) (p : α → Bool) :
    rowSatisfies form p (form.encode a) = p a :=
  rowSatisfies_of_decode h p

/-- Every row can be read, or there is a first one that cannot. -/
theorem decodes_or_malformed (form : Json.Form α) (entries : List (String × String)) :
    (∀ entry ∈ entries, ∃ a, form.decode entry.2 = .ok a) ∨
      ∃ before key row rest failure, entries = before ++ (key, row) :: rest ∧
        (∀ entry ∈ before, ∃ a, form.decode entry.2 = .ok a) ∧
        form.decode row = .error failure := by
  induction entries with
  | nil => exact .inl nofun
  | cons entry entries ih =>
    obtain ⟨key, row⟩ := entry
    cases hrow : form.decode row with
    | error failure => exact .inr ⟨[], key, row, entries, failure, rfl, nofun, hrow⟩
    | ok a =>
      rcases ih with hread | ⟨before, k, bad, rest, failure, rfl, hbefore, hbad⟩
      · exact .inl (List.forall_mem_cons.2 ⟨⟨a, hrow⟩, hread⟩)
      · exact .inr ⟨(key, row) :: before, k, bad, rest, failure, rfl,
          List.forall_mem_cons.2 ⟨⟨a, hrow⟩, hbefore⟩, hbad⟩

/-- Where every row can be read, the keys are those of the rows whose records
satisfy `p`. -/
theorem keysWhere_of_decodes (p : α → Bool) {entries : List (String × String)}
    (h : ∀ entry ∈ entries, ∃ a, form.decode entry.2 = .ok a) :
    keysWhere form p entries =
      .ok ((entries.filter fun entry => rowSatisfies form p entry.2).map (·.1)) := by
  induction entries with
  | nil => rfl
  | cons entry entries ih =>
    obtain ⟨⟨a, hrow⟩, hrest⟩ := List.forall_mem_cons.1 h
    unfold keysWhere decodeRow
    rw [hrow, ih hrest]
    show Except.ok (if p a = true then _ else _) = _
    rw [List.filter_cons, rowSatisfies_of_decode hrow]
    split <;> rfl

/-- The first row that cannot be read ends the search. -/
theorem keysWhere_of_malformed (p : α → Bool) {before rest : List (String × String)}
    {key row : String} {failure : Json.Failure}
    (hbefore : ∀ entry ∈ before, ∃ a, form.decode entry.2 = .ok a)
    (hrow : form.decode row = .error failure) :
    keysWhere form p (before ++ (key, row) :: rest) = .error (.malformedRow failure row) := by
  induction before with
  | nil =>
    show keysWhere form p ((key, row) :: rest) = _
    unfold keysWhere decodeRow
    rw [hrow]
    rfl
  | cons entry before ih =>
    obtain ⟨⟨a, hentry⟩, hbefore⟩ := List.forall_mem_cons.1 hbefore
    rw [List.cons_append]
    unfold keysWhere decodeRow
    rw [hentry, ih hbefore]
    rfl

section
variable {p : α → Bool} {table after : Table} {count : Nat}

/-- Where every row can be read, a removal takes away the rows whose records
satisfy `p`, and counts them. -/
theorem removeWhere_of_decodes (p : α → Bool)
    (h : ∀ entry ∈ table.entries, ∃ a, form.decode entry.2 = .ok a) :
    table.removeWhere form p =
      .ok (table.entries.countP fun entry => rowSatisfies form p entry.2,
        SortedMap.filter table fun entry => !rowSatisfies form p entry.2) := by
  unfold removeWhere
  rw [keysWhere_of_decodes p h]
  show Except.ok (List.length _, _) = _
  rw [List.length_map, ← List.countP_eq_length_filter]
  refine congrArg (fun left => Except.ok (_, left)) (SortedMap.ext fun key => ?_)
  rw [SortedMap.get?_foldl_erase, SortedMap.get?_filter]
  -- A key is erased if and only if the row under it satisfies the condition.
  have hmem : key ∈ (table.entries.filter fun entry => rowSatisfies form p entry.2).map (·.1) ↔
      ∃ row, table.get? key = some row ∧ rowSatisfies form p row = true := by
    simp [SortedMap.get?_eq_some_iff]
  cases hrow : table.get? key with
  | none => rw [ite_self, Option.filter_none]
  | some row =>
    rw [hrow] at hmem
    rw [Option.filter_some]
    by_cases hp : rowSatisfies form p row = true
    · rw [if_pos (hmem.2 ⟨row, rfl, hp⟩), if_neg (by rw [hp]; decide)]
    · have hnot := mt hmem.1 fun ⟨other, hother, hsatisfies⟩ =>
        hp (Option.some.inj hother ▸ hsatisfies)
      rw [if_neg hnot, if_pos (by rw [Bool.eq_false_iff.2 hp]; rfl)]

/-- A removal fails at the first row that cannot be read, wherever the rows
are that satisfy `p`. -/
theorem removeWhere_of_malformed (p : α → Bool) {before rest : List (String × String)}
    {key row : String} {failure : Json.Failure}
    (hentries : table.entries = before ++ (key, row) :: rest)
    (hbefore : ∀ entry ∈ before, ∃ a, form.decode entry.2 = .ok a)
    (hrow : form.decode row = .error failure) :
    table.removeWhere form p = .error (.malformedRow failure row) := by
  unfold removeWhere
  rw [hentries, keysWhere_of_malformed p hbefore hrow]
  rfl

/-- What a removal that is carried out has read, counted and left. -/
theorem removeWhere_eq_ok_iff :
    table.removeWhere form p = .ok (count, after) ↔
      (∀ entry ∈ table.entries, ∃ a, form.decode entry.2 = .ok a) ∧
        count = (table.entries.countP fun entry => rowSatisfies form p entry.2) ∧
        after = SortedMap.filter table fun entry => !rowSatisfies form p entry.2 := by
  rcases decodes_or_malformed form table.entries with
    hread | ⟨before, key, row, rest, failure, hentries, hbefore, hrow⟩
  · rw [removeWhere_of_decodes p hread, Except.ok.injEq, Prod.mk.injEq, eq_comm,
      eq_comm (b := after)]
    exact (and_iff_right hread).symm
  · rw [removeWhere_of_malformed p hentries hbefore hrow]
    refine iff_of_false nofun fun hread => ?_
    obtain ⟨a, hdecode⟩ := hread.1 (key, row) (by simp [hentries])
    cases hdecode.symm.trans hrow

/-- Where every row can be read, a removal is carried out. -/
theorem exists_removeWhere
    (h : ∀ key row, table.get? key = some row → ∃ a, form.decode row = .ok a) (p : α → Bool) :
    ∃ removed, table.removeWhere form p = .ok removed :=
  ⟨_, removeWhere_of_decodes p fun entry hmem => h entry.1 entry.2 (table.get?_eq_some_iff.2 hmem)⟩

/-- After a removal, a look-up finds the rows of the records that do not
satisfy `p`, as they were. -/
theorem get?_removeWhere (h : table.removeWhere form p = .ok (count, after)) (key : String) :
    after.get? key = (table.get? key).filter fun row => !rowSatisfies form p row := by
  obtain ⟨-, -, rfl⟩ := removeWhere_eq_ok_iff.1 h
  exact SortedMap.get?_filter table _ key

/-- A removal counts the rows that it removes. -/
theorem size_removeWhere (h : table.removeWhere form p = .ok (count, after)) :
    after.size + count = table.size := by
  obtain ⟨-, rfl, rfl⟩ := removeWhere_eq_ok_iff.1 h
  show (table.entries.filter _).length + _ = table.entries.length
  rw [← List.countP_eq_length_filter, Nat.add_comm,
    List.length_eq_countP_add_countP fun entry => rowSatisfies form p entry.2]
  simp

/-- A removal that is carried out has read every row. -/
theorem decodes_of_removeWhere (h : table.removeWhere form p = .ok (count, after))
    (key row : String)
    (hrow : table.get? key = some row) : ∃ a, form.decode row = .ok a :=
  (removeWhere_eq_ok_iff.1 h).1 _ (table.get?_eq_some_iff.1 hrow)

/-- The rows that are left after a removal are those of the records that do
not satisfy `p`. -/
theorem get?_removeWhere_eq_some_iff (h : table.removeWhere form p = .ok (count, after))
    {key row : String} : after.get? key = some row ↔
      table.get? key = some row ∧ ∃ a, form.decode row = .ok a ∧ p a = false := by
  rw [get?_removeWhere h, Option.filter_eq_some_iff]
  refine and_congr_right fun hrow => ?_
  obtain ⟨a, hdecode⟩ := decodes_of_removeWhere h key row hrow
  simp [rowSatisfies, hdecode]

/-- A removal removes nothing where no record satisfies `p`. -/
theorem removeWhere_of_none
    (hread : ∀ key row, table.get? key = some row → ∃ a, form.decode row = .ok a)
    (hnone : ∀ key row, table.get? key = some row → rowSatisfies form p row = false) :
    table.removeWhere form p = .ok (0, table) := by
  obtain ⟨⟨count, after⟩, hremoved⟩ := exists_removeWhere hread p
  have hsame : after = table := by
    refine SortedMap.ext fun key => ?_
    rw [get?_removeWhere hremoved]
    cases hrow : table.get? key with
    | none => rfl
    | some row => rw [Option.filter_some, hnone key row hrow, if_pos (by rfl)]
  have hcount := size_removeWhere hremoved
  subst hsame
  obtain rfl : count = 0 := by omega
  exact hremoved

end

end Table

end Gatekeeper

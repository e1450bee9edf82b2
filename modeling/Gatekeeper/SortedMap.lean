/-!
# `Gatekeeper.SortedMap`: finite maps listed in key order

A `SortedMap κ α` is the list of its entries by strictly increasing key, so a map has one
form and the order in which its entries are listed is part of the value. The tables of the
database, member sets and permission tables are all of this type: what is listed from them
comes out in key order.

`get?_insert` and `get?_erase` say what the two updates do to a look-up and `get?_filter` says
what a filter on entries does. `get?_eq_some_iff` ties a look-up to the entries, and `ext` says
that look-ups determine the map.
-/

set_option autoImplicit false
set_option linter.unusedSectionVars false

namespace Gatekeeper

/-- The keys of `entries` increase strictly. -/
def KeysIncrease {κ α : Type} [Ord κ] (entries : List (κ × α)) : Prop :=
  entries.Pairwise fun a b => compare a.1 b.1 = .lt

instance {κ α : Type} [Ord κ] (entries : List (κ × α)) : Decidable (KeysIncrease entries) :=
  inferInstanceAs (Decidable (entries.Pairwise _))

/-- A finite map from `κ` to `α`, as the list of its entries by increasing key. -/
structure SortedMap (κ α : Type) [Ord κ] where
  /-- The entries, by increasing key. -/
  entries : List (κ × α)
  /-- No key stands before a smaller one, and none stands twice. -/
  increasing : KeysIncrease entries

namespace SortedMap

section Operations

variable {κ α : Type} [Ord κ]

instance [DecidableEq κ] [DecidableEq α] : DecidableEq (SortedMap κ α) := fun m n =>
  if h : m.entries = n.entries then
    .isTrue (by cases m; cases n; simp_all)
  else
    .isFalse (by rintro rfl; exact h rfl)

instance [Repr κ] [Repr α] : Repr (SortedMap κ α) := ⟨fun m => reprPrec m.entries⟩

/-- The map without entries. -/
def empty : SortedMap κ α := ⟨[], .nil⟩

instance : EmptyCollection (SortedMap κ α) := ⟨empty⟩

instance : Inhabited (SortedMap κ α) := ⟨empty⟩

/-- The value that the first entry with key `key` holds. -/
def lookupEntry (key : κ) : List (κ × α) → Option α
  | [] => none
  | (k, a) :: rest => if compare key k = .eq then some a else lookupEntry key rest

/-- The value under `key`. -/
def get? (m : SortedMap κ α) (key : κ) : Option α := lookupEntry key m.entries

/-- Whether some value stands under `key`. -/
def contains (m : SortedMap κ α) (key : κ) : Bool := (m.get? key).isSome

/-- The keys, increasing. -/
def keys (m : SortedMap κ α) : List κ := m.entries.map (·.1)

/-- The number of entries. -/
def size (m : SortedMap κ α) : Nat := m.entries.length

/-- Whether there is no entry at all. -/
def isEmpty (m : SortedMap κ α) : Bool := m.entries.isEmpty

/-- Puts `value` under `key` where the order has its place. -/
def insertEntry (key : κ) (value : α) : List (κ × α) → List (κ × α)
  | [] => [(key, value)]
  | (k, a) :: rest =>
    match compare key k with
    | .lt => (key, value) :: (k, a) :: rest
    | .eq => (key, value) :: rest
    | .gt => (k, a) :: insertEntry key value rest

theorem increasing_filter {entries : List (κ × α)} (p : κ × α → Bool)
    (h : KeysIncrease entries) : KeysIncrease (entries.filter p) :=
  List.Pairwise.sublist List.filter_sublist h

/-- The entries that satisfy `p`. -/
def filter (m : SortedMap κ α) (p : κ × α → Bool) : SortedMap κ α :=
  ⟨m.entries.filter p, increasing_filter p m.increasing⟩

/-- Drops the entry under `key`. -/
def erase (m : SortedMap κ α) (key : κ) : SortedMap κ α :=
  m.filter fun entry => compare key entry.1 != .eq

end Operations

section Lawful

variable {κ α : Type} [Ord κ] [Std.TransOrd κ] [Std.LawfulEqOrd κ]

theorem fst_mem_insertEntry {key : κ} {value : α} {entries : List (κ × α)} {x : κ × α}
    (h : x ∈ insertEntry key value entries) : x.1 = key ∨ x ∈ entries := by
  induction entries with
  | nil => simp_all [insertEntry]
  | cons e rest ih =>
    obtain ⟨k, a⟩ := e
    simp only [insertEntry] at h
    split at h
    · rcases List.mem_cons.1 h with rfl | h
      · exact .inl rfl
      · exact .inr h
    · rcases List.mem_cons.1 h with rfl | h
      · exact .inl rfl
      · exact .inr (List.mem_cons_of_mem _ h)
    · rcases List.mem_cons.1 h with rfl | h
      · exact .inr List.mem_cons_self
      · exact (ih h).imp_right (List.mem_cons_of_mem _)

theorem increasing_insertEntry (key : κ) (value : α) {entries : List (κ × α)}
    (h : KeysIncrease entries) :
    KeysIncrease (insertEntry key value entries) := by
  induction entries with
  | nil => exact List.pairwise_singleton ..
  | cons e rest ih =>
    obtain ⟨k, a⟩ := e
    obtain ⟨below, tail⟩ := List.pairwise_cons.1 h
    unfold insertEntry
    split
    next lt =>
      refine List.pairwise_cons.2 ⟨fun x hx => ?_, h⟩
      rcases List.mem_cons.1 hx with rfl | hx
      · exact lt
      · exact Std.TransCmp.lt_trans lt (below x hx)
    next eq =>
      obtain rfl := Std.compare_eq_iff_eq.1 eq
      exact List.pairwise_cons.2 ⟨below, tail⟩
    next gt =>
      refine List.pairwise_cons.2 ⟨fun x hx => ?_, ih tail⟩
      rcases fst_mem_insertEntry hx with heq | hx
      · rw [heq]; exact Std.OrientedCmp.gt_iff_lt.1 gt
      · exact below x hx

/-- Puts `value` under `key`, in place of what stood there. -/
def insert (m : SortedMap κ α) (key : κ) (value : α) : SortedMap κ α :=
  ⟨insertEntry key value m.entries, increasing_insertEntry key value m.increasing⟩

/-- The map of a list of entries; of two entries with one key the later one counts. -/
def ofList (entries : List (κ × α)) : SortedMap κ α :=
  entries.foldl (fun m entry => m.insert entry.1 entry.2) empty

@[simp] theorem get?_empty (key : κ) : (empty : SortedMap κ α).get? key = none := rfl

theorem lookupEntry_eq_none {key : κ} {entries : List (κ × α)}
    (h : ∀ e ∈ entries, e.1 ≠ key) : lookupEntry key entries = none := by
  induction entries with
  | nil => rfl
  | cons e rest ih =>
    have : ¬ compare key e.1 = .eq := fun c =>
      h e List.mem_cons_self (Std.compare_eq_iff_eq.1 c).symm
    simp [lookupEntry, this, ih fun x hx => h x (List.mem_cons_of_mem _ hx)]

theorem lookupEntry_insertEntry (key k : κ) (value : α) (entries : List (κ × α)) :
    lookupEntry k (insertEntry key value entries) =
      if compare k key = .eq then some value else lookupEntry k entries := by
  induction entries with
  | nil => simp [insertEntry, lookupEntry]
  | cons e rest ih =>
    obtain ⟨k', a⟩ := e
    unfold insertEntry
    split
    next => simp [lookupEntry]
    next eq =>
      obtain rfl := Std.compare_eq_iff_eq.1 eq
      by_cases h : compare k key = .eq <;> simp [lookupEntry, h]
    next gt =>
      by_cases h : compare k key = .eq
      · obtain rfl := Std.compare_eq_iff_eq.1 h
        simp [lookupEntry, gt, ih]
      · simp [lookupEntry, ih, h]

/-- A look-up after an insertion finds the new value under its key and all else as before. -/
theorem get?_insert (m : SortedMap κ α) (key k : κ) (value : α) :
    (m.insert key value).get? k = if compare k key = .eq then some value else m.get? k :=
  lookupEntry_insertEntry key k value m.entries

@[simp] theorem get?_insert_self (m : SortedMap κ α) (key : κ) (value : α) :
    (m.insert key value).get? key = some value := by
  simp [get?_insert]

theorem get?_insert_of_ne (m : SortedMap κ α) {key k : κ} (value : α) (h : k ≠ key) :
    (m.insert key value).get? k = m.get? k := by
  have : ¬ compare k key = .eq := fun c => h (Std.compare_eq_iff_eq.1 c)
  simp [get?_insert, this]

theorem lookupEntry_filter (p : κ × α → Bool) (k : κ) {entries : List (κ × α)}
    (h : KeysIncrease entries) :
    lookupEntry k (entries.filter p) = (lookupEntry k entries).filter fun a => p (k, a) := by
  induction entries with
  | nil => rfl
  | cons e rest ih =>
    obtain ⟨k', a⟩ := e
    obtain ⟨below, tail⟩ := List.pairwise_cons.1 h
    by_cases c : compare k k' = .eq
    · obtain rfl := Std.compare_eq_iff_eq.1 c
      by_cases hp : p (k, a)
      · simp [List.filter, hp, lookupEntry, Option.filter]
      · have : lookupEntry k (rest.filter p) = none :=
          lookupEntry_eq_none fun x hx eq => by
            have lt := below x (List.mem_filter.1 hx).1
            simp [eq] at lt
        simp [List.filter, hp, lookupEntry, Option.filter, this]
    · by_cases hp : p (k', a) <;> simp [List.filter, hp, lookupEntry, c, ih tail]

/-- A filter keeps under a key what stood there if the entry passes. -/
theorem get?_filter (m : SortedMap κ α) (p : κ × α → Bool) (k : κ) :
    (m.filter p).get? k = (m.get? k).filter fun a => p (k, a) :=
  lookupEntry_filter p k m.increasing

/-- A look-up after an erasure finds nothing under the key and all else as before. -/
theorem get?_erase (m : SortedMap κ α) (key k : κ) :
    (m.erase key).get? k = if compare key k = .eq then none else m.get? k := by
  unfold erase
  rw [get?_filter]
  by_cases c : compare key k = .eq
  · cases h : m.get? k <;> simp [c]
  · cases h : m.get? k <;> simp [c]

@[simp] theorem get?_erase_self (m : SortedMap κ α) (key : κ) : (m.erase key).get? key = none := by
  simp [get?_erase]

theorem lookupEntry_of_below {key : κ} {entries : List (κ × α)}
    (h : ∀ e ∈ entries, compare key e.1 = .lt) : lookupEntry key entries = none :=
  lookupEntry_eq_none fun e he eq => by
    have lt := h e he
    simp [eq] at lt

theorem lookupEntry_eq_some_iff {key : κ} {a : α} {entries : List (κ × α)}
    (h : KeysIncrease entries) : lookupEntry key entries = some a ↔ (key, a) ∈ entries := by
  induction entries with
  | nil => simp [lookupEntry]
  | cons e rest ih =>
    obtain ⟨k, b⟩ := e
    obtain ⟨below, tail⟩ := List.pairwise_cons.1 h
    by_cases c : compare key k = .eq
    · obtain rfl := Std.compare_eq_iff_eq.1 c
      have absent : (key, a) ∉ rest := fun hm => by simpa using below _ hm
      simp [lookupEntry, absent, eq_comm]
    · have ne : key ≠ k := fun eq => c (Std.compare_eq_iff_eq.2 eq)
      simp [lookupEntry, c, ih tail, ne]

/-- A look-up finds what stands in the list of entries. -/
theorem get?_eq_some_iff (m : SortedMap κ α) {key : κ} {a : α} :
    m.get? key = some a ↔ (key, a) ∈ m.entries :=
  lookupEntry_eq_some_iff m.increasing

theorem entries_eq_of_lookupEntry_eq {xs ys : List (κ × α)} (hx : KeysIncrease xs)
    (hy : KeysIncrease ys) (h : ∀ key, lookupEntry key xs = lookupEntry key ys) : xs = ys := by
  induction xs generalizing ys with
  | nil =>
    match ys with
    | [] => rfl
    | (k, b) :: ys => simpa [lookupEntry] using h k
  | cons x xs ih =>
    obtain ⟨k, a⟩ := x
    obtain ⟨below, tail⟩ := List.pairwise_cons.1 hx
    match ys with
    | [] => simpa [lookupEntry] using h k
    | (k', b) :: ys =>
      obtain ⟨below', tail'⟩ := List.pairwise_cons.1 hy
      match c : compare k k' with
      | .lt =>
        -- The first key of one list would be missing in the other.
        have none : lookupEntry k ((k', b) :: ys) = none :=
          lookupEntry_of_below fun e he => by
            rcases List.mem_cons.1 he with rfl | he
            · exact c
            · exact Std.TransCmp.lt_trans c (below' e he)
        have := h k
        rw [none] at this
        simp [lookupEntry] at this
      | .gt =>
        have lt := Std.OrientedCmp.gt_iff_lt.1 c
        have none : lookupEntry k' ((k, a) :: xs) = none :=
          lookupEntry_of_below fun e he => by
            rcases List.mem_cons.1 he with rfl | he
            · exact lt
            · exact Std.TransCmp.lt_trans lt (below e he)
        have := h k'
        rw [none] at this
        simp [lookupEntry] at this
      | .eq =>
        obtain rfl := Std.compare_eq_iff_eq.1 c
        have head : a = b := by simpa [lookupEntry] using h k
        subst head
        refine congrArg _ (ih tail tail' fun key => ?_)
        by_cases e : compare key k = .eq
        · obtain rfl := Std.compare_eq_iff_eq.1 e
          rw [lookupEntry_of_below below, lookupEntry_of_below below']
        · simpa [lookupEntry, e] using h key

/-- Two maps in which every look-up finds the same are the same. -/
theorem ext {m n : SortedMap κ α} (h : ∀ key, m.get? key = n.get? key) : m = n := by
  have := entries_eq_of_lookupEntry_eq m.increasing n.increasing h
  cases m
  cases n
  simp_all

end Lawful

end SortedMap

end Gatekeeper

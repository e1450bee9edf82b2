import Gatekeeper.Session.Cache

/-!
# `Gatekeeper.Proofs.Session.Cache`: look-ups after a change of the cache

Every change of the cache touches one token. What it does to the look-up
of that token and of the others is `peek_get`, `peek_erase`,
`peek_put_self` and `peek_put_of_ne`. An insertion into a full cache drops
one entry, so another token may be gone after it.

`mem_staleTokens` says that a sweep is told of every entry that it has to
look at.

`Tidy` is what every cache is that comes of these changes: there is room
for an entry, the entries fit into the room, and no token has two of them.
In a tidy cache an entry that is put in stays, and it takes the place of
no other one if its token was there before.
-/

set_option autoImplicit false

namespace Gatekeeper

/-- A sweep passes over the entries that are alive and level with their
row. -/
theorem CachedSession.isStale_eq_false_iff {entry : CachedSession} {time : Timestamp} :
    entry.isStale time = false ↔ entry.session.isExpired time = false ∧ entry.isPending = false :=
  Bool.or_eq_false_iff

/-! ### Looking up a key -/

section
variable {α : Type}

theorem lookup_cons_eq (key token : String) (value : α)
    (entries : List (String × α)) :
    ((key, value) :: entries).lookup token =
      if token = key then some value else entries.lookup token := by
  rw [List.lookup_cons]
  by_cases htoken : token = key
  · rw [if_pos htoken, htoken, beq_self_eq_true]
  · rw [if_neg htoken, beq_false_of_ne htoken]

/-- A look-up among the entries without a token finds no other entry less. -/
theorem lookup_filter_ne (entries : List (String × α)) (token other : String) :
    (entries.filter fun entry => entry.1 != token).lookup other =
      if other = token then none else entries.lookup other := by
  induction entries with
  | nil =>
    rw [List.filter_nil, List.lookup_nil]
    split <;> rfl
  | cons entry entries ih =>
    obtain ⟨key, value⟩ := entry
    rw [lookup_cons_eq]
    by_cases hkey : key = token
    · subst hkey
      rw [List.filter_cons_of_neg (by simp), ih]
      by_cases hother : other = key
      · rw [if_pos hother, if_pos hother]
      · rw [if_neg hother, if_neg hother, if_neg hother]
    · rw [List.filter_cons_of_pos (by simp [hkey]), lookup_cons_eq, ih]
      by_cases hother : other = key
      · subst hother
        rw [if_pos rfl, if_neg hkey, if_pos rfl]
      · rw [if_neg hother, if_neg hother]

/-- A look-up in the front of a list finds what it finds in the list, or
nothing. -/
theorem lookup_take (entries : List (String × α)) (room : Nat) (token : String) :
    (entries.take room).lookup token = none ∨
      (entries.take room).lookup token = entries.lookup token := by
  induction entries generalizing room with
  | nil => exact .inl (by simp)
  | cons entry entries ih =>
    cases room with
    | zero => exact .inl rfl
    | succ room =>
      obtain ⟨key, value⟩ := entry
      rw [List.take_succ_cons, lookup_cons_eq, lookup_cons_eq]
      by_cases htoken : token = key
      · rw [if_pos htoken, if_pos htoken]
        exact .inr rfl
      · rw [if_neg htoken, if_neg htoken]
        exact ih room

end

namespace SessionCache

@[simp] theorem peek_ofCapacity (capacity : Nat) (token : String) :
    (ofCapacity capacity).peek token = none := rfl

/-- After a token is taken out, it is gone and the others are as before. -/
theorem peek_erase (c : SessionCache) (token other : String) :
    (c.erase token).peek other = if other = token then none else c.peek other :=
  lookup_filter_ne c.entries token other

@[simp] theorem peek_erase_self (c : SessionCache) (token : String) :
    (c.erase token).peek token = none := by
  rw [peek_erase, if_pos rfl]

theorem peek_erase_of_ne (c : SessionCache) {token other : String} (h : other ≠ token) :
    (c.erase token).peek other = c.peek other := by
  rw [peek_erase, if_neg h]

/-- A look-up that makes a token the most recently used gives its entry. -/
@[simp] theorem get_fst (c : SessionCache) (token : String) : (c.get token).1 = c.peek token := by
  unfold get
  split
  next h => exact h.symm
  next h => exact h.symm

/-- A look-up that makes a token the most recently used changes no entry. -/
@[simp] theorem peek_get (c : SessionCache) (token other : String) :
    (c.get token).2.peek other = c.peek other := by
  unfold get
  split
  next entry h =>
    show ((token, entry) :: (c.erase token).entries).lookup other = _
    rw [lookup_cons_eq]
    by_cases hother : other = token
    · rw [if_pos hother, hother, h]
    · rw [if_neg hother]
      exact c.peek_erase_of_ne hother
  next => rfl

/-- A look-up leaves the cache its room. -/
@[simp] theorem capacity_get (c : SessionCache) (token : String) :
    (c.get token).2.capacity = c.capacity := by
  unfold get
  cases c.peek token <;> rfl

/-- After an entry is put in, its token has this entry or, if there is no
room at all, none. -/
theorem peek_put_self (c : SessionCache) (entry : CachedSession) :
    (c.put entry).peek entry.session.token = none ∨
      (c.put entry).peek entry.session.token = some entry := by
  -- The entry stands in front, and what finds no room is at the end.
  have hfront := lookup_take
    ((entry.session.token, entry) :: (c.erase entry.session.token).entries) c.capacity
    entry.session.token
  rw [lookup_cons_eq, if_pos rfl] at hfront
  exact hfront

/-- After an entry is put in, another token is as before or gone. -/
theorem peek_put_of_ne (c : SessionCache) (entry : CachedSession) {token : String}
    (h : token ≠ entry.session.token) :
    (c.put entry).peek token = none ∨ (c.put entry).peek token = c.peek token := by
  have hfront := lookup_take
    ((entry.session.token, entry) :: (c.erase entry.session.token).entries) c.capacity token
  rw [lookup_cons_eq, if_neg h] at hfront
  rw [← c.peek_erase_of_ne h]
  exact hfront

/-- What a look-up finds is among the entries. -/
theorem mem_entries_of_peek {c : SessionCache} {token : String} {entry : CachedSession}
    (h : c.peek token = some entry) : (token, entry) ∈ c.entries := by
  obtain ⟨before, after, hentries, -⟩ := List.lookup_eq_some_iff.1 h
  rw [hentries]
  exact List.mem_append_right _ List.mem_cons_self

/-- The tokens that a sweep is told of are those of the entries that it has
to look at. -/
theorem mem_staleTokens {c : SessionCache} {token : String} {entry : CachedSession}
    {time : Timestamp} (h : c.peek token = some entry) (hstale : entry.isStale time = true) :
    token ∈ c.staleTokens time := by
  unfold staleTokens
  exact List.mem_map.2 ⟨(token, entry), List.mem_filter.2 ⟨mem_entries_of_peek h, hstale⟩, rfl⟩

/-! ### Tidy caches -/

/-- There is room for an entry, the entries fit into the room, and no token
has two of them. -/
structure Tidy (c : SessionCache) : Prop where
  room : 0 < c.capacity
  fits : c.entries.length ≤ c.capacity
  distinct : (c.entries.map (·.1)).Nodup

theorem tidy_ofCapacity (capacity : Nat) : (ofCapacity capacity).Tidy where
  room := Nat.lt_of_lt_of_le Nat.one_pos (Nat.le_max_right capacity 1)
  fits := Nat.zero_le _
  distinct := List.nodup_nil

/-- The entries under a token are those that a look-up of it finds. -/
theorem Tidy.mem_entries_iff {c : SessionCache} (h : c.Tidy) {token : String}
    {entry : CachedSession} : (token, entry) ∈ c.entries ↔ c.peek token = some entry := by
  obtain ⟨capacity, entries⟩ := c
  have hdistinct : (entries.map (·.1)).Nodup := h.distinct
  clear h
  show _ ↔ entries.lookup token = some entry
  induction entries with
  | nil => simp
  | cons first entries ih =>
    obtain ⟨key, value⟩ := first
    obtain ⟨hkey, hrest⟩ := List.nodup_cons.1 hdistinct
    rw [List.mem_cons, lookup_cons_eq, ih hrest]
    by_cases htoken : token = key
    · -- The rest has no entry under the first key.
      subst htoken
      have hnot : ¬ entries.lookup token = some entry := by
        rw [← ih hrest]
        exact fun hmem => hkey (List.mem_map.2 ⟨_, hmem, rfl⟩)
      simp [hnot, eq_comm]
    · simp [htoken]

/-- The entries without a token are fewer if the token had one. -/
theorem length_erase_lt {c : SessionCache} {token : String} {entry : CachedSession}
    (h : c.peek token = some entry) : (c.erase token).entries.length < c.entries.length :=
  List.length_filter_lt_length_iff_exists.2 ⟨_, mem_entries_of_peek h, by simp⟩

theorem Tidy.erase {c : SessionCache} (h : c.Tidy) (token : String) : (c.erase token).Tidy where
  room := h.room
  fits := Nat.le_trans (List.length_filter_le _ _) h.fits
  distinct := h.distinct.sublist (List.filter_sublist.map _)

/-- Without a token, the cache has none of its entries, so one may be put
in front. -/
theorem Tidy.nodup_cons_erase {c : SessionCache} (h : c.Tidy) (token : String) :
    (token :: (c.erase token).entries.map (·.1)).Nodup := by
  refine List.nodup_cons.2 ⟨fun hmem => ?_, (h.erase token).distinct⟩
  obtain ⟨entry, hentry, htoken⟩ := List.mem_map.1 hmem
  exact bne_iff_ne.1 (List.mem_filter.1 hentry).2 htoken

theorem Tidy.get {c : SessionCache} (h : c.Tidy) (token : String) : (c.get token).2.Tidy := by
  unfold SessionCache.get
  split
  next entry hpeek =>
    exact ⟨h.room, Nat.le_trans (length_erase_lt hpeek) h.fits, h.nodup_cons_erase token⟩
  next => exact h

theorem Tidy.put {c : SessionCache} (h : c.Tidy) (entry : CachedSession) : (c.put entry).Tidy where
  room := h.room
  fits := List.length_take_le _ _
  distinct := (h.nodup_cons_erase entry.session.token).sublist ((List.take_sublist _ _).map _)

/-- An entry that is put in stays. -/
theorem Tidy.peek_put_self {c : SessionCache} (h : c.Tidy) (entry : CachedSession) :
    (c.put entry).peek entry.session.token = some entry := by
  obtain ⟨room, hroom⟩ := Nat.exists_eq_succ_of_ne_zero (Nat.ne_of_gt h.room)
  show (List.take c.capacity _).lookup _ = _
  rw [hroom, List.take_succ_cons, lookup_cons_eq, if_pos rfl]

/-- An entry that is put in takes the place of the one that its token had,
and of no other one. -/
theorem Tidy.peek_put_of_cached {c : SessionCache} (h : c.Tidy) (entry : CachedSession)
    {old : CachedSession} (hold : c.peek entry.session.token = some old) {token : String}
    (hne : token ≠ entry.session.token) : (c.put entry).peek token = c.peek token := by
  have hroom : ((entry.session.token, entry) :: (c.erase entry.session.token).entries).length ≤
      c.capacity := Nat.le_trans (length_erase_lt hold) h.fits
  show (List.take c.capacity _).lookup token = _
  rw [List.take_of_length_le hroom, lookup_cons_eq, if_neg hne]
  exact c.peek_erase_of_ne hne

end SessionCache

end Gatekeeper

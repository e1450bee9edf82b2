import Gatekeeper.Proofs.Database

/-!
# `Gatekeeper.Proofs.Addresses`: who is found by an address

The index of addresses has the id of one user for each address. A user who
is written gets an entry there, under the address of the record. The entry
of an address that the user had before stays, and points to a record with
another address now.

`db.ofUsers past` is the database after the users of `past` were written,
latest first. What its two tables hold is told by two look-ups in the past:
`recorded?` for the record under an id, and `holder?` for the user that was
written last with an address. The user that is found by an address is the
holder, as the record is now (`run_findUserByAddress`). So the record has
the address if and only if the holder has not been written again since
(`hasAddress_iff_eq_holder`), and from this comes the main result,
`findUserByAddress_exact`.
-/

set_option autoImplicit false

namespace Gatekeeper

/-- The user has the address. Lower case is not told from upper case. -/
def User.HasAddress (user : User) (address : String) : Prop :=
  Text.lowercase user.address = Text.lowercase address

instance (user : User) (address : String) : Decidable (user.HasAddress address) :=
  inferInstanceAs (Decidable (_ = _))

namespace Database

/-- The database after users were written, latest first, from when there
were none. -/
def ofUsers (db : Database) (past : List User) : Database :=
  past.foldr (fun user db => db.putUser user) { db with users := .empty, addresses := .empty }

/-- The record under an id is the one that was written last. -/
def recorded? (id : String) (past : List User) : Option User := past.find? (·.id = id)

/-- The user that was written last with an address. -/
def holder? (address : String) (past : List User) : Option User :=
  past.find? (·.HasAddress address)

/-- The user that was written last with the address has not been written
again since. -/
def Settled (address : String) (past : List User) : Prop :=
  ∀ holder, holder? address past = some holder → recorded? holder.id past = some holder

section
variable {id address : String} {user : User} {past : List User}

/-! ### The past -/

theorem recorded?_cons_of_eq (h : user.id = id) (past : List User) :
    recorded? id (user :: past) = some user :=
  List.find?_cons_of_pos (decide_eq_true h)

theorem recorded?_cons_of_ne (h : user.id ≠ id) (past : List User) :
    recorded? id (user :: past) = recorded? id past :=
  List.find?_cons_of_neg fun heq => h (of_decide_eq_true heq)

theorem holder?_cons_of_hasAddress (h : user.HasAddress address) (past : List User) :
    holder? address (user :: past) = some user :=
  List.find?_cons_of_pos (decide_eq_true h)

theorem holder?_cons_of_not (h : ¬ user.HasAddress address) (past : List User) :
    holder? address (user :: past) = holder? address past :=
  List.find?_cons_of_neg fun heq => h (of_decide_eq_true heq)

theorem hasAddress_of_holder? (h : holder? address past = some user) :
    user.HasAddress address := by
  have hhas := List.find?_some h
  exact of_decide_eq_true hhas

/-- Whoever was written with an address, it has a holder. -/
theorem exists_holder? (hmem : user ∈ past) (haddress : user.HasAddress address) :
    ∃ holder, holder? address past = some holder :=
  Option.isSome_iff_exists.1 (List.find?_isSome.2 ⟨user, hmem, decide_eq_true haddress⟩)

/-- Whoever was written has a record. -/
theorem exists_recorded? (h : user ∈ past) : ∃ record, recorded? user.id past = some record :=
  Option.isSome_iff_exists.1 (List.find?_isSome.2 ⟨user, h, decide_eq_true rfl⟩)

/-- The holder of an address still has it if and only if the record is the
one that was written with the address. -/
theorem hasAddress_iff_eq_holder {holder : User} (hholder : holder? address past = some holder)
    (hrecorded : recorded? holder.id past = some user) :
    user.HasAddress address ↔ user = holder := by
  induction past with
  | nil => cases hholder
  | cons first past ih =>
    by_cases haddress : first.HasAddress address
    · -- The write that came last made its user the holder.
      rw [holder?_cons_of_hasAddress haddress] at hholder
      cases hholder
      rw [recorded?_cons_of_eq rfl] at hrecorded
      cases hrecorded
      exact ⟨fun _ => rfl, fun _ => haddress⟩
    · rw [holder?_cons_of_not haddress] at hholder
      by_cases hid : first.id = holder.id
      · -- The holder was written again, with another address.
        rw [recorded?_cons_of_eq hid] at hrecorded
        cases hrecorded
        refine ⟨fun h => absurd h haddress, ?_⟩
        rintro rfl
        exact hasAddress_of_holder? hholder
      · rw [recorded?_cons_of_ne hid] at hrecorded
        exact ih hholder hrecorded

/-- The record of the holder of an address, as it is now. -/
def found? (address : String) (past : List User) : Option User :=
  (holder? address past).bind fun holder => recorded? holder.id past

theorem found?_of_holder? {holder : User} (h : holder? address past = some holder) :
    found? address past = recorded? holder.id past := by
  unfold found?
  rw [h]
  rfl

/-- Somebody is found by an address if and only if somebody was written with
it. -/
theorem exists_found?_iff :
    (∃ record, found? address past = some record) ↔ ∃ user ∈ past, user.HasAddress address := by
  constructor
  · rintro ⟨record, hfound⟩
    obtain ⟨holder, hholder, -⟩ := Option.bind_eq_some_iff.1 hfound
    exact ⟨holder, List.mem_of_find?_eq_some hholder, hasAddress_of_holder? hholder⟩
  · rintro ⟨user, hmem, haddress⟩
    obtain ⟨holder, hholder⟩ := exists_holder? hmem haddress
    rw [found?_of_holder? hholder]
    exact exists_recorded? (List.mem_of_find?_eq_some hholder)

/-- Whoever is found by an address has it if and only if its holder has not
been written again since. -/
theorem hasAddress_of_found?_iff_settled :
    (∀ record, found? address past = some record → record.HasAddress address) ↔
      Settled address past := by
  constructor
  · intro hcurrent holder hholder
    obtain ⟨record, hrecorded⟩ := exists_recorded? (List.mem_of_find?_eq_some hholder)
    have haddress := hcurrent record ((found?_of_holder? hholder).trans hrecorded)
    rw [hrecorded, (hasAddress_iff_eq_holder hholder hrecorded).1 haddress]
  · intro hsettled record hfound
    obtain ⟨holder, hholder, hrecorded⟩ := Option.bind_eq_some_iff.1 hfound
    rw [hsettled holder hholder] at hrecorded
    cases hrecorded
    exact hasAddress_of_holder? hholder

end

/-! ### The tables -/

section
variable (db : Database) (past : List User)

theorem get?_users_ofUsers (id : String) :
    (db.ofUsers past).users.get? id = (recorded? id past).map User.form.encode := by
  induction past with
  | nil => rfl
  | cons user past ih =>
    show ((db.ofUsers past).users.write User.form user.id user).get? id = _
    by_cases hid : user.id = id
    · rw [recorded?_cons_of_eq hid, ← hid, Table.get?_write_self]
      rfl
    · rw [recorded?_cons_of_ne hid, Table.get?_write_of_ne _ _ (Ne.symm hid), ih]

theorem get?_addresses_ofUsers (address : String) :
    (db.ofUsers past).addresses.get? (Text.lowercase address) =
      (holder? address past).map (·.id) := by
  induction past with
  | nil => rfl
  | cons user past ih =>
    show (SortedMap.insert (db.ofUsers past).addresses (Text.lowercase user.address) user.id).get?
      (Text.lowercase address) = _
    by_cases haddress : user.HasAddress address
    · rw [holder?_cons_of_hasAddress haddress, ← show Text.lowercase user.address = _ from haddress,
        SortedMap.get?_insert_self]
      rfl
    · rw [holder?_cons_of_not haddress, SortedMap.get?_insert_of_ne _ _ (Ne.symm haddress), ih]

theorem find_users_ofUsers (id : String) :
    (db.ofUsers past).users.find User.form id = .ok (recorded? id past) := by
  have hrow := db.get?_users_ofUsers past id
  cases hrecorded : recorded? id past with
  | none =>
    rw [hrecorded] at hrow
    exact Table.find_of_get?_none hrow
  | some user =>
    rw [hrecorded] at hrow
    exact Table.find_of_get? hrow (User.decode_encode user)

/-- The user that is found by an id is the one recorded under it. -/
theorem run_findUser (id : String) :
    (Call.findUser id).run (db.ofUsers past) = .ok (recorded? id past, db.ofUsers past) :=
  Call.lookedUp_iff.2 ⟨db.find_users_ofUsers past id, rfl⟩

/-- The user that is found by an address is its holder, as the record is
now. -/
theorem run_findUserByAddress (address : String) :
    (Call.findUserByAddress address).run (db.ofUsers past) =
      .ok (found? address past, db.ofUsers past) := by
  unfold found?
  simp only [Call.run]
  rw [db.get?_addresses_ofUsers past address]
  cases holder? address past with
  | none => rfl
  | some holder => exact db.run_findUser past holder.id

end

/-- Whatever users were written, a look-up by an address is answered with
the record of the user that was written last with it, so somebody is found
if anybody ever had the address. Whoever is found has the address, and
somebody who has it is found if there is anybody, if and only if the user
that was written last with it has not been written again since. -/
theorem findUserByAddress_exact (db : Database) (past : List User) (address : String) :
    let registered := db.ofUsers past
    (Call.findUserByAddress address).run registered = .ok (found? address past, registered) ∧
    ((∃ user, found? address past = some user) ↔ ∃ user ∈ past, user.HasAddress address) ∧
    (((∀ user, found? address past = some user → user.HasAddress address) ∧
        ((∃ id user, (Call.findUser id).run registered = .ok (some user, registered) ∧
            user.HasAddress address) →
          ∃ user, found? address past = some user ∧ user.HasAddress address)) ↔
      Settled address past) := by
  intro registered
  refine ⟨db.run_findUserByAddress past address, exists_found?_iff, ?_⟩
  constructor
  · rintro ⟨hcurrent, -⟩
    exact hasAddress_of_found?_iff_settled.1 hcurrent
  · intro hsettled
    have hcurrent := hasAddress_of_found?_iff_settled.2 hsettled
    refine ⟨hcurrent, ?_⟩
    rintro ⟨id, user, hrun, haddress⟩
    -- A user that is stored was written.
    rw [db.run_findUser past id] at hrun
    have hrecorded : recorded? id past = some user := (Prod.mk.inj (Except.ok.inj hrun)).1
    obtain ⟨record, hfound⟩ :=
      exists_found?_iff.2 ⟨user, List.mem_of_find?_eq_some hrecorded, haddress⟩
    exact ⟨record, hfound, hcurrent record hfound⟩

/-- Ann with an address, and then Bob with the same one, who moves to
another address. -/
def bobMoves : List User :=
  [{ (default : User) with id := "bob", address := "0x02" },
    { (default : User) with id := "bob", address := "0x01" },
    { (default : User) with id := "ann", address := "0x01" }]

/-- Bob is found by the address that he has left, and Ann, who still has it,
is not. -/
theorem found_by_address_left :
    ∃ ann bob, (Call.findUserByAddress "0x01").run (ofUsers {} bobMoves) =
        .ok (some bob, ofUsers {} bobMoves) ∧
      ¬ bob.HasAddress "0x01" ∧
      (Call.findUser "ann").run (ofUsers {} bobMoves) = .ok (some ann, ofUsers {} bobMoves) ∧
      ann.HasAddress "0x01" := by
  refine ⟨_, _, run_findUserByAddress {} bobMoves "0x01", ?_, run_findUser {} bobMoves "ann", ?_⟩
  · decide
  · decide

end Database

end Gatekeeper

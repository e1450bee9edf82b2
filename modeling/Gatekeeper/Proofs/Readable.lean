import Gatekeeper.Proofs.Database

/-!
# `Gatekeeper.Proofs.Readable`: what is written is read back

A row that cannot be read makes every read of it fail, and every purge of
its table with it. So none may ever be written. `Shelf` names the tables
that keep records as texts, and `Shelf.decode_encode` says that each of
their records comes back from its text. Only of a recover code something
is asked for this: that the JSON that it carries is as the reader makes it
and not too deep for a row (`Shelf.Fits`).

`Database.Readable` says that every row is the text of such a record. Each
transaction keeps it (`Readable.after`), for what it writes is given to it
or comes of a row. On a readable database every call is answered, unless
it overflows (`Readable.answered`). `Database.reads_back` puts this
together for everything that is done to the tables from when they were
empty.
-/

set_option autoImplicit false

namespace Gatekeeper

/-- The tables that keep records as texts. -/
inductive Shelf where
  | sessions
  | codes
  | users
  | workspaces
  | dapps

namespace Shelf

/-- What the table keeps. -/
abbrev Record : Shelf → Type
  | sessions => Session
  | codes => RecoverCode
  | users => User
  | workspaces => Workspace
  | dapps => DappBinding

/-- How its records are written. -/
def form : (shelf : Shelf) → Json.Form shelf.Record
  | sessions => Session.form
  | codes => RecoverCode.form
  | users => User.form
  | workspaces => Workspace.form
  | dapps => DappBinding.form

/-- What its records stand under. -/
def key : (shelf : Shelf) → shelf.Record → String
  | sessions, session => session.token
  | codes, code => code.code
  | users, user => user.id
  | workspaces, w => w.id
  | dapps, dapp => dapp.sessionId

/-- The table in a database. -/
def table (db : Database) : Shelf → Table
  | sessions => db.sessions
  | codes => db.codes
  | users => db.users
  | workspaces => db.workspaces
  | dapps => db.dapps

/-- Looks for a record by its key. -/
def find : (shelf : Shelf) → String → Database → Except CallFault (Option shelf.Record × Database)
  | sessions, key => (Call.findSession key).run
  | codes, key => (Call.findCode key).run
  | users, key => (Call.findUser key).run
  | workspaces, key => (Call.findWorkspace key).run
  | dapps, key => (Call.findDapp key).run

/-- A row can hold the record. The JSON in a code has to be as the reader
makes it, with 126 arrays and objects inside each other at most. -/
def Fits : (shelf : Shelf) → shelf.Record → Prop
  | codes, code => code.metadata.Plain 126
  | _, _ => True

/-- Every row of the table is the text of a record that fits. -/
def Holds (shelf : Shelf) (table : Table) : Prop :=
  ∀ key row, table.get? key = some row →
    ∃ record, shelf.Fits record ∧ row = shelf.form.encode record

end Shelf

/-- A transaction on the database. -/
inductive Transaction where
  | call (call : Call)
  | putUser (user : User)
  | putWorkspace (w : Workspace)
  | putResource (owner : ResourceOwner)
  | putDapp (dapp : DappBinding)

namespace Transaction

/-- The database after a transaction, unless it fails. -/
def run : Transaction → Database → Except CallFault Database
  | call c, db => (c.run db).map (·.2)
  | putUser user, db => .ok (db.putUser user)
  | putWorkspace w, db => .ok (db.putWorkspace w)
  | putResource owner, db => .ok (db.putResource owner)
  | putDapp dapp, db => .ok (db.putDapp dapp)

/-- The record that is given to a transaction and that it writes. An update
of a session writes it only if there is a row. -/
def written? (db : Database) : Transaction → Option ((shelf : Shelf) × shelf.Record)
  | call (.upsertSession session) => some ⟨.sessions, session⟩
  | call (.updateSession session) =>
    if db.sessions.contains session.token then some ⟨.sessions, session⟩ else none
  | call (.insertCode code) | call (.updateCode code) => some ⟨.codes, code⟩
  | putUser user => some ⟨.users, user⟩
  | putWorkspace w => some ⟨.workspaces, w⟩
  | putDapp dapp => some ⟨.dapps, dapp⟩
  | _ => none

/-- Whatever the transaction is given to write fits. -/
def Fits (t : Transaction) : Prop :=
  ∀ db shelf record, t.written? db = some ⟨shelf, record⟩ → shelf.Fits record

end Transaction

namespace Database

/-- The database after a transaction. One that fails changes nothing. -/
def next (db : Database) (t : Transaction) : Database :=
  match t.run db with
  | .ok after => after
  | .error _ => db

/-- The database after many transactions. -/
def after (db : Database) (past : List Transaction) : Database := past.foldl next db

/-- Every row can be read. -/
def Readable (db : Database) : Prop := ∀ shelf : Shelf, shelf.Holds (shelf.table db)

end Database

namespace Shelf

variable {shelf : Shelf}

/-- A record that fits comes back from its text. -/
theorem decode_encode {record : shelf.Record} (h : shelf.Fits record) :
    shelf.form.decode (shelf.form.encode record) = .ok record := by
  cases shelf with
  | sessions => exact Session.decode_encode record
  | codes => exact RecoverCode.decode_encode h (by decide)
  | users => exact User.decode_encode record
  | workspaces => exact Workspace.decode_encode record
  | dapps => exact DappBinding.decode_encode record

/-- A record that was written under a key is found there. -/
theorem find_of_row {db : Database} {key : String} {record : shelf.Record}
    (hfits : shelf.Fits record)
    (hrow : (shelf.table db).get? key = some (shelf.form.encode record)) :
    shelf.find key db = .ok (some record, db) := by
  have hfind := Table.find_of_get? hrow (decode_encode hfits)
  cases shelf <;> exact Call.lookedUp_iff.2 ⟨hfind, rfl⟩

namespace Holds

variable {rows : Table}

theorem empty (shelf : Shelf) : shelf.Holds .empty := by
  intro key row hrow
  cases hrow

/-- A record that fits may be written. -/
theorem write (h : shelf.Holds rows) (key : String) {record : shelf.Record}
    (hfits : shelf.Fits record) : shelf.Holds (rows.write shelf.form key record) := by
  intro other row hrow
  by_cases hother : other = key
  · rw [hother, Table.get?_write_self] at hrow
    exact ⟨record, hfits, (Option.some.inj hrow).symm⟩
  · rw [Table.get?_write_of_ne _ _ hother] at hrow
    exact h other row hrow

theorem decodes (h : shelf.Holds rows) (key row : String) (hrow : rows.get? key = some row) :
    ∃ record, shelf.form.decode row = .ok record := by
  obtain ⟨record, hfits, rfl⟩ := h key row hrow
  exact ⟨record, decode_encode hfits⟩

end Holds

end Shelf

/-- What a transaction was given to write is found. -/
theorem Transaction.finds {t : Transaction} {db : Database} {shelf : Shelf} {record : shelf.Record}
    (hwritten : t.written? db = some ⟨shelf, record⟩) (hfits : shelf.Fits record) :
    ∃ after, t.run db = .ok after ∧
      shelf.find (shelf.key record) after = .ok (some record, after) := by
  cases t with
  | call c =>
    cases c with
    | upsertSession | insertCode | updateCode =>
      cases hwritten
      exact ⟨_, rfl, Shelf.find_of_row hfits (Table.get?_write_self _ _ _)⟩
    | updateSession session =>
      replace hwritten : (if db.sessions.contains session.token then some ⟨.sessions, session⟩
        else none) = some (⟨shelf, record⟩ : (shelf : Shelf) × shelf.Record) := hwritten
      split at hwritten
      next hcontains =>
        cases hwritten
        obtain ⟨row, hrow⟩ := Option.isSome_iff_exists.1 hcontains
        have hrun : (call (.updateSession session)).run db = .ok { db with
            sessions := db.sessions.write Session.form session.token session } := by
          show ((Call.updateSession session).run db).map (·.2) = _
          rw [Call.run_updateSession session hrow]
          rfl
        exact ⟨_, hrun, Shelf.find_of_row hfits (Table.get?_write_self _ _ _)⟩
      next => cases hwritten
    | _ => cases hwritten
  | putUser | putWorkspace | putDapp =>
    cases hwritten
    exact ⟨_, rfl, Shelf.find_of_row hfits (Table.get?_write_self _ _ _)⟩
  | putResource => cases hwritten

namespace Database.Readable

variable {db db' : Database}

theorem empty : ({} : Database).Readable := by
  intro shelf
  cases shelf <;> exact Shelf.Holds.empty _

/-- Calls that write what fits leave every row readable. A use of a code
writes a record of its own, with the JSON that was in the row before. -/
theorem call (h : db.Readable) {c : Call} (hfits : (Transaction.call c).Fits) {answer : c.Answer}
    (hrun : c.run db = .ok (answer, db')) : db'.Readable := by
  obtain ⟨sessions, codes, hframe⟩ := Call.frame_of_run hrun
  intro shelf
  cases shelf with
  | sessions =>
    intro token row hrow
    rcases Call.row_of_run hrun hrow with hold | ⟨session, -, hwritten, -⟩
    · exact h .sessions token row hold
    · exact ⟨session, trivial, hwritten⟩
  | codes =>
    intro text row hrow
    rcases Call.codeRow_of_run hrun hrow with hold | ⟨code, -, hwritten, hgiven⟩ |
      ⟨kind, maxUses, time, record, used, -, hfind, huse, hwritten⟩
    · exact h .codes text row hold
    · refine ⟨code, hfits db .codes code ?_, hwritten⟩
      cases c with
      | insertCode | updateCode =>
        cases hgiven
        rfl
      | _ => cases hgiven
    -- The record that is used was read from a row, so it is one that fits.
    · obtain ⟨old, hold, hrow⟩ := Table.row_of_find hfind
      obtain ⟨stored, hplain, rfl⟩ := h .codes text old hold
      refine ⟨used, ?_, hwritten⟩
      have hstored : stored = record :=
        Except.ok.inj ((Shelf.decode_encode hplain).symm.trans hrow)
      show used.metadata.Plain 126
      rw [(RecoverCode.recordUse?_eq_some_iff.1 huse).2, ← hstored]
      exact hplain
  | users | workspaces | dapps =>
    rw [hframe]
    first | exact h .users | exact h .workspaces | exact h .dapps

/-- Transactions that write what fits leave every row readable. -/
theorem next (h : db.Readable) {t : Transaction} (hfits : t.Fits) : (db.next t).Readable := by
  cases t with
  | call c =>
    show Readable (match (c.run db).map (·.2) with | .ok after => after | .error _ => db)
    cases hrun : c.run db with
    | error e => exact h
    | ok answered => exact h.call hfits hrun
  | putResource owner => exact fun shelf => by cases shelf <;> exact h _
  | putUser user =>
    intro shelf
    cases shelf with
    | users => exact Shelf.Holds.write (h .users) user.id trivial
    | sessions | codes | workspaces | dapps => exact h _
  | putWorkspace w =>
    intro shelf
    cases shelf with
    | workspaces => exact Shelf.Holds.write (h .workspaces) w.id trivial
    | sessions | codes | users | dapps => exact h _
  | putDapp dapp =>
    intro shelf
    cases shelf with
    | dapps => exact Shelf.Holds.write (h .dapps) dapp.sessionId trivial
    | sessions | codes | users | workspaces => exact h _

theorem after (h : db.Readable) {past : List Transaction} (hfits : ∀ t ∈ past, t.Fits) :
    (db.after past).Readable := by
  induction past generalizing db with
  | nil => exact h
  | cons t past ih =>
    exact ih (h.next (hfits t List.mem_cons_self)) fun other hmem =>
      hfits other (List.mem_cons_of_mem _ hmem)

/-- On a readable database no call fails for what is stored. -/
theorem run_ne_store (h : db.Readable) (c : Call) (e : StoreError) :
    c.run db ≠ .error (.store e) := by
  -- Most calls look for one record, and answer with something of it.
  have hfound (shelf : Shelf) (key : String) {β : Type} (f : Option shelf.Record → β) :
      (do return (f (← (liftM ((shelf.table db).find shelf.form key) : Except CallFault _)), db) :
        Except CallFault (β × Database)) ≠ .error (.store e) := by
    obtain ⟨found, hfound⟩ := Table.exists_find (h shelf).decodes key
    rw [hfound]
    rintro ⟨⟩
  cases c with
  | findSession token => exact hfound .sessions token id
  | findCode code => exact hfound .codes code id
  | findUser id => exact hfound .users id fun found => found
  | findWorkspace id => exact hfound .workspaces id fun found => found
  | findPermissions id => exact hfound .workspaces id (·.map (·.permissions))
  | isMember id user => exact hfound .workspaces id (·.any (·.isMember user))
  | findDapp sessionId => exact hfound .dapps sessionId id
  | findUserByAddress address =>
    simp only [Call.run]
    split
    · exact hfound .users _ id
    · rintro ⟨⟩
  | deleteExpiredSessions time =>
    obtain ⟨removed, hremoved⟩ := Table.exists_removeWhere (h .sessions).decodes (·.isExpired time)
    simp only [Call.run]
    rw [show db.sessions.removeWhere Session.form _ = _ from hremoved]
    rintro ⟨⟩
  | deleteCodesBefore time =>
    obtain ⟨removed, hremoved⟩ := Table.exists_removeWhere (h .codes).decodes (·.validAt < time)
    simp only [Call.run]
    rw [show db.codes.removeWhere RecoverCode.form _ = _ from hremoved]
    rintro ⟨⟩
  | consumeCode code kind maxUses time =>
    obtain ⟨found, hfound⟩ := Table.exists_find (h .codes).decodes code
    simp only [Call.run, Database.consumeCode]
    rw [show db.codes.find RecoverCode.form code = _ from hfound]
    cases found with
    | none => rintro ⟨⟩
    | some record =>
      show (if record.kind ≠ kind then _ else if record.isUsable time = true then _ else _) ≠ _
      split
      · rintro ⟨⟩
      split
      · split <;> rintro ⟨⟩
      · rintro ⟨⟩
  | updateSession session =>
    simp only [Call.run]
    split <;> rintro ⟨⟩
  | upsertSession | deleteSession | insertCode | updateCode | findResourceOwner => rintro ⟨⟩

end Database.Readable

namespace Database

/-- A record that fits comes back from its text as it was, and whoever looks
for it under its key when it has been written finds it. So, whatever is done
to the tables from when they were empty, no call ever fails for what is
stored. -/
theorem reads_back :
    (∀ (shelf : Shelf) (record : shelf.Record), shelf.Fits record →
      shelf.form.decode (shelf.form.encode record) = .ok record) ∧
    (∀ (t : Transaction) (db : Database) (shelf : Shelf) (record : shelf.Record),
      t.written? db = some ⟨shelf, record⟩ → shelf.Fits record →
        ∃ after, t.run db = .ok after ∧
          shelf.find (shelf.key record) after = .ok (some record, after)) ∧
    ∀ past : List Transaction, (∀ t ∈ past, t.Fits) →
      ∀ (t : Transaction) (e : StoreError), t.run (Database.after {} past) ≠ .error (.store e) := by
  refine ⟨fun shelf record hfits => Shelf.decode_encode hfits, ?_, ?_⟩
  · intro t db shelf record hwritten hfits
    exact t.finds hwritten hfits
  · intro past hpast t e
    have hreadable := Readable.empty.after hpast
    cases t with
    | call c =>
      intro hrun
      replace hrun : (c.run (Database.after {} past)).map (·.2) = .error (.store e) := hrun
      refine hreadable.run_ne_store c e ?_
      cases hcall : c.run (Database.after {} past) with
      | ok answered =>
        rw [hcall] at hrun
        cases hrun
      | error fault =>
        rw [hcall] at hrun
        cases hrun
        rfl
    | putUser | putWorkspace | putResource | putDapp => exact nofun

/-- A list that holds a list, and so on, to a depth. -/
def nested : Nat → Json.Value
  | 0 => .null
  | depth + 1 => .array [nested depth]

theorem plain_nested (depth : Nat) : (nested depth).Plain depth := by
  induction depth with
  | zero => trivial
  | succ depth ih =>
    intro item hmem
    cases List.mem_singleton.1 hmem
    exact ih

/-- A code with as deep a list in it as a row can hold. -/
def deepCode : RecoverCode :=
  { (default : RecoverCode) with code := "code", metadata := nested 126 }

/-- After a deep code was issued and asked for, the codes can be purged. -/
theorem reads_back_of_deepCode :
    RecoverCode.form.decode (RecoverCode.form.encode deepCode) = .ok deepCode ∧
    (∃ after, (Transaction.call (.updateCode deepCode)).run {} = .ok after ∧
      (Call.findCode "code").run after = .ok (some deepCode, after)) ∧
    ∀ e, (Transaction.call (.deleteCodesBefore Instant.epoch)).run (Database.after {}
      [.call (.insertCode deepCode), .call (.consumeCode "code" .oneTime 1 Instant.epoch)]) ≠
        .error (.store e) := by
  have hfits : Shelf.codes.Fits deepCode := plain_nested 126
  obtain ⟨hdecode, hfind, hanswered⟩ := reads_back
  refine ⟨hdecode .codes deepCode hfits, hfind _ {} .codes deepCode rfl hfits,
    hanswered _ ?_ (.call (.deleteCodesBefore Instant.epoch))⟩
  intro t hmem
  rcases List.mem_cons.1 hmem with rfl | hmem
  · rintro db shelf record ⟨⟩
    exact hfits
  · cases List.mem_singleton.1 hmem
    rintro db shelf record ⟨⟩

end Database

end Gatekeeper

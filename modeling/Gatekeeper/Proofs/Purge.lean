import Gatekeeper.Proofs.Flow
import Gatekeeper.Proofs.Readable

/-!
# `Gatekeeper.Proofs.Purge`: a purge is exact, or nothing happens

Two calls delete many records at once: the sessions that are expired at a
time, and the codes that expired before a time. `Purge` names them, and
`purge.dooms` says which records they are about.

A purge goes through the rows by key and reads each of them before it
deletes any. So there are two cases. Where every row can be read, the rows
of the doomed records are deleted and counted, and the others are as they
were (`Purge.Exact`). Otherwise there is a first row that cannot be read
(`Purge.FirstMalformed`), and its fault is the answer. How many doomed
records stand before that row does not matter.

`Purge.all_or_nothing` puts the two together, and adds what becomes of the
server: a purge that fails has changed nothing, be it for a row or because
the database is out of reach or slow.
-/

set_option autoImplicit false

namespace Gatekeeper

/-! ### A single call -/

/-- A call that looks for no single row fails, or it is answered as it is in
fair weather. -/
theorem Call.attempt_cases {c : Call} (hnothing : c.nothing? = none) (weather : Weather)
    (limit : Option Nat) (progress : Progress) (db : Database) :
    (∃ answer after db', c.run db = .ok (answer, db') ∧
        c.attempt weather limit progress db = .ok (answer, after, db')) ∨
      ∃ halt, c.attempt weather limit progress db = .error halt := by
  cases hattempt : c.attempt weather limit progress db with
  | error halt => exact .inr ⟨halt, rfl⟩
  | ok answered =>
    obtain ⟨answer, after, db'⟩ := answered
    refine .inl ⟨answer, after, db', ?_, rfl⟩
    unfold attempt at hattempt
    simp only [hnothing] at hattempt
    split at hattempt
    · cases hattempt
    -- In whatever way it is not disturbed, the answer is that of the tables.
    cases hrun : c.run db with
    | ok ran =>
      rw [hrun] at hattempt
      split at hattempt <;> cases hattempt <;> rfl
    | error fault =>
      rw [hrun] at hattempt
      cases fault <;> split at hattempt <;> cases hattempt

/-- A call by itself is an operation. When it fails, the server is as it
was. -/
theorem Server.perform_call (weather : Weather) (limit : Option Nat) (c : Call) (server : Server) :
    server.perform weather limit (Flow.call c) =
      match c.attempt weather limit {} server.database with
      | .ok (answer, _, database) => (.ok answer, { server with database })
      | .error halt => (.error halt.stop, server) := by
  simp only [perform, Flow.call_eq_take, Flow.take, Flow.run, Step.run]
  cases c.attempt weather limit {} server.database with
  | ok answered => rfl
  | error halt => cases halt <;> rfl

/-- In fair weather it is answered from the tables. -/
theorem Server.perform_call_fair {c : Call} {server : Server} {answer : c.Answer}
    {after : Database} (h : c.run server.database = .ok (answer, after)) :
    server.perform .fair none (Flow.call c) =
      (.ok answer, { server with database := after }) := by
  rw [perform_call, Call.attempt_fair h]

/-- In whatever weather, it is answered from the tables or fails, if it looks
for no single row. -/
theorem Server.perform_call_cases {c : Call} (hnothing : c.nothing? = none) (weather : Weather)
    (limit : Option Nat) (server : Server) :
    (∃ answer after, c.run server.database = .ok (answer, after) ∧
        server.perform weather limit (Flow.call c) =
          (.ok answer, { server with database := after })) ∨
      ∃ why, server.perform weather limit (Flow.call c) = (.error why, server) := by
  rw [perform_call]
  rcases Call.attempt_cases hnothing weather limit {} server.database with
    ⟨answer, progress, after, hrun, hattempt⟩ | ⟨halt, hattempt⟩
  · exact .inl ⟨answer, after, hrun, by rw [hattempt]⟩
  · exact .inr ⟨halt.stop, by rw [hattempt]⟩

/-! ### Purges -/

/-- A call that deletes many records at once. -/
inductive Purge where
  /-- Deletes the sessions that are expired at a time. -/
  | sessions (time : Timestamp)
  /-- Deletes the codes that expired before a time. -/
  | codes (time : Timestamp)

namespace Purge

/-- The table that is purged. -/
abbrev shelf : Purge → Shelf
  | sessions _ => .sessions
  | codes _ => .codes

/-- The rows of that table. -/
abbrev rows (purge : Purge) (db : Database) : Table := purge.shelf.table db

/-- The record in a row of it. -/
abbrev read (purge : Purge) (row : String) : Except Json.Failure purge.shelf.Record :=
  purge.shelf.form.decode row

/-- Whether a record is to be deleted. -/
def dooms : (purge : Purge) → purge.shelf.Record → Bool
  | sessions time, session => session.expiresAt ≤ time
  | codes time, code => code.validAt < time

/-- Whether a row holds a record that is to be deleted. -/
def doomsRow (purge : Purge) (row : String) : Bool :=
  Table.rowSatisfies purge.shelf.form purge.dooms row

/-- The database with other rows in the table that is purged. -/
def leave (rows : Table) (db : Database) : Purge → Database
  | sessions _ => { db with sessions := rows }
  | codes _ => { db with codes := rows }

/-- The answer to the call, and the database after it. -/
def run : Purge → Database → Except CallFault (Nat × Database)
  | sessions time => (Call.deleteExpiredSessions time).run
  | codes time => (Call.deleteCodesBefore time).run

/-- The operation that makes the call. -/
def flow : Purge → Flow Nat
  | sessions time => Flow.call (.deleteExpiredSessions time)
  | codes time => Flow.call (.deleteCodesBefore time)

/-- What a purge has done that is answered with a number. -/
structure Exact (purge : Purge) (db : Database) (count : Nat) (after : Database) : Prop where
  /-- The other tables are as they were. -/
  rest : after = purge.leave (purge.rows after) db
  /-- The rows of the doomed records are gone, and the others are as they
  were. -/
  kept : ∀ key row, (purge.rows after).get? key = some row ↔
    (purge.rows db).get? key = some row ∧
      ∃ record, purge.read row = .ok record ∧ purge.dooms record = false
  /-- The number is that of the rows of doomed records. -/
  counted :
    count = ((purge.rows db).entries.filter fun entry => purge.doomsRow entry.2).length

/-- The row is the first one by key that cannot be read. -/
def FirstMalformed (purge : Purge) (db : Database) (failure : Json.Failure) (row : String) : Prop :=
  ∃ before key rest, (purge.rows db).entries = before ++ (key, row) :: rest ∧
    (∀ entry ∈ before, ∃ record, purge.read entry.2 = .ok record) ∧
    purge.read row = .error failure

section
variable {purge : Purge} {db after : Database} {count : Nat}

@[simp] theorem rows_leave (purge : Purge) (rows : Table) (db : Database) :
    purge.rows (purge.leave rows db) = rows := by
  cases purge <;> rfl

/-- A purge is a removal from its table. -/
theorem run_eq (purge : Purge) (db : Database) :
    purge.run db =
      match (purge.rows db).removeWhere purge.shelf.form purge.dooms with
      | .ok (count, rows) => .ok (count, purge.leave rows db)
      | .error e => .error (.store e) := by
  cases purge with
  | sessions time =>
    show (Call.deleteExpiredSessions time).run db =
      match db.sessions.removeWhere Session.form (·.isExpired time) with
      | .ok (count, rows) => .ok (count, { db with sessions := rows })
      | .error e => .error (.store e)
    simp only [Call.run]
    cases db.sessions.removeWhere Session.form (·.isExpired time) <;> rfl
  | codes time =>
    show (Call.deleteCodesBefore time).run db =
      match db.codes.removeWhere RecoverCode.form (·.validAt < time) with
      | .ok (count, rows) => .ok (count, { db with codes := rows })
      | .error e => .error (.store e)
    simp only [Call.run]
    cases db.codes.removeWhere RecoverCode.form (·.validAt < time) <;> rfl

/-- A purge that is answered is exact. -/
theorem exact_of_run (h : purge.run db = .ok (count, after)) : purge.Exact db count after := by
  rw [run_eq] at h
  cases hremoved : (purge.rows db).removeWhere purge.shelf.form purge.dooms with
  | error e =>
    rw [hremoved] at h
    cases h
  | ok removed =>
    obtain ⟨number, rows⟩ := removed
    rw [hremoved] at h
    cases h
    refine ⟨by rw [rows_leave], fun key row => ?_, ?_⟩
    · rw [rows_leave]
      exact Table.get?_removeWhere_eq_some_iff hremoved
    · rw [← List.countP_eq_length_filter]
      exact (Table.removeWhere_eq_ok_iff.1 hremoved).2.1

/-- Where every row can be read, a purge is answered. -/
theorem exists_run (hread : ∀ key row, (purge.rows db).get? key = some row →
      ∃ record, purge.read row = .ok record) :
    ∃ count after, purge.run db = .ok (count, after) := by
  obtain ⟨⟨count, rows⟩, hremoved⟩ := Table.exists_removeWhere hread purge.dooms
  exact ⟨count, purge.leave rows db, by rw [run_eq, hremoved]⟩

/-- Where some row cannot be read, there is a first one. -/
theorem exists_firstMalformed {key row : String} (hrow : (purge.rows db).get? key = some row)
    (hbad : ∀ record, purge.read row ≠ .ok record) :
    ∃ failure bad, purge.FirstMalformed db failure bad := by
  rcases Table.decodes_or_malformed purge.shelf.form (purge.rows db).entries with
    hread | ⟨before, k, bad, rest, failure, hentries, hbefore, hfirst⟩
  · obtain ⟨record, hdecode⟩ := hread _ (SortedMap.get?_eq_some_iff _ |>.1 hrow)
    exact absurd hdecode (hbad record)
  · exact ⟨failure, bad, before, k, rest, hentries, hbefore, hfirst⟩

/-- The first row that cannot be read is the fault of the purge. -/
theorem run_of_firstMalformed {failure : Json.Failure} {bad : String}
    (h : purge.FirstMalformed db failure bad) :
    purge.run db = .error (.store (.malformedRow failure bad)) := by
  obtain ⟨before, key, rest, hentries, hbefore, hbad⟩ := h
  rw [run_eq, Table.removeWhere_of_malformed _ hentries hbefore hbad]

/-- In fair weather a purge does what it does by itself. -/
theorem perform_fair {server : Server} (h : purge.run server.database = .ok (count, after)) :
    server.perform .fair none purge.flow = (.ok count, { server with database := after }) := by
  cases purge with
  | sessions time => exact Server.perform_call_fair (c := .deleteExpiredSessions time) h
  | codes time => exact Server.perform_call_fair (c := .deleteCodesBefore time) h

/-- In whatever weather, a purge does what it does by itself, or it fails and
the server is as it was. -/
theorem perform_cases (purge : Purge) (weather : Weather) (limit : Option Nat) (server : Server) :
    (∃ count after, purge.run server.database = .ok (count, after) ∧
        server.perform weather limit purge.flow =
          (.ok count, { server with database := after })) ∨
      ∃ why, server.perform weather limit purge.flow = (.error why, server) := by
  cases purge with
  | sessions time =>
    exact Server.perform_call_cases (c := .deleteExpiredSessions time) rfl weather limit server
  | codes time =>
    exact Server.perform_call_cases (c := .deleteCodesBefore time) rfl weather limit server

/-- Where every row of its table can be read, a purge deletes the rows of the
records that it dooms, gives their number, and leaves all else as it was.
Where some row cannot be read, it gives the fault of the first such row, and
nothing changes, whatever stands before that row. Nothing changes either when
the call fails or is not made in time. -/
theorem all_or_nothing (purge : Purge) (server : Server) :
    ((∀ key row, (purge.rows server.database).get? key = some row →
        ∃ record, purge.read row = .ok record) →
      ∃ count after, purge.run server.database = .ok (count, after) ∧
        purge.Exact server.database count after ∧
        server.perform .fair none purge.flow = (.ok count, { server with database := after }) ∧
        ∀ weather limit,
          server.perform weather limit purge.flow =
              (.ok count, { server with database := after }) ∨
            ∃ why, server.perform weather limit purge.flow = (.error why, server)) ∧
    ∀ key row, (purge.rows server.database).get? key = some row →
      (∀ record, purge.read row ≠ .ok record) →
      ∃ failure bad, purge.FirstMalformed server.database failure bad ∧
        purge.run server.database = .error (.store (.malformedRow failure bad)) ∧
        ∀ weather limit, ∃ why,
          server.perform weather limit purge.flow = (.error why, server) := by
  constructor
  · intro hread
    obtain ⟨count, after, hrun⟩ := exists_run hread
    refine ⟨count, after, hrun, exact_of_run hrun, perform_fair hrun, fun weather limit => ?_⟩
    refine (purge.perform_cases weather limit server).imp_left ?_
    rintro ⟨number, last, hran, hperform⟩
    cases hrun.symm.trans hran
    exact hperform
  · intro key row hrow hbad
    obtain ⟨failure, bad, hfirst⟩ := exists_firstMalformed hrow hbad
    have hrun := run_of_firstMalformed hfirst
    refine ⟨failure, bad, hfirst, hrun, fun weather limit => ?_⟩
    refine (purge.perform_cases weather limit server).resolve_left ?_
    rintro ⟨number, last, hran, -⟩
    cases hrun.symm.trans hran

end

/-- A session that expires at a time. -/
def stay (token : String) (expiresAt : Timestamp) : Session :=
  { (default : Session) with token, expiresAt }

/-- One session expires at the beginning of 1970, the other one a minute
later. -/
def lodgers : Database where
  sessions := (Table.write .empty Session.form "a" (stay "a" Instant.epoch)).write Session.form "b"
    (stay "b" (⟨60000000000, by decide⟩ : Instant))

/-- Behind the two sessions there is a row that ends too early. -/
def lodgersAndStray : Server where
  database := { lodgers with sessions := SortedMap.insert lodgers.sessions "c" "[" }
  cache := .ofCapacity 2
  clock := 0
  idsDrawn := 0

theorem all_or_nothing_of_lodgers :
    let purge := sessions Instant.epoch
    (∃ after, purge.run lodgers = .ok (1, after) ∧ purge.Exact lodgers 1 after) ∧
      ∃ failure bad,
        purge.run lodgersAndStray.database = .error (.store (.malformedRow failure bad)) ∧
        ∀ weather limit, ∃ why,
          lodgersAndStray.perform weather limit purge.flow = (.error why, lodgersAndStray) := by
  intro purge
  have hread : Shelf.sessions.Holds lodgers.sessions :=
    ((Shelf.Holds.empty .sessions).write "a" trivial).write "b" trivial
  constructor
  · obtain ⟨count, after, hrun, hexact, -⟩ :=
      (all_or_nothing purge { lodgersAndStray with database := lodgers }).1 hread.decodes
    have hdooms (session : Session) : purge.doomsRow (Session.form.encode session) =
        purge.dooms session :=
      Table.rowSatisfies_encode (Session.decode_encode session) purge.dooms
    have hentries : lodgers.sessions.entries =
        [("a", Session.form.encode (stay "a" Instant.epoch)),
          ("b", Session.form.encode (stay "b" (⟨60000000000, by decide⟩ : Instant)))] := rfl
    have hcounted := hexact.counted
    rw [show (purge.rows lodgers).entries = _ from hentries] at hcounted
    simp only [List.filter_cons, hdooms] at hcounted
    obtain rfl : count = 1 := hcounted
    exact ⟨after, hrun, hexact⟩
  · have hbad : (Session.form.decode "[").toBool = false := by decide +kernel
    obtain ⟨failure, bad, -, hrun, hperform⟩ :=
      (all_or_nothing purge lodgersAndStray).2 "c" "[" (SortedMap.get?_insert_self _ _ _) (by
        rintro record hdecode
        rw [show Session.form.decode "[" = .ok record from hdecode] at hbad
        cases hbad)
    exact ⟨failure, bad, hrun, hperform⟩

end Purge

end Gatekeeper

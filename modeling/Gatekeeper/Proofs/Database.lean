import Gatekeeper.Proofs.Records
import Gatekeeper.Proofs.Table

/-!
# `Gatekeeper.Proofs.Database`: what calls answer and what they change

First what a call about a session answers, by the row of its token. The
row is given as the text of a session, which is what every write of a
session leaves. Then what calls change: a call that only reads changes
nothing (`eq_of_run_reading`), and no call changes the tables of
workspaces and vaults (`frame_of_run`).

`Database.SessionsKeyed` says that each session stands under its own
token. Calls keep it, and only an addition makes a row where there was
none (`row_of_run`).
-/

set_option autoImplicit false

namespace Gatekeeper

namespace Call

/-- The session in a row is found under its key. -/
theorem run_findSession {token : String} {session : Session} {db : Database}
    (hrow : db.sessions.get? token = some (Session.form.encode session)) :
    (Call.findSession token).run db = .ok (some session, db) := by
  simp only [Call.run]
  rw [Table.find_of_get? hrow (Session.decode_encode session)]
  rfl

/-- Where there is no row, no session is found. -/
theorem run_findSession_none {token : String} {db : Database}
    (hrow : db.sessions.get? token = none) : (Call.findSession token).run db = .ok (none, db) := by
  simp only [Call.run]
  rw [Table.find_of_get?_none hrow]
  rfl

/-- A session that has a row is overwritten. -/
theorem run_updateSession {db : Database} (session : Session) {row : String}
    (hrow : db.sessions.get? session.token = some row) :
    (Call.updateSession session).run db =
      .ok (true, { db with sessions := db.sessions.write Session.form session.token session }) := by
  simp only [Call.run]
  exact if_pos (Option.isSome_of_eq_some hrow)

/-- A purge that is answered has removed the expired sessions and changed
no other table. -/
theorem of_run_deleteExpiredSessions {time : Timestamp} {count : Nat} {db db' : Database}
    (h : (Call.deleteExpiredSessions time).run db = .ok (count, db')) :
    ∃ sessions, db.sessions.removeWhere Session.form (·.isExpired time) = .ok (count, sessions) ∧
      db' = { db with sessions } := by
  simp only [Call.run] at h
  cases hpurge : db.sessions.removeWhere Session.form (·.isExpired time) with
  | error e =>
    rw [hpurge] at h
    cases h
  | ok purged =>
    obtain ⟨purgedCount, sessions⟩ := purged
    rw [hpurge] at h
    cases h
    exact ⟨sessions, rfl, rfl⟩

/-! ### What calls change -/

/-- Whether the call only looks for something. -/
def reads : Call → Bool
  | .findSession _ | .findCode _ | .findUser _ | .findUserByAddress _ | .findWorkspace _
  | .findPermissions _ | .isMember .. | .findResourceOwner _ | .findDapp _ => true
  | _ => false

/-- A look-up is answered with what is found. -/
theorem lookedUp_iff {α : Type} {found : Except StoreError α} {a : α} {db db' : Database} :
    (do return (← found, db) : Except CallFault (α × Database)) = .ok (a, db') ↔
      found = .ok a ∧ db' = db := by
  cases found with
  | error e =>
    constructor
    · intro h
      cases h
    · rintro ⟨⟨⟩, -⟩
  | ok b =>
    constructor
    · intro h
      cases h
      exact ⟨rfl, rfl⟩
    · rintro ⟨⟨⟩, rfl⟩
      rfl

/-- A call that only looks for something changes nothing. -/
theorem eq_of_run_reading {call : Call} {db db' : Database} {answer : call.Answer}
    (hreads : call.reads = true) (h : call.run db = .ok (answer, db')) : db' = db := by
  -- Most look-ups answer from a record of the unchanged database.
  have hfound {β γ : Type} {found : Except StoreError β} {f : β → γ} {b : γ}
      (h : (do return (f (← (liftM found : Except CallFault β)), db)) =
        (Except.ok (b, db') : Except CallFault (γ × Database))) : db' = db := by
    cases found with
    | error e => cases h
    | ok a => cases h; rfl
  cases call with
  | findSession | findCode | findUser | findDapp | findWorkspace | findPermissions | isMember =>
    exact hfound h
  | findUserByAddress address =>
    simp only [Call.run] at h
    split at h
    · exact hfound h
    · cases h
      rfl
  | findResourceOwner => cases h; rfl
  | upsertSession | updateSession | deleteSession | deleteExpiredSessions | insertCode
  | updateCode | consumeCode | deleteCodesBefore => cases hreads

/-- A call that uses a code changes its row at most. -/
theorem codes_of_run_consumeCode {code : String} {kind : CodeKind} {maxUses : UInt32}
    {time : Timestamp} {use : CodeUse} {db db' : Database}
    (h : (Call.consumeCode code kind maxUses time).run db = .ok (use, db')) :
    ∃ codes, db' = { db with codes } ∧
      ∀ other, other ≠ code → codes.get? other = db.codes.get? other := by
  have hsame : ∃ codes, db = { db with codes } ∧
      ∀ other, other ≠ code → codes.get? other = db.codes.get? other :=
    ⟨db.codes, rfl, fun _ _ => rfl⟩
  simp only [Call.run, Database.consumeCode] at h
  cases hfind : db.codes.find RecoverCode.form code with
  | error e =>
    rw [hfind] at h
    cases h
  | ok found =>
    rw [hfind] at h
    cases found with
    | none => cases h; exact hsame
    | some record =>
      replace h : (if record.kind ≠ kind then _ else if record.isUsable time then _ else _) =
        (Except.ok (use, db') : Except CallFault (CodeUse × Database)) := h
      split at h
      · cases h; exact hsame
      split at h
      · split at h
        · cases h
          exact ⟨_, rfl, fun _ hne => Table.get?_write_of_ne db.codes _ hne⟩
        · cases h
      · cases h; exact hsame

/-- A purge of codes changes the codes at most. -/
theorem codes_of_run_deleteCodesBefore {time : Timestamp} {count : Nat} {db db' : Database}
    (h : (Call.deleteCodesBefore time).run db = .ok (count, db')) :
    ∃ codes, db.codes.removeWhere RecoverCode.form (·.validAt < time) = .ok (count, codes) ∧
      db' = { db with codes } := by
  simp only [Call.run] at h
  cases hpurge : db.codes.removeWhere RecoverCode.form (·.validAt < time) with
  | error e =>
    rw [hpurge] at h
    cases h
  | ok purged =>
    obtain ⟨purgedCount, codes⟩ := purged
    rw [hpurge] at h
    cases h
    exact ⟨codes, rfl, rfl⟩

/-- Every call changes the sessions or the codes at most. -/
theorem frame_of_run {call : Call} {db db' : Database} {answer : call.Answer}
    (h : call.run db = .ok (answer, db')) :
    ∃ sessions codes, db' = { db with sessions, codes } := by
  by_cases hreads : call.reads = true
  · exact ⟨db.sessions, db.codes, eq_of_run_reading hreads h⟩
  cases call with
  | upsertSession | deleteSession | insertCode | updateCode => cases h; exact ⟨_, _, rfl⟩
  | updateSession session =>
    simp only [Call.run] at h
    split at h <;> cases h <;> exact ⟨_, _, rfl⟩
  | deleteExpiredSessions time =>
    obtain ⟨sessions, -, rfl⟩ := of_run_deleteExpiredSessions h
    exact ⟨sessions, _, rfl⟩
  | consumeCode =>
    obtain ⟨codes, rfl, -⟩ := codes_of_run_consumeCode h
    exact ⟨_, codes, rfl⟩
  | deleteCodesBefore =>
    obtain ⟨codes, -, rfl⟩ := codes_of_run_deleteCodesBefore h
    exact ⟨_, codes, rfl⟩
  | findSession | findCode | findUser | findUserByAddress | findWorkspace | findPermissions
  | isMember | findResourceOwner | findDapp => exact absurd rfl hreads

/-- The session that the call is given to write. -/
def session? : Call → Option Session
  | .upsertSession session | .updateSession session => some session
  | _ => none

/-- The code that the call is given to write. -/
def code? : Call → Option RecoverCode
  | .insertCode code | .updateCode code => some code
  | _ => none

/-- Whether the call may change the sessions. -/
def writesSessions : Call → Bool
  | .upsertSession _ | .updateSession _ | .deleteSession _ | .deleteExpiredSessions _ => true
  | _ => false

/-- A call about something else leaves the sessions as they are. -/
theorem sessions_of_run {call : Call} {db db' : Database} {answer : call.Answer}
    (hwrites : call.writesSessions = false) (h : call.run db = .ok (answer, db')) :
    db'.sessions = db.sessions := by
  by_cases hreads : call.reads = true
  · rw [eq_of_run_reading hreads h]
  cases call with
  | insertCode | updateCode => cases h; rfl
  | consumeCode =>
    obtain ⟨codes, rfl, -⟩ := codes_of_run_consumeCode h
    rfl
  | deleteCodesBefore =>
    obtain ⟨codes, -, rfl⟩ := codes_of_run_deleteCodesBefore h
    rfl
  | upsertSession | updateSession | deleteSession | deleteExpiredSessions => cases hwrites
  | findSession | findCode | findUser | findUserByAddress | findWorkspace | findPermissions
  | isMember | findResourceOwner | findDapp => exact absurd rfl hreads

/-- Whether the call may change the codes. -/
def writesCodes : Call → Bool
  | .insertCode _ | .updateCode _ | .consumeCode .. | .deleteCodesBefore _ => true
  | _ => false

/-- A call about something else leaves the codes as they are. -/
theorem codes_of_run {call : Call} {db db' : Database} {answer : call.Answer}
    (hwrites : call.writesCodes = false) (h : call.run db = .ok (answer, db')) :
    db'.codes = db.codes := by
  by_cases hreads : call.reads = true
  · rw [eq_of_run_reading hreads h]
  cases call with
  | upsertSession | deleteSession => cases h; rfl
  | updateSession session =>
    simp only [Call.run] at h
    split at h <;> cases h <;> rfl
  | deleteExpiredSessions =>
    obtain ⟨sessions, -, rfl⟩ := of_run_deleteExpiredSessions h
    rfl
  | insertCode | updateCode | consumeCode | deleteCodesBefore => cases hwrites
  | findSession | findCode | findUser | findUserByAddress | findWorkspace | findPermissions
  | isMember | findResourceOwner | findDapp => exact absurd rfl hreads

/-! ### Recover codes -/

/-- A code that cannot be used as it is asked for is refused, and nothing
changes. -/
theorem run_consumeCode_refused {code : String} {kind : CodeKind} {maxUses : UInt32}
    {time : Timestamp} {db : Database} {record : RecoverCode}
    (hfind : db.codes.find RecoverCode.form code = .ok (some record))
    (hrefused : record.kind = kind → record.isUsable time = false) :
    ∃ use, (Call.consumeCode code kind maxUses time).run db = .ok (use, db) ∧
      ∀ used, use ≠ .consumed used := by
  simp only [Call.run, Database.consumeCode]
  rw [hfind]
  show ∃ use,
    (if record.kind ≠ kind then _ else if record.isUsable time = true then _ else _) = _ ∧ _
  by_cases hkind : record.kind = kind
  · rw [if_neg (not_not_intro hkind), if_neg (by rw [hrefused hkind]; decide)]
    exact ⟨.rejected record, rfl, fun used h => by cases h⟩
  · rw [if_pos hkind]
    exact ⟨.notFound, rfl, fun used h => by cases h⟩

/-- A code that does not exist is refused, and nothing changes. -/
theorem run_consumeCode_none {code : String} {kind : CodeKind} {maxUses : UInt32}
    {time : Timestamp} {db : Database} (hrow : db.codes.get? code = none) :
    (Call.consumeCode code kind maxUses time).run db = .ok (.notFound, db) := by
  simp only [Call.run, Database.consumeCode, Table.find_of_get?_none hrow]
  rfl

/-- A code that can be used is used. -/
theorem run_consumeCode_consumed {code : String} {kind : CodeKind} {maxUses : UInt32}
    {time : Timestamp} {db : Database} {record used : RecoverCode}
    (hfind : db.codes.find RecoverCode.form code = .ok (some record)) (hkind : record.kind = kind)
    (husable : record.isUsable time = true) (huse : record.recordUse? maxUses = some used) :
    (Call.consumeCode code kind maxUses time).run db =
      .ok (.consumed used, { db with codes := db.codes.write RecoverCode.form code used }) := by
  simp only [Call.run, Database.consumeCode]
  rw [hfind]
  show (if record.kind ≠ kind then _ else if record.isUsable time = true then _ else _) = _
  rw [if_neg (not_not_intro hkind), if_pos husable, huse]
  rfl

/-- An attempt to use a code counts one use of it and nothing else, if the
code is of the kind and can be used. Otherwise nothing changes. -/
theorem of_run_consumeCode {code : String} {kind : CodeKind} {maxUses : UInt32}
    {time : Timestamp} {use : CodeUse} {db db' : Database}
    (h : (Call.consumeCode code kind maxUses time).run db = .ok (use, db')) :
    (∃ record used, db.codes.find RecoverCode.form code = .ok (some record) ∧
        record.kind = kind ∧ record.isUsable time = true ∧
        record.recordUse? maxUses = some used ∧ use = .consumed used ∧
        db' = { db with codes := db.codes.write RecoverCode.form code used }) ∨
      ((∀ used, use ≠ .consumed used) ∧ db' = db) := by
  cases hfind : db.codes.find RecoverCode.form code with
  | error e =>
    simp only [Call.run, Database.consumeCode, hfind] at h
    cases h
  | ok found =>
    cases found with
    | none =>
      simp only [Call.run, Database.consumeCode, hfind] at h
      cases h
      exact .inr ⟨fun _ h => (by cases h), rfl⟩
    | some record =>
      by_cases husable : record.kind = kind ∧ record.isUsable time = true
      · obtain ⟨hkind, husable⟩ := husable
        cases huse : record.recordUse? maxUses with
        | some used =>
          rw [run_consumeCode_consumed hfind hkind husable huse] at h
          cases h
          exact .inl ⟨record, used, rfl, hkind, husable, huse, rfl, rfl⟩
        | none =>
          simp only [Call.run, Database.consumeCode, hfind] at h
          replace h : (if record.kind ≠ kind then _
            else if record.isUsable time = true then _ else _) =
              (Except.ok (use, db') : Except CallFault (CodeUse × Database)) := h
          rw [if_neg (not_not_intro hkind), if_pos husable, huse] at h
          cases h
      · obtain ⟨refused, hrun, hnot⟩ := run_consumeCode_refused hfind
          fun hkind => Bool.eq_false_iff.2 fun hyes => husable ⟨hkind, hyes⟩
        rw [hrun] at h
        cases h
        exact .inr ⟨hnot, rfl⟩

/-- The row of a code is one that was there before, or was written for a code
of that text, or has one use more than before. -/
theorem codeRow_of_run {call : Call} {db db' : Database} {answer : call.Answer}
    (h : call.run db = .ok (answer, db')) {text row : String}
    (hrow : db'.codes.get? text = some row) :
    db.codes.get? text = some row ∨
      (∃ code : RecoverCode, code.code = text ∧ row = RecoverCode.form.encode code ∧
        call.code? = some code) ∨
      ∃ kind maxUses time record used, call = .consumeCode text kind maxUses time ∧
        db.codes.find RecoverCode.form text = .ok (some record) ∧
        record.recordUse? maxUses = some used ∧ row = RecoverCode.form.encode used := by
  by_cases hwrites : call.writesCodes = false
  · rw [codes_of_run hwrites h] at hrow
    exact .inl hrow
  -- A write changes the row under one text only.
  have hwritten {key : String} {code : RecoverCode}
      (hrow : (db.codes.write RecoverCode.form key code).get? text = some row) :
      db.codes.get? text = some row ∨ key = text ∧ row = RecoverCode.form.encode code := by
    by_cases htext : text = key
    · rw [htext, Table.get?_write_self] at hrow
      exact .inr ⟨htext.symm, (Option.some.inj hrow).symm⟩
    · rw [Table.get?_write_of_ne _ _ htext] at hrow
      exact .inl hrow
  cases call with
  | insertCode code | updateCode code =>
    cases h
    exact (hwritten hrow).imp_right fun ⟨htext, hrow⟩ => .inl ⟨code, htext, hrow, rfl⟩
  | consumeCode used kind maxUses time =>
    rcases of_run_consumeCode h with ⟨record, after, hfind, -, -, huse, -, rfl⟩ | ⟨-, rfl⟩
    · refine (hwritten hrow).imp_right ?_
      rintro ⟨rfl, hcode⟩
      exact .inr ⟨kind, maxUses, time, record, after, rfl, hfind, huse, hcode⟩
    · exact .inl hrow
  | deleteCodesBefore time =>
    obtain ⟨codes, hpurge, rfl⟩ := codes_of_run_deleteCodesBefore h
    have hfilter := Table.get?_removeWhere hpurge text
    rw [show codes.get? text = some row from hrow] at hfilter
    exact .inl (Option.filter_eq_some_iff.1 hfilter.symm).1
  | upsertSession | updateSession | deleteSession | deleteExpiredSessions | findSession | findCode
  | findUser | findUserByAddress | findWorkspace | findPermissions | isMember | findResourceOwner
  | findDapp => exact absurd rfl hwrites

end Call

/-- Each session stands under its own token. -/
def Database.SessionsKeyed (db : Database) : Prop :=
  ∀ token row session, db.sessions.get? token = some row →
    Session.form.decode row = .ok session → session.token = token

namespace Call

/-- A row is one that was there before, or was written for its token. -/
theorem row_of_run {call : Call} {db db' : Database} {answer : call.Answer}
    (h : call.run db = .ok (answer, db')) {token row : String}
    (hrow : db'.sessions.get? token = some row) :
    db.sessions.get? token = some row ∨ ∃ session, session.token = token ∧
      row = Session.form.encode session ∧ call.session? = some session ∧
      (call = .upsertSession session ∨ (db.sessions.get? token).isSome) := by
  by_cases hwrites : call.writesSessions = false
  · rw [sessions_of_run hwrites h] at hrow
    exact .inl hrow
  -- A write changes the row under the token of its session only.
  have hwritten {session : Session}
      (hrow : (db.sessions.write Session.form session.token session).get? token = some row) :
      db.sessions.get? token = some row ∨
        session.token = token ∧ row = Session.form.encode session := by
    by_cases htoken : token = session.token
    · rw [htoken, Table.get?_write_self] at hrow
      exact .inr ⟨htoken.symm, (Option.some.inj hrow).symm⟩
    · rw [Table.get?_write_of_ne _ _ htoken] at hrow
      exact .inl hrow
  cases call with
  | upsertSession session =>
    cases h
    rcases hwritten hrow with hold | ⟨htoken, hrow⟩
    · exact .inl hold
    · exact .inr ⟨session, htoken, hrow, rfl, .inl rfl⟩
  | updateSession session =>
    simp only [Call.run] at h
    split at h
    next hcontains =>
      cases h
      rcases hwritten hrow with hold | ⟨htoken, hrow⟩
      · exact .inl hold
      · refine .inr ⟨session, htoken, hrow, rfl, .inr ?_⟩
        rw [← htoken]
        exact hcontains
    next =>
      cases h
      exact .inl hrow
  | deleteSession deleted =>
    cases h
    by_cases htoken : token = deleted
    · rw [htoken] at hrow
      cases (SortedMap.get?_erase_self db.sessions deleted).symm.trans hrow
    · exact .inl ((SortedMap.get?_erase_of_ne db.sessions htoken).symm.trans hrow)
  | deleteExpiredSessions time =>
    obtain ⟨sessions, hpurge, rfl⟩ := of_run_deleteExpiredSessions h
    have hfilter := Table.get?_removeWhere hpurge token
    rw [show sessions.get? token = some row from hrow] at hfilter
    exact .inl (Option.filter_eq_some_iff.1 hfilter.symm).1
  | insertCode | updateCode | consumeCode | deleteCodesBefore | findSession | findCode | findUser
  | findUserByAddress | findWorkspace | findPermissions | isMember | findResourceOwner
  | findDapp => exact absurd rfl hwrites

/-- Calls leave each session under its own token. -/
theorem keyed_of_run {call : Call} {db db' : Database} {answer : call.Answer}
    (h : call.run db = .ok (answer, db')) (hkeyed : db.SessionsKeyed) : db'.SessionsKeyed := by
  intro token row session hrow hdecode
  rcases row_of_run h hrow with hold | ⟨written, htoken, rfl, -⟩
  · exact hkeyed token row session hold hdecode
  · rw [Session.decode_encode] at hdecode
    rw [← Except.ok.inj hdecode]
    exact htoken

end Call

end Gatekeeper

import Gatekeeper.Proofs.Connector
import Gatekeeper.Proofs.Session.Guard

/-!
# `Gatekeeper.Proofs.Course`: the credentials that were given out

A `Course` is what comes of a server that begins with nothing stored: the
server, and the credentials that it gave out on the way, each with what it
was given out for (`Mint`). Operations run one after the other in it, each
as well as the database lets it. In between the sweeper may run, other
tables may be written, the process may end and begin again, and the clock
may be set.

Nothing is stored but what was given out. That is `Backed`: a session in a
row or in the cache is one of those that were given out, but for its
expiry, and a code in a row is one of those but for the count of its uses.

What operations do for this is the discipline `accountable`. An operation
may write a session or a code only if it was told it, or if it mints it:
once, under a number that it has drawn, for what it is asked
(`Mint.Proper`). The mode of an operation is a `Tab` of the numbers drawn
and of what was minted, and `Tallies` says what holds in a mode. A step
that is allowed keeps it (`Tallies.step`).
-/

set_option autoImplicit false

namespace Gatekeeper

open Connector (Conditions)

/-! ### Courses -/

/-- A credential that was given out, and what it was given out for. -/
inductive Mint where
  /-- A session that a sign-in gave. -/
  | session (request : SignInRequest) (given : Session)
  | challenge (issued : RecoverCode)
  /-- A code that somebody requested. -/
  | code (requester : Identity) (issued : RecoverCode)

/-- The text of the credential. -/
def Mint.credential : Mint → String
  | session _ given => given.token
  | challenge issued | code _ issued => issued.code

/-- The credential that an operation gave out. -/
def Operation.minted? : {α : Type} → Operation α → α → Option Mint
  | _, signIn request, given => some (.session request given)
  | _, issueChallenge .., issued => some (.challenge issued)
  | _, requestCode identity _ _, issued => some (.code identity issued)
  | _, authenticate .., _ | _, authorize .., _ | _, authorizeWorkspace .., _ | _, signOut .., _ =>
    none

/-- Something that happens to the server. -/
inductive Turn : Type 1 where
  /-- An operation of a service runs, however its calls fare. -/
  | operate {α : Type} (service : Service) (operation : Operation α) (conditions : Conditions)
  /-- A round of the sweeper. -/
  | sweepRound (conditions : Conditions) (retention : Duration)
  /-- A sweep of the sessions, at any time. -/
  | sweep (time : Timestamp) (conditions : Conditions)
  /-- A purge of the codes. -/
  | purge (retention : Duration) (conditions : Conditions)
  | putUser (user : User)
  | putWorkspace (w : Workspace)
  | putResource (owner : ResourceOwner)
  | putDapp (dapp : DappBinding)
  /-- The process ends and begins again. -/
  | restart (capacity : Nat)
  | setClock (clock : Int)

/-- A server and the credentials that it gave out, latest first. -/
structure Course where
  server : Server
  minted : List Mint

/-- A sweep at the time that the clock shows. -/
def sweepNow : Flow SweepReport := do SessionStore.sweep (Timestamp.ofInstant (← Flow.now))

theorem failStop_sweepNow : sweepNow.FailStop :=
  Flow.FailStop.now_bind_iff.2 fun now => SessionStore.failStop_sweep (Timestamp.ofInstant now)

/-- A round of the sweeper ends after the sweep, or after the purge that
begins where the sweep ended. -/
theorem Server.sweepRound_snd {p : Server → Prop} {weather : Weather} {retention : Duration}
    {server : Server} (hswept : p (server.perform weather none sweepNow).2)
    (hpurged : ∀ swept, p swept → p (swept.perform weather none (CodeStore.purge retention)).2) :
    p (server.sweepRound weather retention).2 := by
  unfold sweepRound
  split
  next swept after hsweep =>
    have hafter : p after := by
      rw [show server.perform weather none sweepNow = (swept, after) from hsweep] at hswept
      exact hswept
    have hpurge := hpurged after hafter
    split
    · exact hafter
    · split
      next heq =>
        rw [heq] at hpurge
        exact hpurge
      next heq =>
        rw [heq] at hpurge
        exact hpurge

namespace Course

/-- Nothing is stored, and nothing was given out. -/
def start (capacity : Nat) (clock : Int) : Course := ⟨⟨{}, .ofCapacity capacity, clock, 0⟩, []⟩

/-- The course with another database. -/
def edit (course : Course) (change : Database → Database) : Course :=
  { course with server.database := change course.server.database }

/-- The course after something has ended on a server. If it was not stopped,
it may have given a credential out. -/
def record {α : Type} (course : Course) (minted? : α → Option Mint) :
    Except Stop α → Server → Course
  | .ok a, server => ⟨server, (minted? a).toList ++ course.minted⟩
  | .error _, server => { course with server }

theorem server_record {α : Type} (course : Course) (minted? : α → Option Mint)
    (end? : Except Stop α) (server : Server) :
    (course.record minted? end? server).server = server := by
  cases end? <;> rfl

/-- What gives nothing out changes the server only. -/
theorem record_none {α : Type} (course : Course) (end? : Except Stop α) (server : Server) :
    course.record (fun _ => none) end? server = { course with server } := by
  cases end? <;> rfl

/-- An operation runs, and may give a credential out. -/
def operate {α : Type} (course : Course) (service : Service) (operation : Operation α)
    (conditions : Conditions) : Course :=
  let ended := conditions.perform (operation.flow service) course.server
  course.record operation.minted? ended.1 ended.2

theorem server_operate {α : Type} (course : Course) (service : Service) (operation : Operation α)
    (conditions : Conditions) : (course.operate service operation conditions).server =
      (conditions.perform (operation.flow service) course.server).2 :=
  course.server_record _ _ _

/-- One more thing happens. -/
def next (course : Course) : Turn → Course
  | .operate service operation conditions => course.operate service operation conditions
  | .sweepRound conditions retention =>
    { course with server := (course.server.sweepRound conditions.weather retention).2 }
  | .sweep time conditions =>
    { course with server := (conditions.perform (SessionStore.sweep time) course.server).2 }
  | .purge retention conditions =>
    { course with server := (conditions.perform (CodeStore.purge retention) course.server).2 }
  | .putUser user => course.edit (·.putUser user)
  | .putWorkspace w => course.edit (·.putWorkspace w)
  | .putResource owner => course.edit (·.putResource owner)
  | .putDapp dapp => course.edit (·.putDapp dapp)
  | .restart capacity => { course with server.cache := .ofCapacity capacity }
  | .setClock clock => { course with server.clock := clock }

/-- What comes of a server that begins with nothing stored. -/
def ofTurns (capacity : Nat) (clock : Int) (turns : List Turn) : Course :=
  turns.foldl next (start capacity clock)

end Course

/-! ### What is stored -/

/-- The session was given out, with some expiry. -/
def Held (minted : List Mint) (session : Session) : Prop :=
  ∃ request given expiry, .session request given ∈ minted ∧ session = given.lastingTo expiry

/-- The code was issued, as a challenge or to who requested it. -/
def Issued (minted : List Mint) (issued : RecoverCode) : Prop :=
  .challenge issued ∈ minted ∨ ∃ requester, .code requester issued ∈ minted

/-- The code was issued, and has been used since perhaps. While it is not
used up, one more use of it can be counted. -/
def Stored (minted : List Mint) (code : RecoverCode) : Prop :=
  ∃ issued usesCount used, Issued minted issued ∧ issued.metadata.Plain 2 ∧
    code = { issued with usesCount, used } ∧
    (used = false → usesCount.toNat + 1 < UInt32.size)

/-- What is stored was given out. -/
structure Backed (minted : List Mint) (server : Server) : Prop where
  rows : ∀ token row, server.database.sessions.get? token = some row →
    ∃ session, session.token = token ∧ Held minted session ∧ row = Session.form.encode session
  entries : ∀ token entry, server.cache.peek token = some entry →
    entry.session.token = token ∧ Held minted entry.session
  codes : ∀ text row, server.database.codes.get? text = some row →
    ∃ code, code.code = text ∧ Stored minted code ∧ row = RecoverCode.form.encode code

/-- The credential is what those that were given out before entitle to. A
session is for the owner of a challenge, and a code for who requested
it. -/
def Mint.Proper (minted : List Mint) : Mint → Prop
  | session request given => ∃ challenge, .challenge challenge ∈ minted ∧
      challenge.code = request.digest ∧ given.user.id = challenge.ownerId
  | challenge issued => issued.New ∧ issued.kind = .challenge
  | code requester issued => issued.New ∧ issued.kind = .oneTime ∧
      issued.ownerId = requester.userId ∧ issued.network = requester.network

section
variable {minted : List Mint} {new : Option Mint}

theorem Held.mono {session : Session} (h : Held minted session) (new : Option Mint) :
    Held (new.toList ++ minted) session := by
  obtain ⟨request, given, expiry, hmem, heq⟩ := h
  exact ⟨request, given, expiry, List.mem_append_right _ hmem, heq⟩

/-- A session stays one that was given out when it is renewed. -/
theorem Held.lastingTo {session : Session} (h : Held minted session) (expiry : Timestamp) :
    Held minted (session.lastingTo expiry) := by
  obtain ⟨request, given, old, hmem, rfl⟩ := h
  exact ⟨request, given, expiry, hmem, rfl⟩

theorem Held.renewed {entry : CachedSession} (h : Held minted entry.session)
    (renewedUntil : Timestamp) : Held minted (SessionStore.renewed entry renewedUntil).session := by
  unfold SessionStore.renewed
  split
  · exact h.lastingTo renewedUntil
  · exact h

theorem Stored.mono {code : RecoverCode} (h : Stored minted code) (new : Option Mint) :
    Stored (new.toList ++ minted) code := by
  obtain ⟨issued, usesCount, used, hissued, hrest⟩ := h
  refine ⟨issued, usesCount, used, ?_, hrest⟩
  rcases hissued with hmem | ⟨requester, hmem⟩
  · exact .inl (List.mem_append_right _ hmem)
  · exact .inr ⟨requester, List.mem_append_right _ hmem⟩

/-- A code stays one that was issued when it is used. -/
theorem Stored.recordUse? {code used : RecoverCode} {maxUses : UInt32} (h : Stored minted code)
    (huse : code.recordUse? maxUses = some used) : Stored minted used := by
  obtain ⟨issued, usesCount, wasUsed, hissued, hplain, rfl, -⟩ := h
  obtain ⟨hcount, rfl⟩ := RecoverCode.recordUse?_eq_some_iff.1 huse
  refine ⟨issued, usesCount + 1, _, hissued, hplain, rfl, ?_⟩
  intro hnot
  -- The count is below the cap, which is a word of 32 bits.
  have hlt : ¬ maxUses ≤ usesCount + 1 := of_decide_eq_false (Bool.or_eq_false_iff.1 hnot).2
  rw [UInt32.le_iff_toNat_le] at hlt
  have hcap := maxUses.toNat_lt
  have hsize : UInt32.size = 2 ^ 32 := rfl
  omega

/-- A code that was issued is read back from its row. -/
theorem Stored.decode_encode {code : RecoverCode} (h : Stored minted code) :
    RecoverCode.form.decode (RecoverCode.form.encode code) = .ok code := by
  obtain ⟨issued, usesCount, used, -, hplain, rfl, -⟩ := h
  exact RecoverCode.decode_encode hplain (by decide)

/-- A new code may be stored. -/
theorem Stored.of_new {code : RecoverCode} (hissued : Issued minted code) (hnew : code.New) :
    Stored minted code := by
  refine ⟨code, 0, false, hissued, hnew.metadata, ?_, fun _ => by decide⟩
  rw [← hnew.usesCount, ← hnew.used]

namespace Backed

variable {server : Server}

theorem mono (h : Backed minted server) (new : Option Mint) :
    Backed (new.toList ++ minted) server where
  rows token row hrow := by
    obtain ⟨session, htoken, hheld, heq⟩ := h.rows token row hrow
    exact ⟨session, htoken, hheld.mono new, heq⟩
  entries token entry hentry := (h.entries token entry hentry).imp_right (·.mono new)
  codes text row hrow := by
    obtain ⟨code, htext, hstored, heq⟩ := h.codes text row hrow
    exact ⟨code, htext, hstored.mono new, heq⟩

/-- A session that is found was given out. -/
theorem session_of_find (h : Backed minted server) {token : String} {session : Session}
    (hfind : server.database.sessions.find Session.form token = .ok (some session)) :
    session.token = token ∧ Held minted session := by
  obtain ⟨row, hrow, hdecode⟩ := Table.row_of_find hfind
  obtain ⟨stored, htoken, hheld, rfl⟩ := h.rows token row hrow
  rw [Session.decode_encode] at hdecode
  rw [← Except.ok.inj hdecode]
  exact ⟨htoken, hheld⟩

/-- A code that is found was issued. -/
theorem code_of_find (h : Backed minted server) {text : String} {code : RecoverCode}
    (hfind : server.database.codes.find RecoverCode.form text = .ok (some code)) :
    code.code = text ∧ Stored minted code := by
  obtain ⟨row, hrow, hdecode⟩ := Table.row_of_find hfind
  obtain ⟨stored, htext, hstored, rfl⟩ := h.codes text row hrow
  rw [hstored.decode_encode] at hdecode
  rw [← Except.ok.inj hdecode]
  exact ⟨htext, hstored⟩

/-- A call that writes what was given out leaves nothing else stored. -/
theorem call (h : Backed minted server) {c : Call} {answer : c.Answer} {database : Database}
    (hrun : c.run server.database = .ok (answer, database))
    (hsession : ∀ session ∈ c.session?, Held minted session)
    (hcode : ∀ code ∈ c.code?, Stored minted code) : Backed minted { server with database } where
  rows token row hrow := by
    rcases Call.row_of_run hrun hrow with hold | ⟨session, htoken, hwritten, hgiven, -⟩
    · exact h.rows token row hold
    · exact ⟨session, htoken, hsession session hgiven, hwritten⟩
  entries := h.entries
  codes text row hrow := by
    rcases Call.codeRow_of_run hrun hrow with hold | ⟨code, htext, hwritten, hgiven⟩ |
      ⟨kind, maxUses, time, record, used, -, hfind, huse, hwritten⟩
    · exact h.codes text row hold
    · exact ⟨code, htext, hcode code hgiven, hwritten⟩
    · obtain ⟨htext, hstored⟩ := h.code_of_find hfind
      refine ⟨used, ?_, hstored.recordUse? huse, hwritten⟩
      rw [(RecoverCode.recordUse?_eq_some_iff.1 huse).2]
      exact htext

/-- A session that was given out may be put into the cache. -/
theorem remember (h : Backed minted server) {entry : CachedSession}
    (hheld : Held minted entry.session) :
    Backed minted { server with cache := server.cache.put entry } where
  rows := h.rows
  codes := h.codes
  entries token other hother := by
    by_cases htoken : token = entry.session.token
    · subst htoken
      rcases server.cache.peek_put_self entry with hgone | hput
      · cases hgone.symm.trans hother
      · cases hput.symm.trans hother
        exact ⟨rfl, hheld⟩
    · rcases server.cache.peek_put_of_ne entry htoken with hgone | hsame
      · cases hgone.symm.trans hother
      · exact h.entries token other (hsame.symm.trans hother)

/-- The cache may lose entries. -/
theorem cache (h : Backed minted server) {cache : SessionCache}
    (hlost : ∀ token, cache.peek token = none ∨ cache.peek token = server.cache.peek token) :
    Backed minted { server with cache } where
  rows := h.rows
  codes := h.codes
  entries token entry hentry := by
    rcases hlost token with hgone | hsame
    · cases hgone.symm.trans hentry
    · exact h.entries token entry (hsame.symm.trans hentry)

end Backed

end

/-! ### What operations are accountable for -/

/-- What an operation gives a credential out for, if it gives one out. -/
inductive Purpose where
  | nothing
  | session (request : SignInRequest)
  | challenge
  | code (requester : Identity)

namespace Purpose

/-- What it means that a session is added for the purpose. -/
def ofSession? : Purpose → Session → Option Mint
  | session request, given => some (.session request given)
  | _, _ => none

/-- What it means that a code is issued for the purpose. -/
def ofCode? : Purpose → RecoverCode → Option Mint
  | challenge, issued => some (.challenge issued)
  | code requester, issued => some (.code requester issued)
  | _, _ => none

end Purpose

/-- What an operation gives a credential out for. -/
def Operation.purpose : {α : Type} → Operation α → Purpose
  | _, signIn request => .session request
  | _, issueChallenge .. => .challenge
  | _, requestCode identity _ _ => .code identity
  | _, authenticate .. | _, authorize .. | _, authorizeWorkspace .. | _, signOut .. => .nothing

/-- Where an operation stands: how many numbers have been drawn by now, and
what it has minted. -/
structure Tab where
  drawn : Nat
  mint : Option Mint

namespace Tab

/-- The credentials that have been given out, with what was minted. -/
def ledger (course : Course) (tab : Tab) : List Mint := tab.mint.toList ++ course.minted

/-- Where the operation stands after a step. -/
def after (purpose : Purpose) (tab : Tab) : Step → Tab
  | .drawId => { tab with drawn := tab.drawn + 1 }
  | .call (.upsertSession given) => { tab with mint := purpose.ofSession? given }
  | .call (.insertCode issued) => { tab with mint := purpose.ofCode? issued }
  | _ => tab

end Tab

namespace Course

/-- The credential is properly minted, and bears a number that was drawn
since. -/
def Minted (course : Course) (drawn : Nat) (mint : Mint) : Prop :=
  mint.Proper course.minted ∧
    ∃ n, course.server.idsDrawn < n ∧ n ≤ drawn ∧ Numbered mint.credential n

/-- What the answer to a step tells. -/
def Tells (course : Course) (tab : Tab) : (step : Step) → step.Answer → Prop
  | .lookUp token, answer | .peek token, answer =>
    ∀ entry, answer = some entry → entry.session.token = token ∧ Held course.minted entry.session
  | .call (.findSession token), answer =>
    ∀ session, answer = some session → session.token = token ∧ Held course.minted session
  | .call (.findCode text), answer =>
    ∀ code, answer = some code → code.code = text ∧ Stored course.minted code
  | .call (.consumeCode text kind _ _), answer =>
    ∀ code, answer = .consumed code →
      code.code = text ∧ code.kind = kind ∧ Stored course.minted code
  | .call (.findUser id), answer => course.server.database.users.find User.form id = .ok answer
  | .call (.findWorkspace id), answer => course.server.database.findWorkspace id = .ok answer
  | .call (.findDapp sessionId), answer =>
    course.server.database.dapps.find DappBinding.form sessionId = .ok answer
  | .drawId, number => number = tab.drawn + 1
  | _, _ => True

end Course

/-- What an operation may write, and what it is told. Once it has minted a
credential, it can only put it into the cache. -/
def accountable (course : Course) (purpose : Purpose) : Discipline Tab where
  allows tab
    | .call (.upsertSession given) => tab.mint = none ∧
      ∃ mint, purpose.ofSession? given = some mint ∧ course.Minted tab.drawn mint
    | .call (.insertCode issued) => tab.mint = none ∧
      ∃ mint, purpose.ofCode? issued = some mint ∧ course.Minted tab.drawn mint
    | .call (.updateSession session) => tab.mint = none ∧ Held course.minted session
    | .call (.updateCode _) => False
    | .remember entry => Held (tab.ledger course) entry.session
    | .unlock _ => True
    | _ => tab.mint = none
  leads tab step answer tab' := course.Tells tab step answer ∧ tab' = tab.after purpose step

/-- What holds where an operation stands. -/
structure Tallies (course : Course) (tab : Tab) (server : Server) : Prop where
  frame : ∃ sessions codes, server.database = { course.server.database with sessions, codes }
  drawn : server.idsDrawn = tab.drawn
  drawn_le : course.server.idsDrawn ≤ tab.drawn
  backed : Backed (tab.ledger course) server
  minted : ∀ mint, tab.mint = some mint → course.Minted tab.drawn mint

namespace Tallies

variable {course : Course} {tab : Tab} {server : Server} {purpose : Purpose}

theorem start (h : Backed course.minted course.server) :
    Tallies course ⟨course.server.idsDrawn, none⟩ course.server where
  frame := ⟨_, _, rfl⟩
  drawn := rfl
  drawn_le := Nat.le_refl _
  backed := h
  minted := fun _ h => by cases h

theorem backed_of_none (h : Tallies course tab server) (hnone : tab.mint = none) :
    Backed course.minted server := by
  have hbacked := h.backed
  unfold Tab.ledger at hbacked
  rwa [hnone] at hbacked

/-- Calls answer from what was given out, and from the other tables as they
were. -/
theorem tells_call (h : Tallies course tab server) (hnone : tab.mint = none) {c : Call}
    {answer : c.Answer} {database : Database}
    (hrun : c.run server.database = .ok (answer, database)) :
    course.Tells tab (.call c) answer := by
  have hbacked := h.backed_of_none hnone
  obtain ⟨sessions, codes, hframe⟩ := h.frame
  cases c with
  | findSession token =>
    rintro session rfl
    exact hbacked.session_of_find (Call.lookedUp_iff.1 hrun).1
  | findCode text =>
    rintro code rfl
    exact hbacked.code_of_find (Call.lookedUp_iff.1 hrun).1
  | consumeCode text kind maxUses time =>
    rintro code rfl
    rcases Call.of_run_consumeCode hrun with
      ⟨record, used, hfind, hkind, -, huse, hused, -⟩ | ⟨hnot, -⟩
    · cases hused
      obtain ⟨htext, hstored⟩ := hbacked.code_of_find hfind
      refine ⟨?_, ?_, hstored.recordUse? huse⟩ <;>
      rw [(RecoverCode.recordUse?_eq_some_iff.1 huse).2]
      · exact htext
      · exact hkind
    · exact absurd rfl (hnot code)
  | findUser id =>
    have hfind := (Call.lookedUp_iff.1 hrun).1
    rwa [hframe] at hfind
  | findWorkspace id =>
    have hfind := (Call.lookedUp_iff.1 hrun).1
    rwa [hframe] at hfind
  | findDapp sessionId =>
    have hfind := (Call.lookedUp_iff.1 hrun).1
    rwa [hframe] at hfind
  | _ => trivial

/-- A call that is allowed keeps the tally. -/
theorem call (h : Tallies course tab server) {c : Call}
    (hallows : (accountable course purpose).allows tab (.call c)) (hnone : tab.mint = none)
    {answer : c.Answer} {database : Database}
    (hrun : c.run server.database = .ok (answer, database)) :
    Tallies course (tab.after purpose (.call c)) { server with database } := by
  have hbacked := h.backed_of_none hnone
  have hframe : ∃ sessions codes, database = { course.server.database with sessions, codes } := by
    obtain ⟨sessions, codes, hframe⟩ := h.frame
    obtain ⟨sessions', codes', rfl⟩ := Call.frame_of_run hrun
    exact ⟨sessions', codes', by rw [hframe]⟩
  -- A call that mints nothing leaves the tab as it is.
  have hquiet (hsame : tab.after purpose (.call c) = tab)
      (hsession : ∀ session ∈ c.session?, Held course.minted session)
      (hcode : ∀ code ∈ c.code?, Stored course.minted code) :
      Tallies course (tab.after purpose (.call c)) { server with database } := by
    rw [hsame]
    exact ⟨hframe, h.drawn, h.drawn_le, (hbacked.call hrun hsession hcode).mono tab.mint, h.minted⟩
  cases c with
  | upsertSession given =>
    obtain ⟨-, mint, hmint, hminted⟩ := hallows
    refine ⟨hframe, h.drawn, h.drawn_le, ?_, fun other hother => ?_⟩
    -- With the session on the tab, what is written has been given out.
    · show Backed ((purpose.ofSession? given).toList ++ course.minted) _
      refine (hbacked.mono _).call hrun ?_ (by rintro _ ⟨⟩)
      rintro _ ⟨⟩
      cases purpose with
      | session request => exact ⟨request, given, given.expiresAt, List.mem_cons_self, rfl⟩
      | nothing | challenge | code => cases hmint
    · cases hmint.symm.trans hother
      exact hminted
  | insertCode issued =>
    obtain ⟨-, mint, hmint, hminted⟩ := hallows
    refine ⟨hframe, h.drawn, h.drawn_le, ?_, fun other hother => ?_⟩
    · show Backed ((purpose.ofCode? issued).toList ++ course.minted) _
      refine (hbacked.mono _).call hrun (by rintro _ ⟨⟩) ?_
      rintro _ ⟨⟩
      cases purpose with
      | challenge =>
        cases hmint
        exact .of_new (.inl List.mem_cons_self) hminted.1.1
      | code requester =>
        cases hmint
        exact .of_new (.inr ⟨requester, List.mem_cons_self⟩) hminted.1.1
      | nothing | session => cases hmint
    · cases hmint.symm.trans hother
      exact hminted
  | updateSession session =>
    refine hquiet rfl ?_ (by rintro _ ⟨⟩)
    rintro _ ⟨⟩
    exact hallows.2
  | updateCode => exact hallows.elim
  | _ => exact hquiet rfl (by rintro _ ⟨⟩) (by rintro _ ⟨⟩)

/-- A step that is allowed keeps the tally. -/
theorem step (h : Tallies course tab server) {step : Step}
    (hallows : (accountable course purpose).allows tab step) :
    step.Ensures server
      (fun answer after => ∃ tab', (accountable course purpose).leads tab step answer tab' ∧
        Tallies course tab' after)
      fun _ => tab.mint = none := by
  cases step with
  | call c =>
    have hnone : tab.mint = none := by
      cases c with
      | upsertSession | insertCode | updateSession => exact hallows.1
      | updateCode => exact hallows.elim
      | _ => exact hallows
    exact ⟨fun _ => hnone, fun answer database hrun =>
      ⟨_, ⟨h.tells_call hnone hrun, rfl⟩, h.call hallows hnone hrun⟩⟩
  | lookUp token =>
    refine ⟨tab, ⟨(h.backed_of_none hallows).entries token, rfl⟩, h.frame, h.drawn, h.drawn_le, ?_,
      h.minted⟩
    exact h.backed.cache fun other => .inr (server.cache.peek_get token other)
  | peek token => exact ⟨tab, ⟨(h.backed_of_none hallows).entries token, rfl⟩, h⟩
  | remember entry =>
    exact ⟨tab, ⟨trivial, rfl⟩, h.frame, h.drawn, h.drawn_le, h.backed.remember hallows, h.minted⟩
  | forget token =>
    refine ⟨tab, ⟨trivial, rfl⟩, h.frame, h.drawn, h.drawn_le, ?_, h.minted⟩
    refine h.backed.cache fun other => ?_
    rw [SessionCache.peek_erase]
    split
    · exact .inl rfl
    · exact .inr rfl
  | drawId =>
    refine ⟨{ tab with drawn := tab.drawn + 1 }, ⟨?_, rfl⟩, h.frame, ?_, ?_,
      ⟨h.backed.rows, h.backed.entries, h.backed.codes⟩, ?_⟩
    · exact congrArg (· + 1) h.drawn
    · exact congrArg (· + 1) h.drawn
    · exact Nat.le_succ_of_le h.drawn_le
    · intro mint hmint
      obtain ⟨hproper, n, hlt, hle, hnumbered⟩ := h.minted mint hmint
      exact ⟨hproper, n, hlt, Nat.le_succ_of_le hle, hnumbered⟩
  | readClock => exact ⟨fun _ _ => ⟨tab, ⟨trivial, rfl⟩, h⟩, fun _ => hallows⟩
  | listStale | lock | unlock => exact ⟨tab, ⟨trivial, rfl⟩, h⟩

end Tallies

end Gatekeeper

import Gatekeeper.Proofs.Provenance
import Gatekeeper.Proofs.Session.Coherence
import Gatekeeper.Proofs.Session.SignOut

/-!
# `Gatekeeper.Proofs.Separation`: credentials of one kind do not reach the others

The first letters of a credential tell which records it is resolved from,
and nothing else decides the result.

`flow.Alike post server other` says that two undisturbed runs of a flow,
from two states, are answered alike at every step, so they end alike
(`Flow.Alike.undisturbed`). `server.Agrees raw other` is what two states
have to have in common for the credential.

What the resolution may change is `server.ChangesAtMost ttl raw after`: the
one code, or the one session, or nothing. `Server.Fate` says what may become
of a session. It may be lost although it is alive, if the cache has a copy
whose renewal is due to be written and the table has no row for it, and the
copy may take the place of another row
(`Service.live_copy_dropped_or_written`).

Each session stands under its own token, in the cache and in its row
(`Server.Orderly`). Every course keeps this (`Course.orderly_ofTurns`).
`Service.authenticate_apart` puts both together.
-/

set_option autoImplicit false

namespace Gatekeeper

open Connector (Conditions)
open SessionStore (EntriesKeyed)

/-! ### Two runs side by side -/

/-- The step is answered alike in two states, or it has no answer for the same
reason. -/
def Step.Alike (s : Step) (server other : Server) (post : s.Answer → Server → Server → Prop) :
    Prop :=
  (∃ answer after after', s.undisturbed server = .ok (answer, after) ∧
    s.undisturbed other = .ok (answer, after') ∧ post answer after after') ∨
  ∃ halt, s.undisturbed server = .error halt ∧ s.undisturbed other = .error halt

theorem Step.Alike.mono {s : Step} {server other : Server}
    {post post' : s.Answer → Server → Server → Prop} (h : s.Alike server other post)
    (himp : ∀ answer after after', post answer after after' → post' answer after after') :
    s.Alike server other post' := by
  rcases h with ⟨answer, after, after', hrun, hrun', hpost⟩ | hhalt
  · exact .inl ⟨answer, after, after', hrun, hrun', himp _ _ _ hpost⟩
  · exact .inr hhalt

/-- An undisturbed call is answered from the tables. -/
theorem Step.undisturbed_call (c : Call) (server : Server) :
    (Step.call c).undisturbed server =
      match c.run server.database with
      | .ok (answer, database) => .ok (answer, { server with database })
      | .error (.store e) => .error (.failed e ⟨1, 0⟩)
      | .error (.overflow cause) => .error (.stopped (.overflow cause)) := by
  cases hrun : c.run server.database with
  | ok answered =>
    unfold Step.undisturbed
    rw [Step.run_call hrun]
    rfl
  | error fault =>
    simp only [Step.undisturbed, Step.run, Call.attempt, hrun]
    cases fault <;> rfl

theorem Step.undisturbed_readClock (server : Server) :
    Step.readClock.undisturbed server =
      match server.now? with
      | some now => .ok (now, server)
      | none => .error (.stopped (.overflow .clock)) := by
  simp only [Step.undisturbed, Step.run]
  cases server.now? <;> rfl

namespace Flow

variable {α β : Type} {server other : Server}

/-- The steps of the flow are answered alike in two states, up to one without
answer, or to an end that satisfies `post`. -/
def Alike (post : α → Server → Server → Prop) : Flow α → Server → Server → Prop
  | done a, server, other => post a server other
  | stop _, _, _ => True
  | step s next _, server, other =>
    s.Alike server other fun answer after after' => (next answer).Alike post after after'

namespace Alike

variable {post post' : α → Server → Server → Prop} {flow : Flow α}

/-- Two runs that are answered alike end alike. -/
theorem undisturbed (h : flow.Alike post server other) (hfail : flow.FailStop) :
    (flow.undisturbed server).1 = (flow.undisturbed other).1 := by
  -- On the flow, as each step leads to two other states.
  induction flow generalizing server other with
  | done | stop => rfl
  | step s next failed ih _ =>
    unfold Flow.undisturbed
    rcases h with ⟨answer, after, after', hrun, hrun', hnext⟩ | ⟨halt, hhalt, hhalt'⟩
    · rw [hrun, hrun']
      exact ih answer hnext (hfail.1 answer)
    · rw [hhalt, hhalt']
      cases halt with
      | failed error _ =>
        dsimp only
        rw [hfail.2 error]
        rfl
      | stopped why => rfl

theorem mono (h : flow.Alike post server other)
    (himp : ∀ a after after', post a after after' → post' a after after') :
    flow.Alike post' server other := by
  induction flow generalizing server other with
  | done a => exact himp a server other h
  | stop => trivial
  | step s next failed ih _ => exact Step.Alike.mono h fun answer _ _ hnext => ih answer hnext

/-- A flow goes on alike if its first part does. -/
theorem bind {post : β → Server → Server → Prop} {f : α → Flow β}
    (h : flow.Alike (fun a after after' => (f a).Alike post after after') server other) :
    (flow.bind f).Alike post server other := by
  induction flow generalizing server other with
  | done | stop => exact h
  | step s next failed ih _ => exact Step.Alike.mono h fun answer _ _ hnext => ih answer hnext

/-- An operation under a lock goes on alike if it does without. -/
theorem locked {token : String} (h : flow.Alike post server other) :
    (Flow.locked token flow).Alike post server other := by
  refine .inl ⟨(), server, other, rfl, rfl, ?_⟩
  show (flow.bind fun a => (take (.unlock token)).bind fun _ => .done a).Alike post server other
  refine bind (h.mono ?_)
  intro a after after' hpost
  exact .inl ⟨(), after, after', rfl, rfl, hpost⟩

/-- What is required is there in both runs, or neither goes on. -/
theorem require {error : AuthError} {found : Option β} {f : β → Flow α}
    (h : ∀ b, found = some b → (f b).Alike post server other) :
    ((Flow.require error found).bind f).Alike post server other := by
  cases found with
  | some b => exact h b rfl
  | none => trivial

theorem inCalendar {time : Option Instant} {f : Instant → Flow α}
    (h : ∀ t, time = some t → (f t).Alike post server other) :
    ((Flow.inCalendar time).bind f).Alike post server other := by
  cases time with
  | some t => exact h t rfl
  | none => trivial

theorem choice {c : Prop} [Decidable c] {flow other' : Flow α}
    (hyes : c → flow.Alike post server other) (hno : ¬ c → other'.Alike post server other) :
    (if c then flow else other').Alike post server other := by
  split
  next h => exact hyes h
  next h => exact hno h

/-- A call is answered alike if the tables give it the same answer. -/
theorem call {c : Call} {next : c.Answer → Flow α} {failed : StoreError → Flow α}
    (hsame : (c.run server.database).map (·.1) = (c.run other.database).map (·.1))
    (hnext : ∀ answer database database', c.run server.database = .ok (answer, database) →
      c.run other.database = .ok (answer, database') →
      (next answer).Alike post { server with database } { other with database := database' }) :
    (Flow.step (.call c) next failed).Alike post server other := by
  unfold Alike Step.Alike
  rw [Step.undisturbed_call, Step.undisturbed_call]
  cases hrun : c.run server.database with
  | ok answered =>
    obtain ⟨answer, database⟩ := answered
    rw [hrun] at hsame
    cases hrun' : c.run other.database with
    | ok answered' =>
      obtain ⟨answer', database'⟩ := answered'
      rw [hrun'] at hsame
      cases hsame
      exact .inl ⟨answer, _, _, rfl, rfl, hnext answer _ _ hrun hrun'⟩
    | error fault' =>
      rw [hrun'] at hsame
      cases hsame
  | error fault =>
    rw [hrun] at hsame
    cases hrun' : c.run other.database with
    | ok answered' =>
      rw [hrun'] at hsame
      cases hsame
    | error fault' =>
      rw [hrun'] at hsame
      cases hsame
      cases fault <;> exact .inr ⟨_, rfl, rfl⟩

/-- A call that reads is answered alike if the tables give it the same
answer, and leaves the states as they are. -/
theorem reading {c : Call} {next : c.Answer → Flow α} {failed : StoreError → Flow α}
    (hreads : c.reads = true)
    (hsame : (c.run server.database).map (·.1) = (c.run other.database).map (·.1))
    (hnext : ∀ answer, c.run server.database = .ok (answer, server.database) →
      (next answer).Alike post server other) :
    (Flow.step (.call c) next failed).Alike post server other := by
  refine call hsame fun answer database database' hrun hrun' => ?_
  cases Call.eq_of_run_reading hreads hrun
  cases Call.eq_of_run_reading hreads hrun'
  exact hnext answer hrun

theorem readClock {next : Instant → Flow α} {failed : StoreError → Flow α}
    (hclock : server.clock = other.clock)
    (hnext : ∀ now, server.now? = some now → (next now).Alike post server other) :
    (Flow.step .readClock next failed).Alike post server other := by
  have hnow : other.now? = server.now? := congrArg Instant.ofClock? hclock.symm
  unfold Alike Step.Alike
  rw [Step.undisturbed_readClock, Step.undisturbed_readClock, hnow]
  cases hread : server.now? with
  | some now => exact .inl ⟨now, server, other, rfl, rfl, hnext now hread⟩
  | none => exact .inr ⟨_, rfl, rfl⟩

/-- The cache answers alike if it has the same entry. -/
theorem lookUp {token : String} {next : Option CachedSession → Flow α}
    {failed : StoreError → Flow α}
    (hpeek : server.cache.peek token = other.cache.peek token)
    (hnext : (next (server.cache.peek token)).Alike post
      { server with cache := (server.cache.get token).2 }
      { other with cache := (other.cache.get token).2 }) :
    (Flow.step (.lookUp token) next failed).Alike post server other := by
  refine .inl ⟨server.cache.peek token, _, _, ?_, ?_, hnext⟩
  · simp only [Step.undisturbed, Step.run, ← SessionCache.get_fst]
    rfl
  · simp only [Step.undisturbed, Step.run, hpeek, ← SessionCache.get_fst]
    rfl

theorem forget {token : String} {next : Bool → Flow α} {failed : StoreError → Flow α}
    (hpeek : server.cache.peek token = other.cache.peek token)
    (hnext : (next (server.cache.peek token).isSome).Alike post
      { server with cache := server.cache.erase token }
      { other with cache := other.cache.erase token }) :
    (Flow.step (.forget token) next failed).Alike post server other := by
  refine .inl ⟨(server.cache.peek token).isSome, _, _, rfl, ?_, hnext⟩
  rw [hpeek]
  rfl

theorem remember {entry : CachedSession} {next : Unit → Flow α} {failed : StoreError → Flow α}
    (hnext : (next ()).Alike post { server with cache := server.cache.put entry }
      { other with cache := other.cache.put entry }) :
    (Flow.step (.remember entry) next failed).Alike post server other :=
  .inl ⟨(), _, _, rfl, rfl, hnext⟩

end Alike

end Flow

/-! ### What a credential is resolved from -/

theorem Table.find_congr {α : Type} {form : Json.Form α} {table table' : Table} {key : String}
    (h : table.get? key = table'.get? key) : table.find form key = table'.find form key := by
  unfold Table.find
  rw [h]

/-- A look-up tells of what is found, and of nothing else in the tables. -/
theorem Call.lookedUp_congr {α : Type} {found found' : Except StoreError α} (h : found = found')
    (db db' : Database) :
    (do return (← found, db) : Except CallFault (α × Database)).map (·.1) =
      (do return (← found', db') : Except CallFault (α × Database)).map (·.1) := by
  subst h
  cases found <;> rfl

/-- Whether a code can be used is told by its row. -/
theorem Call.consumeCode_congr {db db' : Database} {text : String}
    (h : db.codes.get? text = db'.codes.get? text) (kind : CodeKind) (maxUses : UInt32)
    (time : Timestamp) :
    ((Call.consumeCode text kind maxUses time).run db).map (·.1) =
      ((Call.consumeCode text kind maxUses time).run db').map (·.1) := by
  show (db.consumeCode text kind maxUses time).map (·.1) =
    (db'.consumeCode text kind maxUses time).map (·.1)
  unfold Database.consumeCode
  rw [Table.find_congr h]
  cases db'.codes.find RecoverCode.form text with
  | error => rfl
  | ok found =>
    cases found with
    | none => rfl
    | some record =>
      show Except.map _
          (if record.kind ≠ kind then _ else if record.isUsable time = true then _ else _) =
        Except.map _
          (if record.kind ≠ kind then _ else if record.isUsable time = true then _ else _)
      by_cases hkind : record.kind ≠ kind
      · rw [if_pos hkind, if_pos hkind]
        rfl
      · rw [if_neg hkind, if_neg hkind]
        by_cases husable : record.isUsable time = true
        · rw [if_pos husable, if_pos husable]
          cases record.recordUse? maxUses <;> rfl
        · rw [if_neg husable, if_neg husable]
          rfl

namespace Database

/-- Two databases have the code in common, its owner, and the workspace that
is the owner's own. -/
structure SameCode (text : String) (db db' : Database) : Prop where
  code : db.codes.get? text = db'.codes.get? text
  owner : ∀ code, db.codes.find RecoverCode.form text = .ok (some code) →
    db.users.get? code.ownerId = db'.users.get? code.ownerId
  workspace : ∀ code owner, db.codes.find RecoverCode.form text = .ok (some code) →
    db.users.find User.form code.ownerId = .ok (some owner) →
    db.workspaces.get? owner.defaultWorkspaceId = db'.workspaces.get? owner.defaultWorkspaceId

/-- Two databases have the dapp in common, and the user it is bound to. -/
structure SameDapp (sessionId : String) (db db' : Database) : Prop where
  dapp : db.dapps.get? sessionId = db'.dapps.get? sessionId
  user : ∀ dapp, db.dapps.find DappBinding.form sessionId = .ok (some dapp) →
    db.users.get? dapp.userId = db'.users.get? dapp.userId

end Database

namespace Server

/-- Two servers have the session in common, in the cache and in the
table. -/
structure SameSession (token : String) (server other : Server) : Prop where
  entry : server.cache.peek token = other.cache.peek token
  row : server.database.sessions.get? token = other.database.sessions.get? token

/-- Two servers have in common what the credential selects. -/
def Agrees (server : Server) (raw : String) (other : Server) : Prop :=
  match CredentialKind.of raw with
  | .code | .cli => server.database.SameCode raw other.database
  | .connector => server.database.SameDapp (connectorSession raw) other.database
  | .bearer => server.SameSession raw other

end Server

/-! ### Resolutions are alike -/

namespace SessionStore

open Gatekeeper.Flow (call take)

variable {server other : Server} {token : String} {entry : CachedSession}

/-- What two look-ups end in: an expired session that is found is found as it
was. -/
def Matched (token : String) (found : Option Session) (after after' : Server) : Prop :=
  after.clock = after'.clock ∧ ∀ session now, found = some session → after.now? = some now →
    session.isExpired now = true → after.SameSession token after'

/-- A live session is renewed alike. -/
theorem alike_renew (ttl : Duration) (hclock : server.clock = other.clock)
    (hsame : server.SameSession token other) (htoken : entry.session.token = token) {now : Instant}
    (hnow : server.now? = some now) (hlive : entry.session.isExpired now = false) :
    (renew ttl token entry).Alike (Matched token) server other := by
  -- What is given is alive, so nothing is asked of the states for it.
  have hgiven (after after' : Server) (hclock : after.clock = server.clock)
      (hclock' : after'.clock = server.clock) :
      Matched token (some entry.session) after after' := by
    refine ⟨hclock.trans hclock'.symm, ?_⟩
    rintro _ time ⟨⟩ htime hexpired
    have hsometime : after.now? = some now := (congrArg Instant.ofClock? hclock).trans hnow
    cases hsometime.symm.trans htime
    cases hlive.symm.trans hexpired
  have hcontains : server.database.sessions.contains entry.session.token =
      other.database.sessions.contains entry.session.token := by
    subst htoken
    unfold SortedMap.contains
    rw [hsame.row]
  refine .choice (fun _ => .call ?_ ?_) fun _ => .remember (hgiven _ _ rfl hclock.symm)
  · simp only [Call.run, hcontains]
    split <;> rfl
  · intro updated database database' _ _
    refine .choice (fun _ => .remember (hgiven _ _ rfl hclock.symm)) fun _ => ?_
    refine .forget hsame.entry ⟨hclock, ?_⟩
    rintro _ _ ⟨⟩

theorem alike_present (ttl : Duration) (hclock : server.clock = other.clock)
    (hsame : server.SameSession token other) (htoken : entry.session.token = token) :
    (present ttl token entry).Alike (Matched token) server other := by
  refine .readClock hclock fun now hnow => .choice (fun _ => ?_) fun hlive => ?_
  · exact ⟨hclock, fun _ _ _ _ _ => hsame⟩
  · refine .inCalendar fun renewedUntil _ => ?_
    refine alike_renew ttl hclock hsame ?_ hnow
      (isExpired_renewed (Bool.eq_false_iff.2 hlive) renewedUntil)
    rw [token_renewed]
    exact htoken

/-- A token is looked up alike if it has the same session. -/
theorem alike_get (ttl : Duration) (hclock : server.clock = other.clock)
    (hsame : server.SameSession token other) (hentries : EntriesKeyed server.cache)
    (hrows : server.database.SessionsKeyed) :
    (get ttl token).Alike (Matched token) server other := by
  rw [get_eq]
  refine .locked (.lookUp hsame.entry ?_)
  have htouched : Server.SameSession token { server with cache := (server.cache.get token).2 }
      { other with cache := (other.cache.get token).2 } := by
    refine ⟨?_, hsame.row⟩
    rw [SessionCache.peek_get, SessionCache.peek_get]
    exact hsame.entry
  show Flow.Alike _ (answer ttl token (server.cache.peek token)) _ _
  cases hpeek : server.cache.peek token with
  | some entry => exact alike_present ttl hclock htouched (hentries token entry hpeek)
  | none =>
    refine .reading rfl (Call.lookedUp_congr (Table.find_congr hsame.row) _ _) fun found hfound =>
      ?_
    cases found with
    | none => exact ⟨hclock, by rintro _ _ ⟨⟩⟩
    | some session =>
      obtain ⟨row, hrow, hdecode⟩ := Table.row_of_find (Call.lookedUp_iff.1 hfound).1
      exact alike_present ttl hclock htouched (hrows token row session hrow hdecode)

/-- A token is removed alike if it has the same session. -/
theorem alike_remove (hsame : server.SameSession token other) :
    (remove token).Alike (fun _ _ _ => True) server other := by
  refine .locked (.forget hsame.entry (.call ?_ fun _ _ _ _ _ => trivial))
  have hcontains : server.database.sessions.contains token =
      other.database.sessions.contains token := by
    unfold SortedMap.contains
    rw [hsame.row]
  simp only [Call.run, hcontains]
  rfl

end SessionStore

namespace Credential

open Gatekeeper.Flow (call take)

variable {server other : Server} {raw : String}

/-- A code is resolved alike from the same code, owner and workspace. -/
theorem alike_resolveCode (hclock : server.clock = other.clock)
    (hsame : server.database.SameCode raw other.database) (maxUses : UInt32) :
    (resolveCode maxUses raw).Alike (fun _ _ _ => True) server other := by
  refine .readClock hclock fun now _ => .call (Call.consumeCode_congr hsame.code _ _ _) ?_
  intro use database database' hrun hrun'
  cases use with
  | rejected | notFound => trivial
  | consumed used =>
    -- The tables of users and workspaces are as before.
    obtain ⟨code, used', hfind, -, -, huse, hused, rfl⟩ :=
      (Call.of_run_consumeCode hrun).resolve_right fun hnot => hnot.1 used rfl
    obtain ⟨_, _, -, -, -, -, -, rfl⟩ :=
      (Call.of_run_consumeCode hrun').resolve_right fun hnot => hnot.1 used rfl
    cases hused
    have howner : used.ownerId = code.ownerId := by
      rw [(RecoverCode.recordUse?_eq_some_iff.1 huse).2]
    refine .reading rfl (Call.lookedUp_congr (Table.find_congr ?_) _ _) fun found hfound => ?_
    · rw [howner]
      exact hsame.owner code hfind
    refine .require fun owner hsome => ?_
    have huser : server.database.users.find User.form code.ownerId = .ok (some owner) := by
      rw [← howner, ← hsome]
      exact (Call.lookedUp_iff.1 hfound).1
    exact .reading rfl (Call.lookedUp_congr
      (Table.find_congr (hsame.workspace code owner hfind huser)) _ _) fun _ _ => trivial

/-- A connector credential is resolved alike from the same dapp and user. -/
theorem alike_resolveConnector
    (hsame : server.database.SameDapp (connectorSession raw) other.database) :
    (resolveConnector raw).Alike (fun _ _ _ => True) server other := by
  refine .choice (fun _ => trivial) fun _ => ?_
  refine .reading rfl (Call.lookedUp_congr (Table.find_congr hsame.dapp) _ _) fun found hfound => ?_
  refine .require fun dapp hsome => ?_
  have hdapp := (Call.lookedUp_iff.1 hfound).1
  rw [hsome] at hdapp
  exact .reading rfl (Call.lookedUp_congr (Table.find_congr (hsame.user dapp hdapp)) _ _)
    fun _ _ => .require fun _ _ => trivial

/-- A session token is resolved alike from the same session. -/
theorem alike_resolveBearer (ttl : Duration) (hclock : server.clock = other.clock)
    (hsame : server.SameSession raw other) (hentries : EntriesKeyed server.cache)
    (hrows : server.database.SessionsKeyed) :
    (resolveBearer ttl raw).Alike (fun _ _ _ => True) server other := by
  refine .bind ((SessionStore.alike_get ttl hclock hsame hentries hrows).mono ?_)
  rintro found after after' ⟨hclock, hmatched⟩
  refine .require fun session hsession => .readClock hclock fun now hnow => ?_
  refine .choice (fun hexpired => ?_) fun _ => trivial
  -- As it is expired, it is still the same in both states.
  exact .bind ((SessionStore.alike_remove (hmatched session now hsession hnow hexpired)).mono
    fun _ _ _ _ => trivial)

end Credential

/-- A credential is resolved alike in two states that agree on what it
selects. -/
theorem Service.alike_authenticate (service : Service) {raw : String} (context : RequestContext)
    {server other : Server} (hclock : server.clock = other.clock)
    (hagrees : server.Agrees raw other)
    (hentries : EntriesKeyed server.cache) (hrows : server.database.SessionsKeyed) :
    (service.authenticate raw context).Alike (fun _ _ _ => True) server other := by
  refine .choice (fun _ => trivial) fun _ => ?_
  unfold Server.Agrees at hagrees
  cases hkind : CredentialKind.of raw <;> rw [hkind] at hagrees
  case bearer => exact Credential.alike_resolveBearer _ hclock hagrees hentries hrows
  case code => exact Credential.alike_resolveCode hclock hagrees _
  case cli =>
    refine .bind ((Credential.alike_resolveCode hclock hagrees _).mono fun identity _ _ _ => ?_)
    exact .choice (fun _ => trivial) fun _ => trivial
  case connector => exact Credential.alike_resolveConnector hagrees

/-! ### What a resolution changes -/

namespace Server

/-- The session that a look-up of the token works with. -/
def session? (server : Server) (token : String) : Option Session :=
  match server.cache.peek token with
  | some entry => some entry.session
  | none => (server.database.sessions.find Session.form token).toOption.join

/-- The code is stored, and can be used as a one-time code now. -/
def CanUse (server : Server) (text : String) (code : RecoverCode) : Prop :=
  server.database.codes.find RecoverCode.form text = .ok (some code) ∧ code.kind = .oneTime ∧
    ∃ now : Instant, server.now? = some now ∧ code.isUsable now = true

/-- Nothing but the code has changed, and nothing in it but its uses: it can
be used, and was used once. -/
structure ChangesCode (text : String) (server after : Server) : Prop where
  frame : after = { server with database.codes := after.database.codes }
  others : ∀ other, other ≠ text →
    after.database.codes.get? other = server.database.codes.get? other
  own : after.database.codes.get? text = server.database.codes.get? text ∨
    ∃ code used, server.CanUse text code ∧ after.database.codes.get? text =
      some (RecoverCode.form.encode { code with usesCount := code.usesCount + 1, used })

/-- The cache has a copy of the session that is alive, and the renewal of the
copy is due to be written to the row. -/
def HasDueCopy (ttl : Duration) (server : Server) (token : String) : Prop :=
  ∃ entry now renewedUntil, server.cache.peek token = some entry ∧ server.now? = some now ∧
    entry.session.isExpired now = false ∧ now.add? ttl = some renewedUntil ∧
      SessionStore.isOverdue ttl (SessionStore.renewed entry renewedUntil) = true

/-- What may become of the session of a token. -/
inductive Fate (ttl : Duration) (token : String) (server after : Server) : Prop
  /-- It is as it was. -/
  | kept (hrow : after.database.sessions.get? token = server.database.sessions.get? token)
      (hentry : after.cache.peek token = server.cache.peek token)
  /-- It lasts longer, in the cache and perhaps in its row. -/
  | renewed {session : Session} {expiry persistedUntil : Timestamp}
      (hfound : server.session? token = some session) (hlater : session.expiresAt ≤ expiry)
      (hentry : after.cache.peek token = some ⟨session.lastingTo expiry, persistedUntil⟩)
      (hrow : after.database.sessions.get? token = server.database.sessions.get? token ∨
        (server.database.sessions.get? token).isSome ∧
          after.database.sessions.get? token =
            some (Session.form.encode (session.lastingTo expiry)))
  /-- It is removed, as it is expired. -/
  | removed {session : Session} {now : Instant} (hfound : server.session? token = some session)
      (hnow : server.now? = some now) (hexpired : session.isExpired now = true)
      (hentry : after.cache.peek token = none)
      (hrow : after.database.sessions.get? token = none ∨
        after.database.sessions.get? token = server.database.sessions.get? token)
  /-- The cache drops its live copy, as there is no row to which the renewal
  could be written. -/
  | dropped (hdue : server.HasDueCopy ttl token)
      (hnone : server.database.sessions.get? token = none)
      (hrow : after.database.sessions.get? token = none)
      (hentry : after.cache.peek token = none)

/-- Nothing but the session has changed, and which other ones are in the
cache. -/
structure ChangesSession (ttl : Duration) (token : String) (server after : Server) : Prop where
  frame : after =
    { server with database.sessions := after.database.sessions, cache := after.cache }
  rows : ∀ other, other ≠ token →
    after.database.sessions.get? other = server.database.sessions.get? other
  entries : ∀ other, other ≠ token →
    after.cache.peek other = none ∨ after.cache.peek other = server.cache.peek other
  capacity : after.cache.capacity = server.cache.capacity
  own : Fate ttl token server after

/-- Nothing has changed but what the credential selects. -/
def ChangesAtMost (server : Server) (ttl : Duration) (raw : String) (after : Server) : Prop :=
  match CredentialKind.of raw with
  | .code | .cli => ChangesCode raw server after
  | .connector => after = server
  | .bearer => ChangesSession ttl raw server after

variable {ttl : Duration} {server after : Server} {token raw : String}

theorem ChangesCode.refl (text : String) (server : Server) : ChangesCode text server server :=
  ⟨rfl, fun _ _ => rfl, .inl rfl⟩

theorem ChangesSession.refl (token : String) (server : Server) :
    ChangesSession ttl token server server :=
  ⟨rfl, fun _ _ => rfl, fun _ _ => .inr rfl, rfl, .kept rfl rfl⟩

theorem ChangesAtMost.refl (server : Server) (raw : String) :
    ChangesAtMost server ttl raw server := by
  unfold ChangesAtMost
  cases CredentialKind.of raw
  case bearer => exact .refl raw server
  case code | cli => exact .refl raw server
  case connector => rfl

theorem ChangesAtMost.idsDrawn_eq (h : ChangesAtMost server ttl raw after) :
    after.idsDrawn = server.idsDrawn := by
  unfold ChangesAtMost at h
  cases hkind : CredentialKind.of raw <;> rw [hkind] at h
  case bearer => rw [h.frame]
  case code | cli => rw [h.frame]
  case connector => rw [h]

theorem session?_congr {cache : SessionCache}
    (hsame : cache.peek token = server.cache.peek token) :
    session? { server with cache } token = server.session? token := by
  unfold session?
  rw [hsame]

/-- In what order the entries of the cache were used does not matter. -/
theorem ChangesSession.of_reordered {cache : SessionCache}
    (hsame : ∀ other, cache.peek other = server.cache.peek other)
    (hcapacity : cache.capacity = server.cache.capacity)
    (h : ChangesSession ttl token { server with cache } after) :
    ChangesSession ttl token server after where
  frame := h.frame
  rows := h.rows
  entries other hne := by
    rw [← hsame other]
    exact h.entries other hne
  capacity := h.capacity.trans hcapacity
  own := by
    have hfound := session?_congr (hsame token)
    cases h.own with
    | kept hrow hentry => exact .kept hrow (hentry.trans (hsame token))
    | renewed hsession hlater hentry hrow =>
      exact .renewed (hfound.symm.trans hsession) hlater hentry hrow
    | removed hsession hnow hexpired hentry hrow =>
      exact .removed (hfound.symm.trans hsession) hnow hexpired hentry hrow
    | dropped hdue hnone hrow hentry =>
      obtain ⟨entry, now, renewedUntil, hpeek, hlive⟩ := hdue
      exact .dropped ⟨entry, now, renewedUntil, (hsame token).symm.trans hpeek, hlive⟩ hnone hrow
        hentry

end Server

namespace SessionStore

open Gatekeeper.Flow (call take)

variable {server : Server} {token : String} {entry : CachedSession} {session : Session}

/-- A look-up that finds an expired session leaves the session as it is. -/
def LeavesExpired (token : String) (server : Server) (end? : Except Stop (Option Session))
    (after : Server) : Prop :=
  ∀ session now, end? = .ok (some session) → server.now? = some now →
    session.isExpired now = true → server.session? token = some session ∧
      after.database = server.database ∧ ∀ other, after.cache.peek other = server.cache.peek other

/-- A renewal changes the one session. -/
theorem ensures_changes_renew (ttl : Duration) (htidy : server.cache.Tidy)
    (hfound : server.session? token = some session) (htoken : session.token = token)
    {expiry persistedUntil : Timestamp} (hlater : session.expiresAt ≤ expiry) {now : Instant}
    (hnow : server.now? = some now) (hlive : (session.lastingTo expiry).isExpired now = false)
    (hdue : server.database.sessions.get? token = none →
      isOverdue ttl ⟨session.lastingTo expiry, persistedUntil⟩ = true →
        server.HasDueCopy ttl token) :
    (renew ttl token ⟨session.lastingTo expiry, persistedUntil⟩).Ensures
      (fun end? after => Server.ChangesSession ttl token server after ∧
        LeavesExpired token server end? after) server := by
  subst htoken
  -- What is given is alive.
  have hleaves (after : Server) :
      LeavesExpired session.token server (.ok (some (session.lastingTo expiry))) after := by
    rintro _ time ⟨⟩ htime hexpired
    cases hnow.symm.trans htime
    cases hlive.symm.trans hexpired
  have hput (persisted : Timestamp) := htidy.peek_put_self ⟨session.lastingTo expiry, persisted⟩
  have hothers (persisted : Timestamp) (other : String) (hne : other ≠ session.token) :=
    server.cache.peek_put_of_ne ⟨session.lastingTo expiry, persisted⟩ hne
  unfold renew
  split
  next hoverdue =>
    refine ⟨fun why => ⟨.refl _ _, by rintro _ _ ⟨⟩⟩, fun updated database hrun => ?_⟩
    simp only [Call.run] at hrun
    split at hrun
    next hcontains =>
      cases hrun
      refine ⟨⟨rfl, fun _ hne => Table.get?_write_of_ne _ _ hne, hothers _, rfl, ?_⟩, hleaves _⟩
      exact .renewed hfound hlater (hput _) (.inr ⟨hcontains, Table.get?_write_self _ _ _⟩)
    next hmissing =>
      cases hrun
      have hnone : server.database.sessions.get? session.token = none :=
        Option.not_isSome_iff_eq_none.1 hmissing
      refine ⟨⟨rfl, fun _ _ => rfl, fun other hne => ?_, rfl, ?_⟩, by rintro _ _ ⟨⟩⟩
      · exact .inr (server.cache.peek_erase_of_ne hne)
      · exact .dropped (hdue hnone hoverdue) hnone hnone (server.cache.peek_erase_self _)
  next =>
    refine ⟨⟨rfl, fun _ _ => rfl, hothers _, rfl, ?_⟩, hleaves _⟩
    exact .renewed hfound hlater (hput _) (.inl rfl)

theorem ensures_changes_present (ttl : Duration) (htidy : server.cache.Tidy)
    (hfound : server.session? token = some entry.session) (htoken : entry.session.token = token)
    (hcached : server.database.sessions.get? token = none → server.cache.peek token = some entry) :
    (present ttl token entry).Ensures
      (fun end? after => Server.ChangesSession ttl token server after ∧
        LeavesExpired token server end? after) server := by
  have hstop (why : Stop) : Server.ChangesSession ttl token server server ∧
      LeavesExpired token server (.error why) server := ⟨.refl _ _, by rintro _ _ ⟨⟩⟩
  refine ⟨fun now hnow => ?_, fun _ => hstop _⟩
  show Flow.Ensures _ (if entry.session.isExpired now = true then _ else _) server
  split
  next =>
    refine ⟨.refl _ _, ?_⟩
    rintro _ _ ⟨⟩ _ _
    exact ⟨hfound, rfl, fun _ => rfl⟩
  next hlive =>
    show Flow.Ensures _ (Flow.bind (Flow.inCalendar (now.add? ttl)) _) server
    cases hrenewal : now.add? ttl with
    | none => exact hstop _
    | some renewedUntil =>
      have hdue (hnone : server.database.sessions.get? token = none)
          (hoverdue : isOverdue ttl (renewed entry renewedUntil) = true) :
          server.HasDueCopy ttl token :=
        ⟨entry, now, renewedUntil, hcached hnone, hnow, Bool.eq_false_iff.2 hlive, hrenewal,
          hoverdue⟩
      have hrenewed : renewed entry renewedUntil =
          ⟨entry.session.lastingTo (Timestamp.later entry.session.expiresAt renewedUntil),
            entry.persistedUntil⟩ :=
        renewed_eq entry.session entry.session.expiresAt entry.persistedUntil renewedUntil
      have halive := isExpired_renewed (Bool.eq_false_iff.2 hlive) renewedUntil
      show Flow.Ensures _ (renew ttl token (renewed entry renewedUntil)) server
      rw [hrenewed] at halive hdue ⊢
      exact ensures_changes_renew ttl htidy hfound htoken (Timestamp.le_later_left _ _) hnow halive
        hdue

/-- A look-up changes the one session. -/
theorem ensures_changes_get (ttl : Duration) (htidy : server.cache.Tidy)
    (hentries : EntriesKeyed server.cache) (hrows : server.database.SessionsKeyed) :
    (get ttl token).Ensures
      (fun end? after => Server.ChangesSession ttl token server after ∧
        LeavesExpired token server end? after) server := by
  rw [get_eq]
  apply Flow.ensures_locked
  let touched : Server := { server with cache := (server.cache.get token).2 }
  have hsame (other : String) : touched.cache.peek other = server.cache.peek other :=
    server.cache.peek_get token other
  have hsession : touched.session? token = server.session? token :=
    Server.session?_congr (hsame token)
  have htouched {end? : Except Stop (Option Session)} {after : Server}
      (h : Server.ChangesSession ttl token touched after ∧ LeavesExpired token touched end? after) :
      Server.ChangesSession ttl token server after ∧ LeavesExpired token server end? after := by
    refine ⟨h.1.of_reordered hsame (server.cache.capacity_get token),
      fun session now hend hnow hexpired => ?_⟩
    obtain ⟨hfound, hdatabase, hpeek⟩ := h.2 session now hend hnow hexpired
    exact ⟨hsession ▸ hfound, hdatabase, fun other => (hpeek other).trans (hsame other)⟩
  have hpresent (entry : CachedSession) (hfound : server.session? token = some entry.session)
      (htoken : entry.session.token = token)
      (hcached : server.database.sessions.get? token = none →
        server.cache.peek token = some entry) :=
    (ensures_changes_present ttl (htidy.get token) (hsession.trans hfound) htoken
      fun hnone => (hsame token).trans (hcached hnone)).mono fun _ _ => htouched
  show Flow.Ensures _ (answer ttl token (server.cache.peek token)) touched
  cases hpeek : server.cache.peek token with
  | some entry =>
    refine hpresent entry ?_ (hentries token entry hpeek) fun _ => hpeek
    unfold Server.session?
    rw [hpeek]
  | none =>
    refine ⟨fun why => htouched ⟨.refl _ _, by rintro _ _ ⟨⟩⟩, fun found database hrun => ?_⟩
    obtain ⟨hfind, rfl⟩ := Call.lookedUp_iff.1 hrun
    cases found with
    | none => exact htouched ⟨.refl _ _, by rintro _ _ ⟨⟩⟩
    | some session =>
      obtain ⟨row, hrow, hdecode⟩ := Table.row_of_find hfind
      refine hpresent (.persisted session) ?_ (hrows token row session hrow hdecode)
        fun hnone => by cases hnone.symm.trans hrow
      unfold Server.session?
      rw [hpeek]
      show (server.database.sessions.find Session.form token).toOption.join = some session
      rw [show server.database.sessions.find Session.form token = .ok (some session) from hfind]
      rfl

/-- An expired session that was looked up is removed. -/
theorem ensures_changes_remove {ttl : Duration} {touched : Server} {now : Instant}
    (hchanges : Server.ChangesSession ttl token server touched)
    (hdatabase : touched.database = server.database)
    (hfound : server.session? token = some session) (hnow : server.now? = some now)
    (hexpired : session.isExpired now = true) :
    (remove token).Ensures
      (fun _ after => Server.ChangesSession ttl token server after) touched := by
  apply Flow.ensures_locked
  have hremoved (sessions : Table)
      (hrows : ∀ other, other ≠ token → sessions.get? other = server.database.sessions.get? other)
      (hrow : sessions.get? token = none ∨
        sessions.get? token = server.database.sessions.get? token) :
      Server.ChangesSession ttl token server { touched with
        database := { touched.database with sessions }, cache := touched.cache.erase token } := by
    refine ⟨?_, hrows, fun other hne => ?_, hchanges.capacity, ?_⟩
    · rw [hchanges.frame]
    · show (touched.cache.erase token).peek other = none ∨ _
      rw [SessionCache.peek_erase_of_ne _ hne]
      exact hchanges.entries other hne
    · exact .removed hfound hnow hexpired (SessionCache.peek_erase_self _ _) hrow
  -- If the deletion fails, the row stays.
  refine ⟨fun why => ?_, fun deleted database hrun => ?_⟩
  · exact hremoved touched.database.sessions (fun _ _ => by rw [hdatabase])
      (.inr (by rw [hdatabase]))
  · cases hrun
    refine hremoved _ (fun other hne => ?_) (.inl (SortedMap.get?_erase_self _ _))
    rw [SortedMap.get?_erase_of_ne _ hne, hdatabase]

end SessionStore

namespace Credential

variable {server : Server} {raw : String}

/-- The resolution of a session token changes the one session. -/
theorem ensures_changes_resolveBearer (ttl : Duration) (htidy : server.cache.Tidy)
    (hentries : EntriesKeyed server.cache) (hrows : server.database.SessionsKeyed) :
    (resolveBearer ttl raw).Ensures (fun _ after => Server.ChangesSession ttl raw server after)
      server := by
  refine (Flow.ensures_bind _ _ _).2
    ((SessionStore.ensures_changes_get ttl htidy hentries hrows).mono
    ?_)
  rintro (why | found) touched ⟨hchanges, hleaves⟩
  · exact hchanges
  cases found with
  | none => exact hchanges
  | some session =>
    refine ⟨fun now hnow => ?_, fun _ => hchanges⟩
    show Flow.Ensures _ (if session.isExpired now = true then _ else _) touched
    split
    next hexpired =>
      -- The clock shows what it showed before the look-up.
      rw [hchanges.frame] at hnow
      obtain ⟨hfound, hdatabase, -⟩ := hleaves session now rfl hnow hexpired
      refine (Flow.ensures_bind _ _ _).2 ((SessionStore.ensures_changes_remove hchanges hdatabase
        hfound hnow hexpired).mono ?_)
      rintro (why | removed) after hafter <;> exact hafter
    next => exact hchanges

/-- The resolution of a code changes how often it was used. -/
theorem ensures_changes_resolveCode (maxUses : UInt32) :
    (resolveCode maxUses raw).Ensures (fun _ after => Server.ChangesCode raw server after)
      server := by
  have hsame := Server.ChangesCode.refl raw server
  refine ⟨fun now hnow => ⟨fun _ => hsame, fun use database hrun => ?_⟩, fun _ => hsame⟩
  have hused : Server.ChangesCode raw server { server with database } := by
    rcases Call.of_run_consumeCode hrun with
      ⟨code, used, hfind, hkind, husable, huse, -, rfl⟩ | ⟨-, rfl⟩
    · refine ⟨rfl, fun _ hne => Table.get?_write_of_ne _ _ hne,
        .inr ⟨code, used.used, ⟨hfind, hkind, now, hnow, husable⟩, ?_⟩⟩
      rw [(RecoverCode.recordUse?_eq_some_iff.1 huse).2]
      exact Table.get?_write_self _ _ _
    · exact hsame
  cases use with
  | rejected | notFound => exact hused
  | consumed code =>
    refine ⟨fun _ => hused, fun owner? database' hrun' => ?_⟩
    cases Call.eq_of_run_reading rfl hrun'
    cases owner? with
    | none => exact hused
    | some owner =>
      refine ⟨fun _ => hused, fun workspace? database' hrun' => ?_⟩
      cases Call.eq_of_run_reading rfl hrun'
      exact hused

/-- The resolution of a connector credential changes nothing. -/
theorem ensures_changes_resolveConnector :
    (resolveConnector raw).Ensures (fun _ after => after = server) server := by
  show Flow.Ensures _ (if connectorSession raw = "" then _ else _) server
  split
  · rfl
  refine ⟨fun _ => rfl, fun dapp? database hrun => ?_⟩
  cases Call.eq_of_run_reading rfl hrun
  cases dapp? with
  | none => rfl
  | some dapp =>
    refine ⟨fun _ => rfl, fun user? database hrun => ?_⟩
    cases Call.eq_of_run_reading rfl hrun
    cases user? <;> rfl

end Credential

/-! ### Every course is orderly -/

/-- The cache is tidy, and each session stands under its own token. -/
structure Server.Orderly (server : Server) : Prop where
  tidy : server.cache.Tidy
  entries : EntriesKeyed server.cache
  rows : server.database.SessionsKeyed

namespace Server.Orderly

variable {server : Server} {α : Type}

/-- Every step keeps a server orderly. -/
theorem step (h : server.Orderly) (s : Step) :
    s.Ensures server (fun _ after => after.Orderly) fun _ => True := by
  have htidy : s.Ensures server (fun _ after => after.cache.Tidy) fun _ => True := by
    cases s with
    | call => exact ⟨fun _ => trivial, fun _ _ _ => h.tidy⟩
    | readClock => exact ⟨fun _ _ => h.tidy, fun _ => trivial⟩
    | lookUp token => exact h.tidy.get token
    | remember entry => exact h.tidy.put entry
    | forget token => exact h.tidy.erase token
    | peek | listStale | drawId | lock | unlock => exact h.tidy
  have hentries := @SessionStore.ensures_entriesKeyed s server h.entries
  have hrows := @SessionStore.ensures_rowsKeyed s server h.rows
  exact (htidy.and (hentries.and hrows)).mono
    (fun _ _ ⟨htidy, hentries, hrows⟩ => ⟨htidy, hentries, hrows⟩) fun _ _ => trivial

/-- Every operation does. -/
theorem perform (h : server.Orderly) {weather : Weather} (hclear : weather.Clear)
    (limit : Option Nat) (flow : Flow α) : (server.perform weather limit flow).2.Orderly := by
  have hrun (progress : Progress) : (flow.run weather limit progress server).2.Orderly := by
    induction flow generalizing progress server with
    | done | stop => exact h
    | step s next failed ih ihfailed =>
      unfold Flow.run
      split
      next hstep => exact ih _ ((h.step s).answered hclear hstep) _
      next => exact ihfailed _ h _
      next => exact h
  have hend := hrun {}
  unfold Server.perform
  split
  next heq =>
    rw [heq] at hend
    exact hend
  next heq =>
    rw [heq] at hend
    exact ⟨hend.tidy, hend.entries, hend.rows⟩

end Server.Orderly

/-- Whatever happens in a course, the server stays orderly. -/
theorem Course.orderly_next {course : Course} (h : course.server.Orderly) (turn : Turn) :
    (course.next turn).server.Orderly := by
  cases turn with
  | operate service operation conditions =>
    show (course.operate service operation conditions).server.Orderly
    rw [server_operate]
    exact h.perform conditions.clear _ _
  | sweepRound conditions retention =>
    exact Server.sweepRound_snd (h.perform conditions.clear none sweepNow) fun _ hswept =>
      hswept.perform conditions.clear none (CodeStore.purge retention)
  | sweep time conditions => exact h.perform conditions.clear _ _
  | purge retention conditions => exact h.perform conditions.clear _ _
  | putUser | putWorkspace | putResource | putDapp | setClock => exact ⟨h.tidy, h.entries, h.rows⟩
  | restart capacity =>
    exact ⟨SessionCache.tidy_ofCapacity capacity, SessionStore.entriesKeyed_ofCapacity capacity,
      h.rows⟩

theorem Course.orderly_ofTurns (capacity : Nat) (clock : Int) (turns : List Turn) :
    (ofTurns capacity clock turns).server.Orderly := by
  refine List.foldlRecOn (motive := fun course : Course => course.server.Orderly) turns next ?_
    fun _ h turn _ => orderly_next h turn
  exact ⟨SessionCache.tidy_ofCapacity capacity, SessionStore.entriesKeyed_ofCapacity capacity,
    by rintro _ _ _ ⟨⟩⟩

/-! ### Credentials of one kind do not reach the others -/

/-- What holds of every state that an operation can end in holds of the one
that it is performed to, if the operation draws no ids. -/
theorem Flow.Ensures.perform_snd {α : Type} {p : Server → Prop} {flow : Flow α} {server : Server}
    (h : flow.Ensures (fun _ after => p after) server) (hfail : flow.FailStop)
    (hids : ∀ after, p after → after.idsDrawn = server.idsDrawn) (conditions : Conditions) :
    p (conditions.perform flow server).2 := by
  -- Ids are given back when an operation stops, but there are none to give.
  have hrestored : flow.Ensures (fun end? after =>
      p { after with idsDrawn := server.idsDrawn } ∧
        ∀ a, end? = .ok a → after.idsDrawn = server.idsDrawn) server := by
    refine h.mono fun _ after hp => ⟨?_, fun _ _ => hids after hp⟩
    rw [← hids after hp]
    exact hp
  have hperform := hrestored.perform hfail
    (fun _ _ _ hstopped => ⟨hstopped.1, fun _ hend => by cases hend⟩) conditions.clear
    conditions.limit
  have hsame : (conditions.perform flow server).2.idsDrawn = server.idsDrawn := by
    cases hend : (conditions.perform flow server).1 with
    | ok a => exact hperform.2 a hend
    | error why => exact Server.idsDrawn_of_stopped (Prod.ext hend rfl)
  have hp := hperform.1
  rw [← hsame] at hp
  exact hp

namespace Service

/-- Whatever the weather, nothing changes but what the credential selects. -/
theorem ensures_changes_authenticate (service : Service) (raw : String) (context : RequestContext)
    {server : Server} (horderly : server.Orderly) :
    (service.authenticate raw context).Ensures
      (fun _ after => server.ChangesAtMost service.sessionTtl raw after) server := by
  show Flow.Ensures _ (if Text.isBlankText raw = true then _ else _) server
  split
  · exact .refl server raw
  unfold Server.ChangesAtMost
  cases CredentialKind.of raw with
  | bearer =>
    exact Credential.ensures_changes_resolveBearer _ horderly.tidy horderly.entries horderly.rows
  | code => exact Credential.ensures_changes_resolveCode _
  | cli =>
    refine (Flow.ensures_bind _ _ _).2 ((Credential.ensures_changes_resolveCode _).mono ?_)
    rintro (why | identity) after hchanges
    · exact hchanges
    · show Flow.Ensures (fun _ after => Server.ChangesCode raw server after)
        (if _ then _ else _) after
      split <;> exact hchanges
  | connector => exact Credential.ensures_changes_resolveConnector

/-- Two services that look up, count and route alike resolve a credential
alike in two states that agree on what it selects, if no call fails or
takes too long. And nothing changes but what it selects. -/
theorem authenticate_apart (service service' : Service) (raw : String) (context : RequestContext)
    (server server' : Server) (conditions conditions' : Conditions)
    (httl : service.sessionTtl = service'.sessionTtl) (huses : service.maxUses = service'.maxUses)
    (hroutes : service.routes = service'.routes) (hclock : server.clock = server'.clock)
    (horderly : server.Orderly) (hagrees : server.Agrees raw server')
    (hspares : conditions.weather.Spares conditions.limit {}
      ((service.authenticate raw context).calls server))
    (hspares' : conditions'.weather.Spares conditions'.limit {}
      ((service'.authenticate raw context).calls server')) :
    (conditions.perform (service.authenticate raw context) server).1 =
        (conditions'.perform (service'.authenticate raw context) server').1 ∧
      server.ChangesAtMost service.sessionTtl raw
        (conditions.perform (service.authenticate raw context) server).2 := by
  have hservice : service'.authenticate raw context = service.authenticate raw context := by
    unfold authenticate
    rw [httl, huses, hroutes]
  constructor
  · unfold Conditions.perform
    rw [Server.perform_fst, Server.perform_fst, Flow.outcome_of_spares hspares,
      Flow.outcome_of_spares hspares', hservice]
    exact (alike_authenticate service context hclock hagrees horderly.entries
      horderly.rows).undisturbed (service.failStop_authenticate raw context)
  · exact (ensures_changes_authenticate service raw context horderly).perform_snd
      (service.failStop_authenticate raw context)
      (fun _ hchanges => hchanges.idsDrawn_eq) conditions

/-- A server that knows Ann and her dapp. -/
def annsServer : Server :=
  (Course.ofTurns 1 0 [.putUser Connector.ann, .putDapp Connector.annsDapp]).server

/-- The same server, but with a session whose token reads as the connector
credential of the dapp. -/
def namesakeServer : Server :=
  { annsServer with database.sessions :=
      annsServer.database.sessions.write Session.form "connectors" default }

/-- The session does not get in the way of the connector credential. -/
theorem authenticate_apart_of_namesake :
    (Conditions.fair.perform (authenticate (.ofSettings {} none) "connectors" default)
        annsServer).1 =
      (Conditions.fair.perform (authenticate (.ofSettings {} none) "connectors" default)
        namesakeServer).1 ∧
    annsServer.ChangesAtMost (Service.ofSettings {} none).sessionTtl "connectors"
      (Conditions.fair.perform (authenticate (.ofSettings {} none) "connectors" default)
        annsServer).2 := by
  have hagrees (server : Server) (sessions : Table) :
      server.Agrees "connectors" { server with database.sessions := sessions } := by
    unfold Server.Agrees
    rw [show CredentialKind.of "connectors" = .connector by decide]
    exact ⟨rfl, fun _ _ => rfl⟩
  have hapart (server other : Server) (hclock : server.clock = other.clock)
      (horderly : server.Orderly) (hagrees : server.Agrees "connectors" other) :=
    authenticate_apart (.ofSettings {} none) (.ofSettings {} none) "connectors" default server other
      .fair .fair rfl rfl rfl hclock horderly hagrees (Flow.spares_fair _ _) (Flow.spares_fair _ _)
  exact hapart annsServer namesakeServer rfl (Course.orderly_ofTurns _ _ _) (hagrees _ _)

/-- A session that expires ten seconds into 1970. -/
def briefSession : Session :=
  { (default : Session) with token := "t", expiresAt := (⟨10000000000, by decide⟩ : Instant) }

/-- A server that has the session in its cache, beside a table. -/
def briefServer (sessions : Table) : Server :=
  ⟨{ sessions }, (SessionCache.ofCapacity 1).put (.persisted briefSession), 0, 0⟩

theorem orderly_briefServer {sessions : Table} (hrows : { sessions : Database }.SessionsKeyed) :
    (briefServer sessions).Orderly where
  tidy := (SessionCache.tidy_ofCapacity 1).put _
  entries := @SessionStore.ensures_entriesKeyed (.remember (.persisted briefSession))
    ⟨{ sessions }, .ofCapacity 1, 0, 0⟩ (SessionStore.entriesKeyed_ofCapacity 1)
  rows := hrows

/-- Another session of the same token. -/
def rivalSession : Session := { briefSession with id := "rival" }

/-- A table that has the other session. -/
def rivalTable : Table := ({} : Database).sessions.write Session.form "t" rivalSession

/-- The session in the cache is alive, and its renewal has to be written. If
there is no row to write it to, the cache drops it. If there is the row of
another session, it takes its place. -/
theorem live_copy_dropped_or_written :
    CredentialKind.of "t" = .bearer ∧ briefSession.isExpired Instant.epoch = false ∧
      ((briefServer .empty).Orderly ∧ (briefServer .empty).now? = some .epoch ∧
        (briefServer .empty).session? "t" = some briefSession ∧
        (Conditions.fair.perform (authenticate (.ofSettings {} none) "t" default)
          (briefServer .empty)).2.session? "t" = none) ∧
      (briefServer rivalTable).Orderly ∧ rivalSession.id ≠ briefSession.id ∧
        (briefServer rivalTable).database.sessions.get? "t" =
          some (Session.form.encode rivalSession) ∧
        ∃ expiry, (Conditions.fair.perform (authenticate (.ofSettings {} none) "t" default)
          (briefServer rivalTable)).2.database.sessions.get? "t" =
            some (Session.form.encode (briefSession.lastingTo expiry)) := by
  have hempty : ({} : Database).SessionsKeyed := by rintro _ _ _ ⟨⟩
  have hwritten : (Call.upsertSession rivalSession).run {} = .ok ((), { sessions := rivalTable }) :=
    rfl
  have hrival : { sessions := rivalTable : Database }.SessionsKeyed :=
    Call.keyed_of_run hwritten hempty
  refine ⟨by decide, by decide, ⟨orderly_briefServer hempty, rfl, rfl, rfl⟩,
    orderly_briefServer hrival, by decide, Table.get?_write_self _ _ _, ?_⟩
  exact ⟨_, rfl⟩

end Service

end Gatekeeper

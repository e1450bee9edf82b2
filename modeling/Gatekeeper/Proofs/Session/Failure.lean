import Gatekeeper.Proofs.Session.Guard
import Gatekeeper.Proofs.Session.Sweep

/-!
# `Gatekeeper.Proofs.Session.Failure`: what a failed operation leaves

`view` is what a look-up would see of a token right now: its session, if it
is alive, with the expiry that the look-up gives it. It depends on the
session that the token holds and on nothing else (`view_of_holds`).

A call that fails stops an operation halfway. `Request.FailsTo` says what
is left then. An addition and a look-up touch the cache only when they have
written the row, so nothing has changed, and a sweep is halted without harm.
A removal takes the entry out before it deletes the row. If the deletion
fails, the token holds what its row says, and the row may be behind.

`failure_seen_iff` is the main result: a failure changes the view of a
token if and only if it is a removal that loses a renewal, as in
`renewal_forgotten`.
-/

set_option autoImplicit false

namespace Gatekeeper.SessionStore

open Timestamp (later)

variable {ttl : Duration} {token : String} {server after : Server} {entry : CachedSession}
  {now : Instant} {session : Session}

/-! ### What a look-up would see -/

/-- The session that a look-up of the token would find alive now if nothing
was disturbed. -/
def view (ttl : Duration) (token : String) (now : Instant) (server : Server) :
    Except Stop (Option Session) :=
  (server.perform .fair none (get ttl token)).1.map fun found =>
    found.filter fun session => !session.isExpired now

/-- What is seen of a session: nothing if it is expired, and else the
session with the full span from now on. -/
def visible (ttl : Duration) (now : Instant) (session : Session) : Except Stop (Option Session) :=
  if session.isExpired now then .ok none
  else match now.add? ttl with
    | some renewedUntil => .ok (some (session.lastingTo (later session.expiresAt renewedUntil)))
    | none => .error (.overflow .time)

theorem visible_of_expired (ttl : Duration) (hexpired : session.isExpired now = true) :
    visible ttl now session = .ok none := if_pos hexpired

theorem visible_of_live {renewedUntil : Instant} (hlive : session.isExpired now = false)
    (hadd : now.add? ttl = some renewedUntil) : visible ttl now session =
      .ok (some (session.lastingTo (later session.expiresAt renewedUntil))) := by
  simp [visible, hlive, hadd]

/-- What is seen of an entry is what is seen of its session. -/
theorem map_presented (ttl : Duration) (now : Instant) (entry : CachedSession) :
    (presented ttl now entry).map
        (fun found => found.filter fun session => !session.isExpired now) =
      visible ttl now entry.session := by
  unfold presented visible
  cases hexpired : entry.session.isExpired now with
  | true => simp [Except.map, Option.filter, hexpired]
  | false =>
    cases hadd : now.add? ttl with
    | none => rfl
    | some renewedUntil =>
      have hlive := isExpired_renewed hexpired renewedUntil
      have hsession : (renewed entry renewedUntil).session =
          entry.session.lastingTo (later entry.session.expiresAt renewedUntil) :=
        congrArg CachedSession.session
          (renewed_eq entry.session entry.session.expiresAt entry.persistedUntil renewedUntil)
      simp [Except.map, Option.filter, hlive, ← hsession]

/-- A token that holds a session has an entry or a row for it. -/
theorem Coherent.finds_of_holds (h : Coherent ttl server) (hholds : Holds token server session) :
    ∃ entry, Finds token server entry ∧ entry.session = session := by
  cases hholds with
  | cached hpeek => exact ⟨_, .cached hpeek, rfl⟩
  | stored hpeek hrow =>
    rcases h.finds_or_absent token with ⟨entry, hfinds⟩ | hnone
    · cases hfinds with
      | cached hpeek' => cases hpeek.symm.trans hpeek'
      | stored _ hstored =>
        exact ⟨_, .stored hpeek hstored, hrow.unique ⟨_, hstored, Session.decode_encode _⟩⟩
    · obtain ⟨row, hsome, -⟩ := hrow
      cases hnone.symm.trans hsome

/-- The session that the token holds is seen. -/
theorem view_of_holds (httl : 0 ≤ ttl) (h : Coherent ttl server) (hnow : server.now? = some now)
    (hholds : Holds token server session) :
    view ttl token now server = visible ttl now session := by
  obtain ⟨entry, hfinds, rfl⟩ := h.finds_of_holds hholds
  obtain ⟨hrow, htoken, -⟩ := h.of_finds httl hfinds
  obtain ⟨_, hget, -⟩ := undisturbed_get ttl hnow hfinds (htoken ▸ hrow)
  unfold view
  rw [Flow.perform_fst_of_spares (Flow.spares_fair _ _), hget, map_presented]

/-- Nothing is seen of a token that holds no live session. -/
theorem view_of_not_live (httl : 0 ≤ ttl) (h : Coherent ttl server) (hnow : server.now? = some now)
    (hdead : ∀ session, Holds token server session → session.isExpired now = true) :
    view ttl token now server = .ok none := by
  rcases h.finds_or_absent token with ⟨entry, hfinds⟩ | hnone
  · have hholds : Holds token server entry.session := by
      cases hfinds with
      | cached hpeek => exact .cached hpeek
      | stored hpeek hrow => exact .stored hpeek ⟨_, hrow, Session.decode_encode _⟩
    rw [view_of_holds httl h hnow hholds, visible_of_expired ttl (hdead _ hholds)]
  · unfold view
    rw [Flow.perform_fst_of_spares (Flow.spares_fair _ _), undisturbed_get_none h hnone]
    rfl

/-- A token that holds the same live session as before is seen as before. -/
theorem view_congr (httl : 0 ≤ ttl) (h : Coherent ttl server) (hafter : Coherent ttl after)
    (hnow : server.now? = some now) (hclock : after.clock = server.clock)
    (hholds : ∀ session, session.isExpired now = false →
      (Holds token after session ↔ Holds token server session)) :
    view ttl token now after = view ttl token now server := by
  have hnow' : after.now? = some now := by
    unfold Server.now? at hnow ⊢
    rw [hclock, hnow]
  by_cases hlive : ∃ session, Holds token server session ∧ session.isExpired now = false
  · obtain ⟨session, hheld, hlive⟩ := hlive
    rw [view_of_holds httl h hnow hheld,
      view_of_holds httl hafter hnow' ((hholds session hlive).2 hheld)]
  · have hdead (session : Session) (hheld : Holds token server session) :
        session.isExpired now = true :=
      Bool.not_eq_false _ ▸ fun hexpired => hlive ⟨session, hheld, hexpired⟩
    rw [view_of_not_live httl h hnow hdead, view_of_not_live httl hafter hnow']
    intro session hheld
    cases hexpired : session.isExpired now with
    | true => rfl
    | false => exact hexpired.symm.trans (hdead session ((hholds session hexpired).1 hheld))

/-! ### What a failure leaves -/

/-- The table and the cache say the same of each token. -/
structure SameSessions (server after : Server) : Prop where
  rows : ∀ token,
    after.database.sessions.get? token = server.database.sessions.get? token
  entries : ∀ token, after.cache.peek token = server.cache.peek token

theorem SameSessions.refl (server : Server) : SameSessions server server :=
  ⟨fun _ => rfl, fun _ => rfl⟩

/-- What a request leaves when it fails. Only a removal has changed the
cache by then. -/
def Request.FailsTo (server after : Server) : Request → Prop
  | .add _ | .get _ => SameSessions server after
  | .remove token => SameSessions { server with cache := server.cache.erase token } after
  | .sweep time => Halted time server after

/-- Ids that are given back make no difference. -/
theorem Request.FailsTo.withIds {request : Request} (h : request.FailsTo server after)
    (idsDrawn : Nat) : request.FailsTo server { after with idsDrawn } := by
  cases request with
  | add | get | remove => exact ⟨h.rows, h.entries⟩
  | sweep => exact Halted.withIds h idsDrawn

/-- A look-up that fails has made its token the most recently used, at
most. -/
theorem ensures_failed_get (ttl : Duration) (token : String) (server : Server) :
    (get ttl token).Ensures (fun end? after => ∀ why, end? = .error why → SameSessions server after)
      server := by
  rw [get_eq]
  apply Flow.ensures_locked
  let touched : Server := { server with cache := (server.cache.get token).2 }
  have htouched : SameSessions server touched :=
    ⟨fun _ => rfl, fun other => SessionCache.peek_get _ _ _⟩
  have hpresent (entry : CachedSession) : (present ttl token entry).Ensures
      (fun end? after => ∀ why, end? = .error why → SameSessions server after) touched := by
    show (∀ now, server.now? = some now → _) ∧ (server.now? = none → _)
    refine ⟨fun now _ => ?_, fun _ _ _ => htouched⟩
    show Flow.Ensures _ (if entry.session.isExpired now = true then _ else _) touched
    split
    · exact nofun
    show Flow.Ensures _ ((Flow.inCalendar (now.add? ttl)).bind _) touched
    cases now.add? ttl with
    | none => exact fun _ _ => htouched
    | some renewedUntil =>
      show Flow.Ensures _ (renew ttl token (renewed entry renewedUntil)) touched
      unfold renew
      split
      · -- After the row is written, nothing can fail.
        refine ⟨fun _ _ _ => htouched, ?_⟩
        rintro (_ | _) database _ <;> exact nofun
      · exact nofun
  show Flow.Ensures _ (answer ttl token (server.cache.peek token)) touched
  cases server.cache.peek token with
  | some entry => exact hpresent entry
  | none =>
    refine ⟨fun _ _ _ => htouched, ?_⟩
    intro found database hrun
    cases Call.eq_of_run_reading rfl hrun
    cases found with
    | none => exact nofun
    | some session => exact hpresent _

/-- What a request leaves when it fails. -/
theorem Request.ensures_failsTo (httl : 0 ≤ ttl) (h : Coherent ttl server) (request : Request) :
    (request.flow ttl).Ensures
      (fun end? after => ∀ why, end? = .error why → request.FailsTo server after) server := by
  cases request with
  | add session =>
    refine .map (fun _ => Reply.added) (Flow.ensures_locked ?_)
    exact ⟨fun _ _ _ => .refl server, fun _ _ _ => nofun⟩
  | get token =>
    refine .map Reply.found ((ensures_failed_get ttl token server).mono ?_)
    intro end? after hfailed why hend
    cases end? with
    | ok found => cases hend
    | error why => exact hfailed why rfl
  | remove token =>
    -- The entry is taken out before the deletion fails.
    refine .map Reply.removed (Flow.ensures_locked ?_)
    exact ⟨fun _ _ _ => .refl _, fun _ _ _ => nofun⟩
  | sweep time =>
    refine .map Reply.swept ((ensures_sweep_exact (h.consistent httl) time).mono ?_)
    intro end? after hswept why hend
    cases end? with
    | ok report => cases hend
    | error why => exact hswept

/-- A request leaves the server coherent, whether it fails or not. -/
theorem Request.ensures_coherent (httl : 0 ≤ ttl) (h : Coherent ttl server) (request : Request) :
    (request.flow ttl).Ensures (fun _ after => Coherent ttl after) server := by
  cases request with
  | add session =>
    exact .map _ ((observes_add httl h session).ensures.mono fun _ _ hpost => hpost.2)
  | get token =>
    exact .map _ ((observes_get httl h token).ensures.mono fun _ _ hpost => hpost.coherent)
  | remove token => exact .map _ ((observes_remove h token).ensures.mono fun _ _ hpost => hpost.2)
  | sweep time =>
    exact .map _ ((observes_sweep httl h time).ensures.mono fun _ _ hpost => hpost.2.1)

/-! ### Which failures are seen -/

/-- The renewal of an entry that its row does not have counts now: the entry
is alive, and the row is expired, or the entry lives for longer than the
full span from now on. -/
def RenewalCounts (ttl : Duration) (now : Instant) (entry : CachedSession) : Prop :=
  entry.session.isExpired now = false ∧
    (entry.persistedUntil ≤ (now : Timestamp) ∨
      ∃ renewedUntil, now.add? ttl = some renewedUntil ∧
        (renewedUntil : Timestamp) < entry.session.expiresAt ∧
        entry.persistedUntil < entry.session.expiresAt)

/-- The row is seen as the entry is, unless the renewal counts. -/
theorem visible_onDisk_eq_iff (hle : entry.persistedUntil ≤ entry.session.expiresAt) :
    visible ttl now entry.onDisk = visible ttl now entry.session ↔
      ¬ RenewalCounts ttl now entry := by
  have hrow : entry.onDisk.isExpired now = decide (entry.persistedUntil ≤ (now : Timestamp)) := rfl
  unfold visible RenewalCounts
  cases hexpired : entry.session.isExpired now with
  | true =>
    have hpersisted := Timestamp.le_trans hle (of_decide_eq_true hexpired)
    simp [hrow, hpersisted]
  | false =>
    by_cases hpersisted : entry.persistedUntil ≤ (now : Timestamp)
    · cases now.add? ttl <;> simp [hrow, hpersisted]
    · cases hadd : now.add? ttl with
      | none => simp [hrow, hpersisted]
      | some renewedUntil =>
        have hsame : entry.onDisk.lastingTo (later entry.onDisk.expiresAt renewedUntil) =
              entry.session.lastingTo (later entry.session.expiresAt renewedUntil) ↔
            later entry.persistedUntil renewedUntil = later entry.session.expiresAt renewedUntil :=
          ⟨congrArg Session.expiresAt, congrArg entry.session.lastingTo⟩
        simp [hrow, hpersisted, hsame, Timestamp.later_eq_later_iff hle]

/-- Where the table and the cache say the same, the same is seen. -/
theorem view_of_sameSessions (httl : 0 ≤ ttl) (h : Coherent ttl server)
    (hafter : Coherent ttl after) (hnow : server.now? = some now)
    (hclock : after.clock = server.clock) (hsame : SameSessions server after) :
    view ttl token now after = view ttl token now server :=
  view_congr httl h hafter hnow hclock fun _ _ =>
    holds_congr (hsame.rows token) (hsame.entries token)

/-- Without its entry, a token is seen by its row. -/
theorem view_erase_of_cached (httl : 0 ≤ ttl) (h : Coherent ttl server)
    (hnow : server.now? = some now) (hpeek : server.cache.peek token = some entry) :
    view ttl token now { server with cache := server.cache.erase token } =
      visible ttl now entry.onDisk := by
  obtain ⟨hrow, -, -⟩ := h.of_finds httl (.cached hpeek)
  exact view_of_holds httl (h.erase token) hnow
    (.stored (server.cache.peek_erase_self token) ⟨_, hrow, Session.decode_encode _⟩)

/-- It is seen that an entry was taken out if it had a renewal that
counts. -/
theorem view_erase_ne_iff (httl : 0 ≤ ttl) (h : Coherent ttl server) (hnow : server.now? = some now)
    (removed : String) :
    view ttl token now { server with cache := server.cache.erase removed } ≠
        view ttl token now server ↔
      removed = token ∧ ∃ entry, server.cache.peek token = some entry ∧
        RenewalCounts ttl now entry := by
  have hunseen (hpeek : (server.cache.erase removed).peek token = server.cache.peek token) :
      view ttl token now { server with cache := server.cache.erase removed } =
        view ttl token now server :=
    view_congr httl h (h.erase removed) hnow rfl fun _ _ => holds_congr rfl hpeek
  by_cases hremoved : removed = token
  · subst hremoved
    cases hpeek : server.cache.peek removed with
    | none => simp [hunseen, hpeek]
    | some entry =>
      obtain ⟨-, -, hahead⟩ := h.of_finds httl (.cached hpeek)
      rw [view_of_holds httl h hnow (.cached hpeek), view_erase_of_cached httl h hnow hpeek, Ne,
        visible_onDisk_eq_iff hahead.persisted_le, Classical.not_not]
      simp
  · have hpeek := server.cache.peek_erase_of_ne (Ne.symm hremoved)
    simp [hremoved, hunseen hpeek]

/-- Whatever happened to the store, a request that fails changes what a
look-up sees of a token right after if and only if it is a removal of the
token, and the cache had a renewal of it that counts and that the row does
not have. What is seen then is the row. -/
theorem failure_seen_iff (ttl : Nat) (database : Database) (capacity : Nat) (clock : Int)
    (past : List Incident) (request : Request) (failures : Nat → Option String) (token : String)
    (now : Instant) (why : Stop) :
    let server := afterIncidents ttl (Life.start database capacity clock).server past
    let failed := server.perform (.failing failures) none (request.flow ttl)
    server.now? = some now → (∀ time, request = .sweep time → time = now) →
    failed.1 = .error why →
    (view ttl token now failed.2 ≠ view ttl token now server ↔ request = .remove token ∧
      ∃ entry, server.cache.peek token = some entry ∧ RenewalCounts ttl now entry) ∧
    (request = .remove token → ∀ entry, server.cache.peek token = some entry →
      view ttl token now failed.2 = visible ttl now entry.onDisk) := by
  intro server failed hnow hcurrent hfailed
  have httl : (0 : Duration) ≤ ttl := Int.natCast_nonneg ttl
  have hclear := Weather.clear_failing failures
  have h : Coherent ttl server :=
    coherent_afterIncidents httl past (coherent_start ttl database capacity clock)
  have hafter : Coherent ttl failed.2 := (request.ensures_coherent httl h).perform
    (request.failStop ttl) (fun _ _ ids hcoherent => hcoherent.withIds ids) hclear none
  have hclock : failed.2.clock = server.clock := Server.clock_perform _ _ _ _
  have hleft : request.FailsTo server failed.2 := (request.ensures_failsTo httl h).perform
    (request.failStop ttl)
    (fun why _ ids hleft _ hend => (hleft why rfl).withIds ids) hclear none why hfailed
  cases request with
  | add | get => simp [view_of_sameSessions httl h hafter hnow hclock hleft]
  | remove removed =>
    have herased : view ttl token now failed.2 =
        view ttl token now { server with cache := server.cache.erase removed } :=
      view_of_sameSessions httl (h.erase removed) hafter hnow hclock hleft
    rw [herased, view_erase_ne_iff httl h hnow removed, Request.remove.injEq]
    refine ⟨Iff.rfl, ?_⟩
    rintro rfl entry hpeek
    exact view_erase_of_cached httl h hnow hpeek
  | sweep time =>
    obtain rfl := hcurrent time rfl
    simp [view_congr httl h hafter hnow hclock (hleft.holds token)]

/-- A session is added for the minute that sessions live, and looked up
after half a minute. When the minute is over, its renewal is in the cache
only. -/
def renewedMayfly : Server :=
  afterIncidents (60000000000 : Nat) (Life.start {} 1 0).server
    [.add (fun _ => none) (mayfly "token"), .setClock 30000000000, .get (fun _ => none) "token",
      .setClock 75000000000]

theorem peek_renewedMayfly : renewedMayfly.cache.peek "token" =
    some ⟨(mayfly "token").lastingTo (⟨90000000000, by decide⟩ : Instant),
      (mayfly "token").expiresAt⟩ := rfl

/-- It is seen that the deletion of its row failed. -/
theorem failure_seen_iff_of_renewed :
    let ttl : Nat := 60000000000
    let now : Instant := ⟨75000000000, by decide⟩
    let failed := renewedMayfly.perform (.failing fun _ => some "disk full") none
      ((Request.remove "token").flow ttl)
    view ttl "token" now failed.2 ≠ view ttl "token" now renewedMayfly := by
  intro ttl now failed
  have hseen := failure_seen_iff ttl {} 1 0 [.add (fun _ => none) (mayfly "token"),
    .setClock 30000000000, .get (fun _ => none) "token", .setClock 75000000000] (.remove "token")
    (fun _ => some "disk full") "token" now (.refused (.ofStore (.unreachable "disk full"))) rfl
    (fun time htime => nomatch htime) rfl
  exact hseen.1.2 ⟨rfl, _, peek_renewedMayfly, by decide, .inl (by decide)⟩

/-- A sign-out that cannot delete the row takes the renewal away: the session
would have been found alive, and is found no more. -/
theorem renewal_forgotten :
    let ttl : Nat := 60000000000
    let now : Instant := ⟨75000000000, by decide⟩
    let renewedUntil : Instant := ⟨135000000000, by decide⟩
    let failed := renewedMayfly.perform (.failing fun _ => some "disk full") none (remove "token")
    renewedMayfly.now? = some now ∧
      failed.1 = .error (.refused (.ofStore (.unreachable "disk full"))) ∧
      view ttl "token" now renewedMayfly = .ok (some ((mayfly "token").lastingTo renewedUntil)) ∧
      view ttl "token" now failed.2 = .ok none := by
  intro ttl now renewedUntil failed
  have hnow : renewedMayfly.now? = some now := rfl
  have httl : (0 : Duration) ≤ ttl := Int.natCast_nonneg ttl
  have h : Coherent ttl renewedMayfly := coherent_afterIncidents httl _ (coherent_start _ _ _ _)
  refine ⟨hnow, rfl, ?_, ?_⟩
  · have hadd : now.add? ttl = some renewedUntil := by decide
    have hlater : later (⟨90000000000, by decide⟩ : Instant) renewedUntil = renewedUntil := by
      decide
    rw [view_of_holds httl h hnow (.cached peek_renewedMayfly), visible_of_live (by decide) hadd]
    exact congrArg (fun expiry => Except.ok (some ((mayfly "token").lastingTo expiry))) hlater
  · -- The row still has the expiry that the session was added with.
    have herased : view ttl "token" now failed.2 =
        view ttl "token" now { renewedMayfly with cache := renewedMayfly.cache.erase "token" } :=
      rfl
    rw [herased, view_erase_of_cached httl h hnow peek_renewedMayfly]
    exact visible_of_expired ttl (by decide)

end Gatekeeper.SessionStore

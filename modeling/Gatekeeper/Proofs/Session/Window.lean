import Gatekeeper.Proofs.Session.Coherence

/-!
# `Gatekeeper.Proofs.Session.Window`: who looks a session up in time keeps it

A look-up gives a session the full span from then on, but the row need not
know. As long as the renewal is in the cache only, it is lost when the
cache drops the entry to make room. A session then lives by its row, which
may be over half a span earlier.

So there is a time at which the next look-up is due (`nextDue`): the span
after the last one, or half a span less once the renewal is lost. The run
of a store in fair weather is `Frequent` for a token if its session is
added with the full span and then looked up each time before it is due.
`lookUps_find_live` says that each of these look-ups finds the session
alive, whatever is done with other tokens in between.

The time is carried through the run by `Lasts`: while the look-up is
not due yet, there is something to find that expires no earlier.
`renewal_lost` shows that the half span is really lost.
-/

set_option autoImplicit false

namespace Gatekeeper.SessionStore

/-- Something that is done with the store while nothing is disturbed. -/
inductive Use where
  | add (session : Session)
  | get (token : String)
  | remove (token : String)
  /-- A sweep at the time of the clock. -/
  | sweep
  | wait (nanos : Nat)

/-- The event that a use of the store is. No call fails. -/
def Use.event : Use → Event
  | add session => .add (fun _ => none) session
  | get token => .get (fun _ => none) token
  | remove token => .remove (fun _ => none) token
  | sweep => .sweep fun _ => none
  | wait nanos => .wait nanos

/-- The server after the store was used. -/
def afterUse (ttl : Duration) (server : Server) (use : Use) : Server :=
  afterEvent ttl server use.event

/-- The cache has dropped the entry of the token before its renewal was
written to the row. -/
def losesRenewal (token : String) (server after : Server) : Bool :=
  (server.cache.peek token).any (·.isPending) && (after.cache.peek token).isNone

/-- When the next look-up of the token is due after a use of the store, if
it was `due` before. -/
def nextDue (ttl : Duration) (token : String) (due : Int) (server : Server) (use : Use) : Int :=
  let kept := if losesRenewal token server (afterUse ttl server use) then due - ttl.half else due
  match use with
  | .add session => if session.token = token then server.clock + ttl else kept
  | .get looked => if looked = token then server.clock + ttl else kept
  | _ => kept

/-- The use of the store leaves the session of the token what it has to
live: it is added with the full span, looked up before that is due, and
not removed. -/
def InTime (ttl : Duration) (token : String) (due : Int) (server : Server) : Use → Prop
  | .add session => session.token = token → ∃ expiry : Instant, session.expiresAt = expiry ∧
      expiry.nanos = server.clock + ttl
  | .get looked => looked = token → server.clock < due ∧
      ∃ now, server.now? = some now ∧ (now.add? ttl).isSome = true
  | .remove removed => removed ≠ token
  | .sweep | .wait _ => True

/-- Each use of the store in a run is in time for the session of the
token. -/
def Frequent (ttl : Duration) (token : String) : Int → Server → List Use → Prop
  | _, _, [] => True
  | due, server, use :: uses =>
    InTime ttl token due server use ∧
      Frequent ttl token (nextDue ttl token due server use) (afterUse ttl server use) uses

/-- A look-up of the token would find a live session. -/
def FindsLive (ttl : Duration) (token : String) (server : Server) : Prop :=
  ∃ session now, server.now? = some now ∧ session.isExpired now = false ∧
    (server.perform .fair none (get ttl token)).1 = .ok (some session)

/-- Each look-up of the token in a run finds a live session. -/
def AlwaysLive (ttl : Duration) (token : String) : Server → List Use → Prop
  | _, [] => True
  | server, use :: uses =>
    (use = .get token → FindsLive ttl token server) ∧
      AlwaysLive ttl token (afterUse ttl server use) uses

/-- While the next look-up of the token is not due, it would work with an
entry that expires no earlier. -/
structure Lasts (ttl : Duration) (token : String) (due : Int) (server : Server) : Prop where
  coherent : Coherent ttl server
  finds : server.clock < due → ∃ (entry : CachedSession) (expiry persisted : Instant),
    Finds token server entry ∧ entry.session.expiresAt = expiry ∧
      entry.persistedUntil = persisted ∧ due ≤ expiry.nanos

section
variable {ttl : Duration} {token : String} {due : Int} {server after : Server}

/-- A look-up may be due earlier than it has to be. -/
theorem Lasts.mono (h : Lasts ttl token due server) {earlier : Int} (hle : earlier ≤ due) :
    Lasts ttl token earlier server := by
  refine ⟨h.coherent, fun hclock => ?_⟩
  obtain ⟨entry, expiry, persisted, hfinds, hexpiry, hpersisted, hdue⟩ :=
    h.finds (Int.lt_of_lt_of_le hclock hle)
  exact ⟨entry, expiry, persisted, hfinds, hexpiry, hpersisted, Int.le_trans hle hdue⟩

theorem Lasts.withIds (h : Lasts ttl token due server) (idsDrawn : Nat) :
    Lasts ttl token due { server with idsDrawn } := by
  refine ⟨h.coherent.withIds idsDrawn, fun hearly => ?_⟩
  obtain ⟨entry, expiry, persisted, hfinds, hrest⟩ := h.finds hearly
  exact ⟨entry, expiry, persisted, hfinds.congr rfl rfl, hrest⟩

/-- What expires after the clock is alive. -/
theorem not_isExpired_of_lt {session : Session} {now expiry : Instant}
    (hexpiry : session.expiresAt = expiry) (hlt : now.nanos < expiry.nanos) :
    session.isExpired now = false := by
  refine decide_eq_false (Timestamp.not_le.2 ?_)
  rw [hexpiry]
  exact Timestamp.ofInstant_lt_ofInstant.2 hlt

/-- If the cache drops the entry of the token, the session lives by its row,
which is half a span behind at most, or level with it. -/
theorem Lasts.dropped (httl : 0 ≤ ttl) (h : Lasts ttl token due server)
    (hcoherent : Coherent ttl after)
    (hclock : after.clock = server.clock)
    (hrow : after.database.sessions.get? token = server.database.sessions.get? token)
    (hgone : after.cache.peek token = none) :
    Lasts ttl token (if losesRenewal token server after then due - ttl.half else due) after := by
  have hhalf : (0 : Int) ≤ ttl.half := Int.ediv_nonneg httl (by decide)
  refine ⟨hcoherent, fun hearly => ?_⟩
  rw [hclock] at hearly
  have hle : (if losesRenewal token server after then due - ttl.half else due) ≤ due := by
    split <;> omega
  obtain ⟨entry, expiry, persisted, hfinds, hexpiry, hpersisted, hdue⟩ :=
    h.finds (Int.lt_of_lt_of_le hearly hle)
  obtain ⟨hstored, -, hahead⟩ := h.coherent.of_finds httl hfinds
  refine ⟨.persisted entry.onDisk, persisted, persisted, .stored hgone (hrow.trans hstored),
    hpersisted, hpersisted, ?_⟩
  have hsince := hahead.since_le
  rw [hexpiry, hpersisted, Timestamp.ofInstant_since_ofInstant] at hsince
  have hsince : expiry.nanos - persisted.nanos ≤ ttl.half := hsince
  cases hlost : losesRenewal token server after with
  | true =>
    rw [if_pos rfl]
    omega
  | false =>
    -- Nothing was pending, so that the row has the expiry of the entry.
    have hlevel : entry.isPending = false := by
      cases hfinds with
      | cached hcached => simpa [losesRenewal, hcached, hgone] using hlost
      | stored => exact decide_eq_false (Int.lt_irrefl _)
    have hpersisted_le : ¬ (persisted : Timestamp) < expiry :=
      hpersisted ▸ hexpiry ▸ of_decide_eq_false hlevel
    rw [Timestamp.ofInstant_lt_ofInstant] at hpersisted_le
    have hpersisted_le : expiry.nanos ≤ persisted.nanos := Int.not_lt.1 hpersisted_le
    rw [if_neg (by decide)]
    omega

/-- What is done with another token may drop the entry at most. -/
theorem Lasts.touched (httl : 0 ≤ ttl) (h : Lasts ttl token due server) {other : String}
    (hne : token ≠ other) (htouches : Touches other server after) (hcoherent : Coherent ttl after) :
    Lasts ttl token (if losesRenewal token server after then due - ttl.half else due) after := by
  have hrow := htouches.rows token hne
  rcases htouches.entries token hne with hgone | hsame
  · exact h.dropped httl hcoherent htouches.clock hrow hgone
  · have hkept : losesRenewal token server after = false := by
      unfold losesRenewal
      rw [hsame]
      cases server.cache.peek token <;> simp
    rw [hkept]
    refine ⟨hcoherent, fun hearly => ?_⟩
    rw [htouches.clock] at hearly
    obtain ⟨entry, expiry, persisted, hfinds, hrest⟩ := h.finds hearly
    exact ⟨entry, expiry, persisted, hfinds.congr hrow hsame, hrest⟩

/-- A sweep at the time of the clock drops nothing. -/
theorem Lasts.swept (httl : 0 ≤ ttl) (h : Lasts ttl token due server) :
    Lasts ttl token due (afterUse ttl server .sweep) := by
  unfold afterUse afterEvent Use.event Event.incident?
  cases hnow : server.now? with
  | none => exact h
  | some now =>
    have hsweep : (SessionStore.sweep now).Ensures (fun _ after => Lasts ttl token due after)
        server := by
      refine (observes_sweep httl h.coherent now).ensures.mono ?_
      rintro end? after ⟨hclock, hcoherent, hupheld⟩
      refine ⟨hcoherent, fun hearly => ?_⟩
      rw [hclock] at hearly
      obtain ⟨entry, expiry, persisted, hfinds, hexpiry, hpersisted, hdue⟩ := h.finds hearly
      have hnanos := Server.nanos_of_now? hnow
      have hlive : entry.session.isExpired now = false := not_isExpired_of_lt hexpiry (by omega)
      cases hupheld token entry hfinds hlive with
      | same hrow hpeek =>
        exact ⟨entry, expiry, persisted, hfinds.congr hrow hpeek, hexpiry, hpersisted, hdue⟩
      | written hcached hrow hpeek =>
        obtain rfl := hfinds.unique (.cached hcached)
        exact ⟨_, expiry, expiry, .cached hpeek, hexpiry, hexpiry, hdue⟩
    exact hsweep.perform (failStop_sweep now) (fun _ _ ids hlasts => hlasts.withIds ids)
      (Weather.clear_failing fun _ => none) none

/-- A look-up in time finds the session alive, and it lasts for the full span
from then on. -/
theorem Lasts.lookedUp (httl : 0 ≤ ttl) (h : Lasts ttl token due server)
    (hintime : InTime ttl token due server (.get token)) :
    FindsLive ttl token server ∧
      Lasts ttl token (server.clock + ttl) (afterUse ttl server (.get token)) := by
  obtain ⟨hearly, now, hnow, hadd⟩ := hintime rfl
  have hnanos := Server.nanos_of_now? hnow
  obtain ⟨entry, expiry, persisted, hfinds, hexpiry, hpersisted, hdue⟩ := h.finds hearly
  have hlive : entry.session.isExpired now = false := not_isExpired_of_lt hexpiry (by omega)
  obtain ⟨answer, hanswer⟩ := exists_answer httl h.coherent token hnow hadd
  have hserved := perform_get Weather.clear_fair none httl h.coherent token
  obtain ⟨renewedUntil, kept, hrenewal, rfl, hpeek, hkept⟩ :=
    hserved.renews answer entry now hanswer hfinds hnow hlive
  refine ⟨⟨_, now, hnow, isExpired_renewed hlive _, hanswer⟩, hserved.coherent, fun _ => ?_⟩
  obtain ⟨-, -, hsame, hlater⟩ := renewed_spec entry renewedUntil
  have hspan := Instant.nanos_of_ofNanos? hrenewal
  -- The new expiry is the old one or the renewal, whichever is later.
  obtain ⟨last, hlast, hle⟩ : ∃ last : Instant,
      (renewed entry renewedUntil).session.expiresAt = last ∧ renewedUntil.nanos ≤ last.nanos := by
    rw [hlater, hexpiry]
    unfold Timestamp.later
    split
    next => exact ⟨renewedUntil, rfl, Int.le_refl _⟩
    next hnot =>
      rw [Timestamp.ofInstant_lt_ofInstant] at hnot
      exact ⟨expiry, rfl, Int.not_lt.1 hnot⟩
  rcases hkept with rfl | rfl
  · exact ⟨_, last, persisted, .cached hpeek, hlast, hsame.trans hpersisted, by omega⟩
  · exact ⟨_, last, last, .cached hpeek, hlast, hlast, by omega⟩

/-- A session that is added with the full span lasts for it. -/
theorem Lasts.added (httl : 0 ≤ ttl) (h : Lasts ttl token due server) {session : Session}
    (htoken : session.token = token) (hintime : InTime ttl token due server (.add session)) :
    Lasts ttl token (server.clock + ttl) (afterUse ttl server (.add session)) := by
  obtain ⟨expiry, hexpiry, hnanos⟩ := hintime htoken
  obtain ⟨-, hcoherent⟩ := perform_add Weather.clear_fair none httl h.coherent session
  refine ⟨hcoherent, fun _ =>
    ⟨.persisted session, expiry, expiry, .cached ?_, hexpiry, hexpiry, ?_⟩⟩
  · rw [← htoken]
    exact h.coherent.tidy.peek_put_self (.persisted session)
  · omega

/-- While time passes, nothing else does. -/
theorem Lasts.waited (h : Lasts ttl token due server) (nanos : Nat) :
    Lasts ttl token due (afterUse ttl server (.wait nanos)) := by
  refine ⟨⟨h.coherent.tidy, h.coherent.linked⟩, fun hearly => ?_⟩
  have hearly : server.clock + nanos < due := hearly
  obtain ⟨entry, expiry, persisted, hfinds, hrest⟩ := h.finds (by omega)
  exact ⟨entry, expiry, persisted, hfinds.congr rfl rfl, hrest⟩

/-- Every use in time leaves the session what it has to live. -/
theorem Lasts.next (httl : 0 ≤ ttl) (h : Lasts ttl token due server) {use : Use}
    (hintime : InTime ttl token due server use) :
    Lasts ttl token (nextDue ttl token due server use) (afterUse ttl server use) := by
  have hhalf : (0 : Int) ≤ ttl.half := Int.ediv_nonneg httl (by decide)
  have hle : (if losesRenewal token server (afterUse ttl server use) then due - ttl.half else due) ≤
      due := by
    split <;> omega
  unfold nextDue
  cases use with
  | add session =>
    dsimp only
    split
    next htoken => exact h.added httl htoken hintime
    next hne =>
      obtain ⟨htouches, hcoherent⟩ := perform_add Weather.clear_fair none httl h.coherent session
      exact h.touched httl (fun heq => hne heq.symm) htouches hcoherent
  | get looked =>
    dsimp only
    split
    next htoken =>
      subst htoken
      exact (h.lookedUp httl hintime).2
    next hne =>
      have hserved := perform_get Weather.clear_fair none httl h.coherent looked
      exact h.touched httl (fun heq => hne heq.symm) hserved.touches hserved.coherent
  | remove removed =>
    obtain ⟨htouches, hcoherent⟩ := perform_remove Weather.clear_fair none h.coherent removed
    exact h.touched httl (fun heq => hintime heq.symm) htouches hcoherent
  | sweep => exact (h.swept httl).mono hle
  | wait nanos => exact (h.waited nanos).mono hle

/-- In a run in which all is in time, each look-up finds the session
alive. -/
theorem Lasts.alwaysLive (httl : 0 ≤ ttl) {uses : List Use} (h : Lasts ttl token due server)
    (hfrequent : Frequent ttl token due server uses) : AlwaysLive ttl token server uses := by
  induction uses generalizing due server with
  | nil => trivial
  | cons use uses ih =>
    obtain ⟨hintime, hrest⟩ := hfrequent
    refine ⟨?_, ih (h.next httl hintime) hrest⟩
    rintro rfl
    exact (h.lookedUp httl hintime).1

end

/-- Whatever happened to the store before: from when its session is added
with the full span, each look-up of a token that comes in time finds the
session alive. It is in time for the whole span after the last look-up, and
for half a span less only if the cache dropped the renewal since then. -/
theorem lookUps_find_live (ttl : Nat) (database : Database) (capacity : Nat) (clock : Int)
    (past : List Incident) (token : String) (uses : List Use) :
    let server := afterIncidents ttl (Life.start database capacity clock).server past
    Frequent ttl token server.clock server uses → AlwaysLive ttl token server uses := by
  intro server hfrequent
  have httl : (0 : Duration) ≤ ttl := Int.natCast_nonneg ttl
  have hcoherent : Coherent ttl server :=
    coherent_afterIncidents httl past (coherent_start ttl database capacity clock)
  -- At first nothing is due, as no look-up of the token is in time yet.
  have hlasts : Lasts ttl token server.clock server :=
    ⟨hcoherent, fun hearly => absurd hearly (Int.lt_irrefl _)⟩
  exact hlasts.alwaysLive httl hfrequent

/-- A session that is added at the beginning of 1970 for a minute. -/
def minuteSession : Session :=
  { (default : Session) with
    token := "token"
    expiresAt := (⟨60000000000, Timestamp.inCalendar_minute⟩ : Instant) }

/-- A store that begins at the beginning of 1970 with room for one entry. -/
def smallStore : Server := (Life.start {} 1 0).server

/-- The session is looked up 20 seconds after it was added, and again 20
seconds later. In between, another session takes its place in the cache. -/
def lookUpTwice : List Use :=
  [.add minuteSession, .wait 20000000000, .get "token",
    .add { minuteSession with token := "other" }, .wait 20000000000, .get "token"]

/-- The renewal is lost, so half a minute is left, and that is enough. -/
theorem lookUps_find_live_of_dropped :
    Frequent (60000000000 : Nat) "token" smallStore.clock smallStore lookUpTwice ∧
      AlwaysLive (60000000000 : Nat) "token" smallStore lookUpTwice := by
  have hfrequent :
      Frequent (60000000000 : Nat) "token" smallStore.clock smallStore lookUpTwice := by
    refine ⟨fun _ => ⟨⟨60000000000, by decide⟩, rfl, rfl⟩, trivial, fun _ => ⟨by decide, ?_⟩, ?_,
      trivial, fun _ => ⟨by decide, ?_⟩, trivial⟩
    · exact ⟨⟨20000000000, by decide⟩, rfl, by decide⟩
    · exact fun htoken => absurd htoken (by decide)
    · exact ⟨⟨40000000000, by decide⟩, rfl, by decide⟩
  exact ⟨hfrequent, lookUps_find_live 60000000000 {} 1 0 [] "token" lookUpTwice hfrequent⟩

/-- The server after the store was used, one time after the other. -/
def afterUses (ttl : Duration) (server : Server) (uses : List Use) : Server :=
  uses.foldl (afterUse ttl) server

/-- The session is looked up half a minute after it was added, and again
three quarters of a minute later. Each time is less than the minute that it
has, but in between another session takes its place in the cache. The
second look-up does not find it alive. -/
theorem renewal_lost :
    let ttl : Duration := 60 * Duration.second
    let first := afterUses ttl smallStore [.add minuteSession, .wait 30000000000]
    let second := afterUses ttl first
      [.get "token", .add { minuteSession with token := "other" }, .wait 45000000000]
    minuteSession.expiresAt.deadline = smallStore.clock + ttl ∧
      first.clock < smallStore.clock + ttl ∧ FindsLive ttl "token" first ∧
      second.clock < first.clock + ttl ∧ ¬ FindsLive ttl "token" second := by
  intro ttl first second
  have hlive : FindsLive ttl "token" first :=
    ⟨minuteSession.lastingTo (⟨90000000000, by decide⟩ : Instant), ⟨30000000000, by decide⟩, rfl,
      by decide, rfl⟩
  refine ⟨rfl, by decide, hlive, by decide, ?_⟩
  -- The row still has the expiry that the session was added with.
  have hnow : second.now? = some ⟨75000000000, by decide⟩ := rfl
  have hget : (second.perform .fair none (get ttl "token")).1 = .ok (some minuteSession) :=
    perform_get_expired rfl rfl hnow (by decide)
  rintro ⟨session, now, htime, hlive, hfound⟩
  obtain rfl := Option.some.inj (hnow.symm.trans htime)
  obtain rfl := Option.some.inj (Except.ok.inj (hget.symm.trans hfound))
  revert hlive
  decide

end Gatekeeper.SessionStore

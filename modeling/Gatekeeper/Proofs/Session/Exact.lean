import Gatekeeper.Proofs.Propagation
import Gatekeeper.Proofs.Session.Incident

/-!
# `Gatekeeper.Proofs.Session.Exact`: the session store is exact up to half a span

`Life` is a server with a record of what happened to its sessions, and
`Life.next` lets one more event happen and puts it on record. `Life.keeps`
says that after any such events every token is kept.

`get_exact` is the main result. Whatever happened before, a look-up that
is answered tells the truth by the tenure of its token: it finds a live
session only if there may be one, it does find one if there has to be
one, and that session is the one that was added, renewed to the time of
the look-up.
-/

set_option autoImplicit false

namespace Gatekeeper.SessionStore

/-- A server with a record of what happened to its sessions, latest
first. -/
structure Life where
  server : Server
  notes : List Note

namespace Life

/-- No session was ever added. -/
def start (database : Database) (capacity : Nat) (clock : Int) : Life :=
  ⟨⟨{ database with sessions := .empty }, .ofCapacity capacity, clock, 0⟩, []⟩

/-- The record after one more event. -/
def noted (ttl : Duration) (life : Life) : Event → List Note
  | .add failures session =>
    noteAddition session (life.server.perform (.failing failures) none (add session)).1 life.notes
  | .get failures token =>
    noteLook token life.server.now?
      (life.server.perform (.failing failures) none (SessionStore.get ttl token)).1 life.notes
  | .remove failures token =>
    noteRemoval token (life.server.perform (.failing failures) none (remove token)).1 life.notes
  | .sweep _ | .evict _ | .restart _ | .wait _ => life.notes

/-- One more thing happens. -/
def next (ttl : Duration) (life : Life) (event : Event) : Life :=
  ⟨afterEvent ttl life.server event, life.noted ttl event⟩

/-- Many things happen, one after the other. -/
def after (ttl : Duration) (life : Life) (events : List Event) : Life :=
  events.foldl (next ttl) life

/-- At the start, every token is kept. -/
theorem keeps_start (ttl : Duration) (database : Database) (capacity : Nat) (clock : Int) :
    Keeps ttl (start database capacity clock).notes (start database capacity clock).server :=
  fun _ => .absent

/-- Whatever happens, every token is still kept. -/
theorem keeps_next {ttl : Duration} (httl : 0 ≤ ttl) {life : Life}
    (h : Keeps ttl life.notes life.server) (event : Event) :
    Keeps ttl (life.next ttl event).notes (life.next ttl event).server := by
  cases event with
  | add failures session =>
    exact ((ensures_add httl h session).perform (failStop_add session) (fun _ _ _ => id)
      (Weather.clear_failing failures) none).2
  | get failures token =>
    exact ((ensures_get httl h token).perform (failStop_get ttl token)
      (fun _ _ _ hlook => ⟨hlook.clock, hlook.keeps, hlook.right⟩)
      (Weather.clear_failing failures) none).keeps
  | remove failures token =>
    exact ((ensures_remove h token).perform (failStop_remove token) (fun _ _ _ => id)
      (Weather.clear_failing failures) none).2
  | sweep failures =>
    show Keeps ttl life.notes (afterEvent ttl life.server (.sweep failures))
    unfold afterEvent Event.incident?
    cases hnow : life.server.now? with
    | none => exact h
    | some now =>
      exact ((ensures_sweep httl h hnow).perform (failStop_sweep now) (fun _ _ _ => id)
        (Weather.clear_failing failures) none).2
  | evict token => exact h.erase token
  | restart capacity => exact fun token => (h token).forget
  | wait nanos =>
    exact fun token => (h token).wait (Int.le_add_of_nonneg_right (Int.natCast_nonneg nanos))

/-- After whatever happened, every token is kept. -/
theorem keeps_after {ttl : Duration} (httl : 0 ≤ ttl) (events : List Event) {life : Life}
    (h : Keeps ttl life.notes life.server) :
    Keeps ttl (life.after ttl events).notes (life.after ttl events).server := by
  induction events generalizing life with
  | nil => exact h
  | cons event events ih => exact ih (keeps_next httl h event)

end Life

/-- However long sessions live, however large the cache is and whatever
happened to the store since its beginning, a look-up that is answered
answers right: a token without a tenure has no session, and that of a
token with one is alive as the tenure says. -/
theorem get_exact (ttl : Nat) (database : Database) (capacity : Nat) (clock : Int)
    (events : List Event) (failures : Nat → Option String) (token : String) (time : Instant)
    (answer : Option Session) :
    let life := (Life.start database capacity clock).after ttl events
    life.server.now? = some time →
    (life.server.perform (.failing failures) none (get ttl token)).1 = .ok answer →
    match tenure? token life.notes with
    | none => answer = none
    | some tenure => RightAnswer ttl tenure time answer := by
  intro life htime hanswer
  have httl : (0 : Duration) ≤ ttl := Int.natCast_nonneg ttl
  have hkeeps := Life.keeps_after httl events (Life.keeps_start ttl database capacity clock)
  have hlook := (ensures_get httl hkeeps token).perform (failStop_get ttl token)
    (fun _ _ _ hlook => ⟨hlook.clock, hlook.keeps, hlook.right⟩)
    (Weather.clear_failing failures) none
  exact hlook.right answer time hanswer htime

/-- A session that expires at 2026-01-02T00:00:00Z. -/
def nightSession : Session :=
  { (default : Session) with
    token := "token", expiresAt := (⟨1767312000000000000, by decide⟩ : Instant) }

/-- The session is added at 23:30:00, and a look-up a second later renews
it. -/
theorem get_exact_of_renewed :
    let time : Instant := ⟨1767310201000000000, by decide⟩
    let life := (Life.start {} 1 1767310200000000000).after (3600000000000 : Nat)
      [.add (fun _ => none) nightSession, .wait 1000000000]
    let renewed := nightSession.lastingTo (⟨1767313801000000000, by decide⟩ : Instant)
    life.server.now? = some time ∧
      (life.server.perform (.failing fun _ => none) none
        (get (3600000000000 : Nat) "token")).1 = .ok (some renewed) ∧
      RightAnswer (3600000000000 : Nat) ⟨nightSession, none⟩ time (some renewed) :=
  ⟨rfl, rfl, get_exact 3600000000000 {} 1 1767310200000000000
    [.add (fun _ => none) nightSession, .wait 1000000000] (fun _ => none) "token"
    ⟨1767310201000000000, by decide⟩
    (some (nightSession.lastingTo (⟨1767313801000000000, by decide⟩ : Instant))) rfl rfl⟩

/-! ### Why the fraction of a leap second counts -/

/-- A session that is expired by its row, and not in the cache, is found
expired. -/
theorem perform_get_expired {ttl : Duration} {token : String} {server : Server} {session : Session}
    {now : Instant} (hcache : server.cache.peek token = none)
    (hrow : server.database.sessions.get? token = some (Session.form.encode session))
    (hnow : server.now? = some now) (hexpired : session.isExpired now = true) :
    (server.perform .fair none (get ttl token)).1 = .ok (some session) := by
  have hlook : server.cache.get token = (none, server.cache) := by
    unfold SessionCache.get
    rw [hcache]
  have hcall : (Call.findSession token).attempt .fair none {} server.database =
      .ok (some session, ⟨1, 0⟩, server.database) := by
    unfold Call.attempt
    rw [Call.run_findSession hrow]
    rfl
  have hrun : (get ttl token).run .fair none {} server = (.ok (some session, ⟨1, 0⟩), server) := by
    rw [get_eq]
    simp only [Flow.locked, Flow.take, Flow.call_eq_take, Flow.now, Flow.bind, bind, pure, Flow.run,
      Step.run, Except.bind, Except.pure, hlook, answer, hcall, present, hnow,
      CachedSession.persisted, hexpired, if_true]
  unfold Server.perform
  rw [hrun]

/-- A session that expires at 2026-01-01T23:59:60.999Z. -/
def leapSession : Session :=
  { (default : Session) with
    token := "token"
    expiresAt := ⟨⟨1767311999999000000, by decide⟩, true, by decide⟩ }

/-- The session is added and looked up at 23:30:00.999. Then the process
begins again, and it is 00:00:00.500. -/
def leapLife : Life :=
  (Life.start {} 1 1767310200999000000).after (3600 * Duration.second)
    [.add (fun _ => none) leapSession, .get (fun _ => none) "token", .restart 1,
      .wait 1799501000000]

/-- Sessions live for an hour, and this one was seen alive less than half
an hour ago. But from its row, which expires in a leap second, to the
renewal the calendar counts no more than half an hour, so the row was not
written, and the session is over. -/
theorem leap_second_lost :
    let seen : Instant := ⟨1767310200999000000, by decide⟩
    let time : Instant := ⟨1767312000500000000, by decide⟩
    let ttl : Duration := 3600 * Duration.second
    tenure? "token" leapLife.notes = some ⟨leapSession, some seen⟩ ∧
      leapLife.server.now? = some time ∧ time.nanos < seen.nanos + ttl - ttl.half ∧
      (leapLife.server.perform .fair none (get ttl "token")).1 = .ok (some leapSession) ∧
      leapSession.isExpired time = true := by
  intro seen time ttl
  have hexpired : leapSession.isExpired time = true := by decide
  exact ⟨rfl, rfl, by decide, perform_get_expired rfl rfl rfl hexpired, hexpired⟩

end Gatekeeper.SessionStore

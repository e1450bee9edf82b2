import Gatekeeper.Proofs.FailStop
import Gatekeeper.Proofs.Session.Exact

/-!
# `Gatekeeper.Proofs.Session.Coherence`: the cache and the table agree

The cache may be ahead of the table, but only by renewals. `Coherent` says
so: each entry stands under the token of its session, and its row is this
session with the expiry that the entry remembers (`Linked`), half a span
before that of the entry at most (`Ahead`). Each row stands under the
token of its session, too.

There is one lemma for each operation. It says that the operation leaves
the server coherent however its calls fare, what else it touches, and that
no update of a row misses the row. Nothing in them depends on the time:
the clock may be set back, and a sweep may be told any time at all.

A sweep deletes expired rows in one go and without looking at the cache.
It is safe because `Swept` carries along what has been settled: in the
end, no entry is expired or ahead of its row (`Coherent.purge`).

`coherent_after` puts the lemmas together for whatever happens to the
store, and says what the loss of the cache can cost.
-/

set_option autoImplicit false

namespace Gatekeeper

/-- The session of an entry as its row has it. -/
def CachedSession.onDisk (entry : CachedSession) : Session :=
  entry.session.lastingTo entry.persistedUntil

@[simp] theorem CachedSession.onDisk_persisted (session : Session) :
    (CachedSession.persisted session).onDisk = session := rfl

/-- An update of a row finds the row. -/
def Step.UpdateFound : (s : Step) → s.Answer → Prop
  | .call (.updateSession _), found => found = true
  | _, _ => True

namespace SessionStore

open Gatekeeper.Flow (call take locked)

/-! ### The invariant -/

/-- The entry is ahead of its row by a renewal at most, and by no more than
half of the span. -/
structure Ahead (ttl : Duration) (entry : CachedSession) : Prop where
  persisted_le : entry.persistedUntil ≤ entry.session.expiresAt
  since_le : entry.session.expiresAt.since entry.persistedUntil ≤ ttl.half
  renewal : entry.session.expiresAt = entry.persistedUntil ∨
    ∃ renewedUntil : Instant, entry.session.expiresAt = renewedUntil

/-- What the row and the entry of a token have to do with each other. -/
inductive Linked (ttl : Duration) (token : String) : Option String → Option CachedSession → Prop
  | absent : Linked ttl token none none
  | stored {session : Session} (htoken : session.token = token) :
      Linked ttl token (some (Session.form.encode session)) none
  | cached {entry : CachedSession} (htoken : entry.session.token = token)
      (hahead : Ahead ttl entry) :
      Linked ttl token (some (Session.form.encode entry.onDisk)) (some entry)

/-- The cache and the table agree, but for renewals. -/
structure Coherent (ttl : Duration) (server : Server) : Prop where
  tidy : server.cache.Tidy
  linked : ∀ token,
    Linked ttl token (server.database.sessions.get? token) (server.cache.peek token)

/-- A look-up of the token works with this entry: the one of the cache, or
one made from the row. -/
inductive Finds (token : String) (server : Server) : CachedSession → Prop
  | cached {entry : CachedSession} (h : server.cache.peek token = some entry) :
      Finds token server entry
  | stored {session : Session} (hpeek : server.cache.peek token = none)
      (hrow : server.database.sessions.get? token = some (Session.form.encode session)) :
      Finds token server (.persisted session)

/-- Nothing happened but at one token, and that the cache dropped
entries. -/
structure Touches (token : String) (server after : Server) : Prop where
  clock : after.clock = server.clock
  rows : ∀ other, other ≠ token →
    after.database.sessions.get? other = server.database.sessions.get? other
  entries : ∀ other, other ≠ token →
    after.cache.peek other = none ∨ after.cache.peek other = server.cache.peek other

section
variable {ttl : Duration} {token : String} {server after : Server} {entry : CachedSession}

/-- An entry that is level with its row is not ahead of it. -/
theorem Ahead.refl (httl : 0 ≤ ttl) (session : Session) : Ahead ttl (.persisted session) where
  persisted_le := Timestamp.le_refl _
  since_le := by
    rw [CachedSession.persisted, Timestamp.since_self]
    exact Int.ediv_nonneg httl (by decide)
  renewal := .inl rfl

/-- On the clock, the entry is ahead of its row by half of the span, and by
the fraction of a leap second if the row expires in one. -/
theorem Ahead.deadline_le (httl : 0 ≤ ttl) (h : Ahead ttl entry) :
    entry.session.expiresAt.deadline ≤
      entry.persistedUntil.deadline + ttl.half + entry.persistedUntil.lateness := by
  have hhalf : (0 : Int) ≤ ttl.half := Int.ediv_nonneg httl (by decide)
  have hlate := Timestamp.lateness_nonneg entry.persistedUntil
  rcases h.renewal with hlevel | ⟨renewedUntil, hrenewed⟩
  · rw [hlevel]
    omega
  · have hsince := h.since_le
    rw [hrenewed] at hsince ⊢
    have hspan := Int.le_trans (Timestamp.sub_deadline_le renewedUntil entry.persistedUntil)
      (Int.add_le_add_right hsince _)
    rw [Timestamp.deadline_ofInstant]
    omega

/-- The entry may be lost. -/
theorem Linked.forget {row : Option String} {cached : Option CachedSession}
    (h : Linked ttl token row cached) : Linked ttl token row none := by
  cases h with
  | absent => exact .absent
  | stored htoken => exact .stored htoken
  | cached htoken hahead => exact .stored htoken

/-- A look-up works with the same entry as long as row and entry of its
token are the same. -/
theorem Finds.congr (h : Finds token server entry)
    (hrow : after.database.sessions.get? token = server.database.sessions.get? token)
    (hpeek : after.cache.peek token = server.cache.peek token) : Finds token after entry := by
  cases h with
  | cached hcached => exact .cached (hpeek.trans hcached)
  | stored hnone hstored => exact .stored (hpeek.trans hnone) (hrow.trans hstored)

/-- A look-up works with one entry. -/
theorem Finds.unique {other : CachedSession} (h : Finds token server entry)
    (h' : Finds token server other) : other = entry := by
  cases h with
  | cached hpeek =>
    cases h' with
    | cached hpeek' => exact Option.some.inj (hpeek'.symm.trans hpeek)
    | stored hpeek' => cases hpeek.symm.trans hpeek'
  | stored hpeek hrow =>
    cases h' with
    | cached hpeek' => cases hpeek.symm.trans hpeek'
    | stored _ hrow' =>
      rw [Session.encode_inj (Option.some.inj (hrow.symm.trans hrow'))]

/-- What a look-up works with belongs to the token and to its row. -/
theorem Coherent.of_finds (httl : 0 ≤ ttl) (h : Coherent ttl server)
    (hfinds : Finds token server entry) :
    server.database.sessions.get? token = some (Session.form.encode entry.onDisk) ∧
      entry.session.token = token ∧ Ahead ttl entry := by
  have hlinked := h.linked token
  cases hfinds with
  | cached hpeek =>
    rw [hpeek] at hlinked
    generalize server.database.sessions.get? token = row at hlinked
    cases hlinked with
    | cached htoken hahead => exact ⟨rfl, htoken, hahead⟩
  | @stored session hpeek hrow =>
    rw [hpeek, hrow] at hlinked
    refine ⟨hrow, ?_, .refl httl session⟩
    generalize hencode : some (Session.form.encode session) = row at hlinked
    cases hlinked with
    | absent => cases hencode
    | stored htoken =>
      rw [Session.encode_inj (Option.some.inj hencode)]
      exact htoken

/-- A look-up of a token works with an entry, or there is no row. -/
theorem Coherent.finds_or_absent (h : Coherent ttl server) (token : String) :
    (∃ entry, Finds token server entry) ∨ server.database.sessions.get? token = none := by
  have hlinked := h.linked token
  generalize hrow : server.database.sessions.get? token = row at hlinked
  generalize hpeek : server.cache.peek token = cached at hlinked
  cases hlinked with
  | absent => exact .inr rfl
  | stored => exact .inl ⟨_, .stored hpeek hrow⟩
  | cached => exact .inl ⟨_, .cached hpeek⟩

/-- After a session is written to its row and put into the cache, the two
are level. -/
theorem Linked.written (httl : 0 ≤ ttl) (session : Session) (table : Table) {cache : SessionCache}
    (htidy : cache.Tidy) :
    Linked ttl session.token ((table.write Session.form session.token session).get? session.token)
      ((cache.put (.persisted session)).peek session.token) := by
  have hpeek : (cache.put (.persisted session)).peek session.token = some (.persisted session) :=
    htidy.peek_put_self (.persisted session)
  have hlevel := @Linked.cached ttl session.token (.persisted session) rfl (.refl httl session)
  rw [Table.get?_write_self, hpeek]
  rw [CachedSession.onDisk_persisted] at hlevel
  exact hlevel

theorem Touches.refl (token : String) (server : Server) : Touches token server server :=
  ⟨rfl, fun _ _ => rfl, fun _ _ => .inr rfl⟩

/-- A change at one token leaves the server coherent if it does so there. -/
theorem Coherent.change (h : Coherent ttl server) (htouches : Touches token server after)
    (htidy : after.cache.Tidy)
    (htoken : Linked ttl token (after.database.sessions.get? token) (after.cache.peek token)) :
    Coherent ttl after := by
  refine ⟨htidy, fun other => ?_⟩
  by_cases hother : other = token
  · rw [hother]
    exact htoken
  · rw [htouches.rows other hother]
    rcases htouches.entries other hother with hlost | hsame
    · rw [hlost]
      exact (h.linked other).forget
    · rw [hsame]
      exact h.linked other

/-- The entry of a token may be taken out. -/
theorem Coherent.erase (h : Coherent ttl server) (token : String) :
    Coherent ttl { server with cache := server.cache.erase token } := by
  refine ⟨h.tidy.erase token, fun other => ?_⟩
  show Linked _ _ _ ((server.cache.erase token).peek other)
  rw [SessionCache.peek_erase]
  split
  next => exact (h.linked other).forget
  next => exact h.linked other

/-- The row of a token may be deleted with its entry. -/
theorem Coherent.delete (h : Coherent ttl server) (token : String) :
    Coherent ttl { server with
      database.sessions := SortedMap.erase server.database.sessions token
      cache := server.cache.erase token } := by
  refine ⟨h.tidy.erase token, fun other => ?_⟩
  show Linked _ _ ((SortedMap.erase server.database.sessions token).get? other)
    ((server.cache.erase token).peek other)
  by_cases hother : other = token
  · rw [hother, SortedMap.get?_erase_self, SessionCache.peek_erase_self]
    exact .absent
  · rw [SortedMap.get?_erase_of_ne _ hother, SessionCache.peek_erase_of_ne _ hother]
    exact h.linked other

/-- A session may be written to its row and put into the cache. -/
theorem Coherent.write (httl : 0 ≤ ttl) (h : Coherent ttl server) (session : Session) :
    Touches session.token server { server with
        database.sessions := server.database.sessions.write Session.form session.token session
        cache := server.cache.put (.persisted session) } ∧
      Coherent ttl { server with
        database.sessions := server.database.sessions.write Session.form session.token session
        cache := server.cache.put (.persisted session) } := by
  have htouches : Touches session.token server { server with
      database.sessions := server.database.sessions.write Session.form session.token session
      cache := server.cache.put (.persisted session) } :=
    ⟨rfl, fun _ hne => Table.get?_write_of_ne _ _ hne,
      fun _ hne => SessionCache.peek_put_of_ne _ (.persisted session) hne⟩
  exact ⟨htouches, h.change htouches (h.tidy.put _) (.written httl session _ h.tidy)⟩

/-- Looking a token up in the cache only makes it the most recently used. -/
theorem Coherent.lookUp (h : Coherent ttl server) (token : String) :
    Coherent ttl { server with cache := (server.cache.get token).2 } := by
  refine ⟨h.tidy.get token, fun other => ?_⟩
  show Linked _ _ _ ((server.cache.get token).2.peek other)
  rw [SessionCache.peek_get]
  exact h.linked other

/-- Each row is found, as it is that of a session. -/
theorem Coherent.findSession (h : Coherent ttl server) (token : String) :
    (server.database.sessions.get? token = none ∧
      (Call.findSession token).run server.database = .ok (none, server.database)) ∨
    ∃ session, server.database.sessions.get? token = some (Session.form.encode session) ∧
      (Call.findSession token).run server.database = .ok (some session, server.database) := by
  have hlinked := h.linked token
  generalize hrow : server.database.sessions.get? token = row at hlinked
  generalize server.cache.peek token = cached at hlinked
  cases hlinked with
  | absent => exact .inl ⟨rfl, Call.run_findSession_none hrow⟩
  | stored | cached => exact .inr ⟨_, rfl, Call.run_findSession hrow⟩

/-! ### Additions, look-ups and removals -/

/-- An addition leaves the server coherent. -/
theorem observes_add (httl : 0 ≤ ttl) (h : Coherent ttl server) (session : Session) :
    (add session).Observes Step.UpdateFound
      (fun _ after => Touches session.token server after ∧ Coherent ttl after) server := by
  refine Flow.Observes.locked ?_ trivial trivial
  show (∀ why, Touches session.token server server ∧ Coherent ttl server) ∧ _
  refine ⟨fun _ => ⟨.refl _ _, h⟩, ?_⟩
  intro _ _ hrun
  cases hrun
  exact ⟨trivial, trivial, h.write httl session⟩

/-- A removal leaves the server coherent. -/
theorem observes_remove (h : Coherent ttl server) (token : String) :
    (remove token).Observes Step.UpdateFound
      (fun _ after => Touches token server after ∧ Coherent ttl after) server := by
  refine Flow.Observes.locked ⟨trivial, ?_⟩ trivial trivial
  have htouches {rows : Table}
      (hrows : ∀ other, other ≠ token → rows.get? other = server.database.sessions.get? other) :
      Touches token server { server with
        database.sessions := rows, cache := server.cache.erase token } :=
    ⟨rfl, hrows, fun other hne => .inr (server.cache.peek_erase_of_ne hne)⟩
  -- The entry is taken out first, and stays out if the deletion fails.
  refine ⟨fun _ => ⟨htouches fun _ _ => rfl, h.erase token⟩, ?_⟩
  intro _ _ hrun
  cases hrun
  exact ⟨trivial, htouches fun _ hne => SortedMap.get?_erase_of_ne _ hne, h.delete token⟩

/-- What a look-up of a token brings about. If it works with a live entry,
it gives the renewed session, and the cache has this session then. -/
structure Served (ttl : Duration) (token : String) (server : Server)
    (end? : Except Stop (Option Session)) (after : Server) : Prop where
  touches : Touches token server after
  coherent : Coherent ttl after
  renews : ∀ answer entry now, end? = .ok answer → Finds token server entry →
    server.now? = some now → entry.session.isExpired now = false →
    ∃ renewedUntil kept, now.add? ttl = some renewedUntil ∧
      answer = some (renewed entry renewedUntil).session ∧
      after.cache.peek token = some kept ∧
      (kept = renewed entry renewedUntil ∨ kept = .persisted (renewed entry renewedUntil).session)

/-- A renewal changes the expiry only. -/
theorem renewed_spec (entry : CachedSession) (renewedUntil : Timestamp) :
    (renewed entry renewedUntil).session.token = entry.session.token ∧
      (renewed entry renewedUntil).onDisk = entry.onDisk ∧
      (renewed entry renewedUntil).persistedUntil = entry.persistedUntil ∧
      (renewed entry renewedUntil).session.expiresAt =
        Timestamp.later entry.session.expiresAt renewedUntil := by
  unfold renewed Timestamp.later CachedSession.onDisk
  split <;> exact ⟨rfl, rfl, rfl, rfl⟩

/-- A live session is alive once it is renewed. -/
theorem isExpired_renewed {time : Timestamp} (hlive : entry.session.isExpired time = false)
    (renewedUntil : Timestamp) : (renewed entry renewedUntil).session.isExpired time = false := by
  obtain ⟨-, -, -, hexpires⟩ := renewed_spec entry renewedUntil
  refine decide_eq_false (Timestamp.not_le.2 ?_)
  rw [hexpires]
  exact Timestamp.lt_of_lt_of_le (Timestamp.not_le.1 (of_decide_eq_false hlive))
    (Timestamp.le_later_left _ _)

/-- A renewed entry that need not be written is ahead of its row as far as
is allowed. -/
theorem Ahead.renewed (h : Ahead ttl entry) {renewedUntil : Instant}
    (hdue : isOverdue ttl (renewed entry renewedUntil) = false) :
    Ahead ttl (SessionStore.renewed entry renewedUntil) := by
  obtain ⟨-, -, hpersisted, hexpires⟩ := renewed_spec entry renewedUntil
  refine ⟨?_, Int.not_lt.1 (of_decide_eq_false hdue), ?_⟩
  · rw [hpersisted, hexpires]
    exact Timestamp.le_trans h.persisted_le (Timestamp.le_later_left _ _)
  · rw [hpersisted, hexpires]
    unfold Timestamp.later
    split
    next => exact .inr ⟨renewedUntil, rfl⟩
    next => exact h.renewal

/-- A renewed entry goes into the cache, whether its row is written or
not. -/
theorem observes_renew (httl : 0 ≤ ttl) (h : Coherent ttl server)
    (htoken : entry.session.token = token)
    (hrow : server.database.sessions.get? token = some (Session.form.encode entry.onDisk))
    (hahead : isOverdue ttl entry = false → Ahead ttl entry) :
    (renew ttl token entry).Observes Step.UpdateFound
      (fun end? after => Touches token server after ∧ Coherent ttl after ∧
        ∀ answer, end? = .ok answer → answer = some entry.session ∧
          ∃ kept, after.cache.peek token = some kept ∧
            (kept = entry ∨ kept = .persisted entry.session)) server := by
  subst htoken
  unfold renew
  split
  next =>
    refine ⟨fun _ => ⟨.refl _ _, h, fun _ hend => by cases hend⟩, ?_⟩
    intro found db hrun
    rw [Call.run_updateSession entry.session hrow] at hrun
    cases hrun
    obtain ⟨htouches, hcoherent⟩ := h.write httl entry.session
    refine ⟨rfl, trivial, htouches, hcoherent, fun answer hend => ?_⟩
    cases hend
    exact ⟨rfl, _, h.tidy.peek_put_self (.persisted entry.session), .inr rfl⟩
  next hdue =>
    have hpeek := h.tidy.peek_put_self entry
    have htouches : Touches entry.session.token server
        { server with cache := server.cache.put entry } :=
      ⟨rfl, fun _ _ => rfl, fun _ hne => SessionCache.peek_put_of_ne _ entry hne⟩
    refine ⟨trivial, htouches, h.change htouches (h.tidy.put entry) ?_, fun answer hend => ?_⟩
    · show Linked _ _ (server.database.sessions.get? _) ((server.cache.put entry).peek _)
      rw [hrow, hpeek]
      exact .cached rfl (hahead (Bool.eq_false_iff.2 hdue))
    · cases hend
      exact ⟨rfl, _, hpeek, .inl rfl⟩

/-- What comes of a look-up that works with an entry. -/
theorem observes_present (httl : 0 ≤ ttl) (h : Coherent ttl server)
    (hfinds : Finds token server entry) :
    (present ttl token entry).Observes Step.UpdateFound
      (Served ttl token server) server := by
  obtain ⟨hrow, htoken, hahead⟩ := h.of_finds httl hfinds
  have hfail (why : Stop) : Served ttl token server (.error why) server :=
    ⟨.refl _ _, h, fun _ _ _ hend => by cases hend⟩
  show (∀ now, server.now? = some now → _) ∧ (server.now? = none → _)
  refine ⟨fun now hnow => ⟨trivial, ?_⟩, fun _ => hfail _⟩
  show Flow.Observes _ _ (if entry.session.isExpired now = true then _ else _) server
  split
  next hexpired =>
    refine ⟨.refl _ _, h, ?_⟩
    intro answer found time _ hfound htime hlive
    rw [hfinds.unique hfound] at hlive
    rw [Option.some.inj (hnow.symm.trans htime)] at hexpired
    cases hexpired.symm.trans hlive
  next =>
    show Flow.Observes _ _ (Flow.bind (Flow.inCalendar (now.add? ttl)) _) server
    cases hadd : now.add? ttl with
    | none => exact hfail _
    | some renewedUntil =>
      obtain ⟨htoken', hdisk, -, -⟩ := renewed_spec entry renewedUntil
      refine (observes_renew httl h (htoken'.trans htoken) (hdisk ▸ hrow) hahead.renewed).mono ?_
      rintro end? after ⟨htouches, hcoherent, hanswer⟩
      refine ⟨htouches, hcoherent, ?_⟩
      intro answer found time hend hfound htime _
      obtain ⟨rfl, kept, hpeek, hkept⟩ := hanswer answer hend
      rw [hfinds.unique hfound, ← Option.some.inj (hnow.symm.trans htime)]
      exact ⟨renewedUntil, kept, hadd, rfl, hpeek, hkept⟩

/-- A look-up leaves the server coherent, and renews the session if it is
alive. -/
theorem observes_get (httl : 0 ≤ ttl) (h : Coherent ttl server) (token : String) :
    (get ttl token).Observes Step.UpdateFound (Served ttl token server) server := by
  rw [get_eq]
  refine Flow.Observes.locked ⟨trivial, ?_⟩ trivial trivial
  -- Looking the token up only makes it the most recently used.
  let touched : Server := { server with cache := (server.cache.get token).2 }
  have hpeek (other : String) : touched.cache.peek other = server.cache.peek other :=
    SessionCache.peek_get _ _ _
  have htouched : Coherent ttl touched := h.lookUp token
  have hback {after : Server} (htouches : Touches token touched after) :
      Touches token server after :=
    ⟨htouches.clock, htouches.rows, fun other hne => hpeek other ▸ htouches.entries other hne⟩
  have hfinds {entry : CachedSession} (hfound : Finds token touched entry) :
      (present ttl token entry).Observes Step.UpdateFound (Served ttl token server) touched := by
    refine (observes_present httl htouched hfound).mono ?_
    intro end? after hlooked
    refine ⟨hback hlooked.touches, hlooked.coherent, ?_⟩
    intro answer entry now hend hfinds
    exact hlooked.renews answer entry now hend (hfinds.congr rfl (hpeek token))
  show Flow.Observes _ _ (answer ttl token (server.cache.peek token)) touched
  cases hcached : server.cache.peek token with
  | some entry => exact hfinds (.cached ((hpeek token).trans hcached))
  | none =>
    refine ⟨fun _ => ⟨hback (.refl _ _), htouched, fun _ _ _ hend => by cases hend⟩, ?_⟩
    intro found db hrun
    rcases h.findSession token with ⟨hrow, hnone⟩ | ⟨session, hrow, hsome⟩
    · cases hnone.symm.trans hrun
      refine ⟨trivial, hback (.refl _ _), htouched, ?_⟩
      intro _ entry _ _ hfinds
      cases hfinds with
      | cached hcached' => cases hcached.symm.trans hcached'
      | stored _ hrow' => cases hrow.symm.trans hrow'
    · cases hsome.symm.trans hrun
      exact ⟨trivial, hfinds (.stored ((hpeek token).trans hcached) hrow)⟩

/-! ### Sweeps -/

/-- The row and the entry of a token are as before, or a renewal has been
written to the row. -/
inductive Upheld (token : String) (server after : Server) : Prop
  | same (hrow : after.database.sessions.get? token = server.database.sessions.get? token)
      (hpeek : after.cache.peek token = server.cache.peek token)
  | written {entry : CachedSession} (hcached : server.cache.peek token = some entry)
      (hrow : after.database.sessions.get? token = some (Session.form.encode entry.session))
      (hpeek : after.cache.peek token = some (.persisted entry.session))

/-- A look-up of the token works with the same session as before. -/
theorem Upheld.finds (h : Upheld token server after) (hfinds : Finds token server entry) :
    ∃ found, Finds token after found ∧ found.session = entry.session := by
  cases h with
  | same hrow hpeek => exact ⟨entry, hfinds.congr hrow hpeek, rfl⟩
  | written hcached hrow hpeek =>
    obtain rfl := hfinds.unique (.cached hcached)
    exact ⟨_, .cached hpeek, rfl⟩

theorem Upheld.trans {last : Server} (h : Upheld token server after)
    (h' : Upheld token after last) :
    Upheld token server last := by
  cases h with
  | same hrow hpeek =>
    cases h' with
    | same hrow' hpeek' => exact .same (hrow'.trans hrow) (hpeek'.trans hpeek)
    | written hcached hrow' hpeek' => exact .written (hpeek.symm.trans hcached) hrow' hpeek'
  | written hcached hrow hpeek =>
    cases h' with
    | same hrow' hpeek' => exact .written hcached (hrow'.trans hrow) (hpeek'.trans hpeek)
    | written hcached' hrow' hpeek' =>
      obtain rfl := Option.some.inj (hpeek.symm.trans hcached')
      exact .written hcached hrow' hpeek'

/-- What a part of a sweep brings about. If it comes to its end, only
entries of `tokens` are left to look at. No session is lost that is alive
at the time of the sweep. -/
structure Cleared (ttl : Duration) (time : Timestamp) (tokens : List String) (server : Server)
    (end? : Except Stop SweepReport) (after : Server) : Prop where
  clock : after.clock = server.clock
  coherent : Coherent ttl after
  pending : ∀ report, end? = .ok report → ∀ token entry, after.cache.peek token = some entry →
    entry.isStale time = true → token ∈ tokens
  upheld : ∀ token entry, Finds token server entry → entry.session.isExpired time = false →
    Upheld token server after

section Token
variable {time : Timestamp} {tokens : List String} {report : SweepReport}

/-- A change at one token that leaves nothing to look at there is a part of
a sweep. -/
theorem Cleared.of_token {end? : Except Stop SweepReport}
    (hpending : ∀ other entry, server.cache.peek other = some entry →
      entry.isStale time = true → other ∈ token :: tokens)
    (hclock : after.clock = server.clock) (hcoherent : Coherent ttl after)
    (hothers : ∀ other, other ≠ token →
      after.database.sessions.get? other = server.database.sessions.get? other ∧
        after.cache.peek other = server.cache.peek other)
    (hdone : ∀ report, end? = .ok report → ∀ entry, after.cache.peek token = some entry →
      entry.isStale time = false)
    (htoken : ∀ entry, Finds token server entry → entry.session.isExpired time = false →
      Upheld token server after) :
    Cleared ttl time tokens server end? after := by
  refine ⟨hclock, hcoherent, ?_, ?_⟩
  · intro report hend other entry hentry hstale
    by_cases hne : other = token
    · rw [hne] at hentry
      cases (hdone report hend entry hentry).symm.trans hstale
    · rw [(hothers other hne).2] at hentry
      exact (List.mem_cons.1 (hpending other entry hentry hstale)).resolve_left hne
  · intro other entry hfinds hlive
    by_cases hne : other = token
    · subst hne
      exact htoken entry hfinds hlive
    · exact .same (hothers other hne).1 (hothers other hne).2

/-- An expired entry goes, and its row with it. -/
theorem observes_sweepEntry_expired (h : Coherent ttl server)
    (hpending : ∀ other entry, server.cache.peek other = some entry →
      entry.isStale time = true → other ∈ token :: tokens)
    (hcached : server.cache.peek token = some entry)
    (hexpired : entry.session.isExpired time = true) :
    (sweepEntry time token report (some entry)).Observes Step.UpdateFound
      (Cleared ttl time tokens server) server := by
  -- The token has no entry left, and had no live one.
  have hcleared {rows : Table} {end? : Except Stop SweepReport}
      (hrows : ∀ other, other ≠ token → rows.get? other = server.database.sessions.get? other)
      (hcoherent : Coherent ttl { server with
        database.sessions := rows, cache := server.cache.erase token }) :
      Cleared ttl time tokens server end? { server with
        database.sessions := rows, cache := server.cache.erase token } := by
    refine .of_token hpending rfl hcoherent
      (fun other hne => ⟨hrows other hne, server.cache.peek_erase_of_ne hne⟩) ?_ ?_
    · intro _ _ entry hentry
      cases (server.cache.peek_erase_self token).symm.trans hentry
    · intro found hfinds hlive
      rw [hfinds.unique (.cached hcached)] at hexpired
      cases hexpired.symm.trans hlive
  show Flow.Observes _ _ (if entry.session.isExpired time = true then _ else _) server
  rw [if_pos hexpired]
  refine ⟨trivial, fun _ => hcleared (fun _ _ => rfl) (h.erase token), ?_⟩
  intro found db hrun
  cases hrun
  have hrows : ∀ other, other ≠ token →
      (SortedMap.erase server.database.sessions token).get? other =
        server.database.sessions.get? other := fun other hne => SortedMap.get?_erase_of_ne _ hne
  refine ⟨trivial, ?_⟩
  show Flow.Observes _ _ (if server.database.sessions.contains token = true then _ else _) _
  split
  next => exact hcleared hrows (h.delete token)
  next => exact hcleared hrows (h.delete token)

/-- A live entry that is ahead of its row is written to it. -/
theorem observes_sweepEntry_pending (httl : 0 ≤ ttl) (h : Coherent ttl server)
    (hpending : ∀ other entry, server.cache.peek other = some entry →
      entry.isStale time = true → other ∈ token :: tokens)
    (hcached : server.cache.peek token = some entry)
    (hlive : entry.session.isExpired time = false) (hahead : entry.isPending = true) :
    (sweepEntry time token report (some entry)).Observes Step.UpdateFound
      (Cleared ttl time tokens server) server := by
  obtain ⟨hrow, htoken, -⟩ := h.of_finds httl (.cached hcached)
  subst htoken
  show Flow.Observes _ _ (if entry.session.isExpired time = true then _
    else if entry.isPending = true then _ else _) server
  rw [if_neg (Bool.eq_false_iff.1 hlive), if_pos hahead]
  refine ⟨fun why => ⟨rfl, h, (fun _ hend => by cases hend), fun _ _ _ _ => .same rfl rfl⟩, ?_⟩
  intro found db hrun
  rw [Call.run_updateSession entry.session hrow] at hrun
  cases hrun
  obtain ⟨htouches, hcoherent⟩ := h.write httl entry.session
  have hpeek : (server.cache.put (.persisted entry.session)).peek entry.session.token =
    some (.persisted entry.session) := h.tidy.peek_put_self (.persisted entry.session)
  refine ⟨rfl, trivial, .of_token hpending rfl hcoherent ?_ ?_ ?_⟩
  · -- There was an entry already, so the cache drops no other one.
    intro other hne
    have hkept : (server.cache.put (.persisted entry.session)).peek other =
      server.cache.peek other :=
      h.tidy.peek_put_of_cached (.persisted entry.session) hcached hne
    exact ⟨htouches.rows other hne, hkept⟩
  · intro _ _ found hfound
    obtain rfl := Option.some.inj (hpeek.symm.trans hfound)
    exact CachedSession.isStale_eq_false_iff.2 ⟨hlive, decide_eq_false (Int.lt_irrefl _)⟩
  · exact fun _ _ _ => .written hcached (Table.get?_write_self _ _ _) hpeek

/-- A sweep of one token leaves the server coherent, and nothing to look at
there. -/
theorem observes_sweepToken (httl : 0 ≤ ttl) (h : Coherent ttl server)
    (hpending : ∀ other entry, server.cache.peek other = some entry →
      entry.isStale time = true → other ∈ token :: tokens) :
    (sweepToken time token report).Observes Step.UpdateFound
      (Cleared ttl time tokens server) server := by
  rw [sweepToken_eq]
  refine Flow.Observes.locked ⟨trivial, ?_⟩ trivial trivial
  show Flow.Observes _ _ (sweepEntry time token report (server.cache.peek token)) server
  have hkept {end? : Except Stop SweepReport}
      (hdone : ∀ entry, server.cache.peek token = some entry → entry.isStale time = false) :
      Cleared ttl time tokens server end? server :=
    .of_token hpending rfl h (fun _ _ => ⟨rfl, rfl⟩) (fun _ _ => hdone) fun _ _ _ => .same rfl rfl
  cases hcached : server.cache.peek token with
  | none =>
    refine hkept fun entry hentry => ?_
    cases hcached.symm.trans hentry
  | some entry =>
    cases hexpired : entry.session.isExpired time with
    | true => exact observes_sweepEntry_expired h hpending hcached hexpired
    | false =>
      cases hahead : entry.isPending with
      | true => exact observes_sweepEntry_pending httl h hpending hcached hexpired hahead
      | false =>
        show Flow.Observes _ _ (if entry.session.isExpired time = true then _
          else if entry.isPending = true then _ else _) server
        rw [if_neg (Bool.eq_false_iff.1 hexpired), if_neg (Bool.eq_false_iff.1 hahead)]
        refine hkept fun found hfound => ?_
        obtain rfl := Option.some.inj (hcached.symm.trans hfound)
        exact CachedSession.isStale_eq_false_iff.2 ⟨hexpired, hahead⟩

end Token

/-- A sweep of several tokens leaves the server coherent, and nothing to
look at. -/
theorem observes_sweepTokens (httl : 0 ≤ ttl) {time : Timestamp} {tokens : List String}
    (h : Coherent ttl server)
    (hpending : ∀ token entry, server.cache.peek token = some entry →
      entry.isStale time = true → token ∈ tokens) (report : SweepReport) :
    (sweepTokens time tokens report).Observes Step.UpdateFound
      (Cleared ttl time [] server) server := by
  induction tokens generalizing server report with
  | nil => exact ⟨rfl, h, fun _ _ => hpending, fun _ _ _ _ => .same rfl rfl⟩
  | cons token tokens ih =>
    show Flow.Observes _ _ ((sweepToken time token report).bind (sweepTokens time tokens)) server
    refine Flow.Observes.bind ((observes_sweepToken httl h hpending).mono ?_)
    intro end? after hcleared
    cases end? with
    | error why =>
      exact ⟨hcleared.clock, hcleared.coherent, (fun _ hend => by cases hend), hcleared.upheld⟩
    | ok report =>
      refine (ih hcleared.coherent (hcleared.pending report rfl) report).mono ?_
      intro end? last hrest
      refine ⟨hrest.clock.trans hcleared.clock, hrest.coherent, hrest.pending, ?_⟩
      intro token entry hfinds hlive
      have hupheld := hcleared.upheld token entry hfinds hlive
      obtain ⟨found, hfound, hsame⟩ := hupheld.finds hfinds
      exact hupheld.trans (hrest.upheld token found hfound (hsame ▸ hlive))

/-- Expired rows may be deleted once no entry has to be looked at: an entry
that is alive and level with its row keeps the row. -/
theorem Coherent.purge (httl : 0 ≤ ttl) (h : Coherent ttl server) {time : Timestamp}
    (hfresh : ∀ token entry, server.cache.peek token = some entry → entry.isStale time = false)
    {count : Nat} {sessions : Table}
    (hpurge : server.database.sessions.removeWhere Session.form (·.isExpired time) =
      .ok (count, sessions)) :
    Coherent ttl { server with database.sessions := sessions } ∧
      ∀ token entry, Finds token server entry → entry.session.isExpired time = false →
        Upheld token server { server with database.sessions := sessions } := by
  have hrow (session : Session) : Table.rowSatisfies Session.form (·.isExpired time)
      (Session.form.encode session) = session.isExpired time :=
    Table.rowSatisfies_encode (Session.decode_encode session) _
  -- A live session has a live row.
  have hlevel {token : String} {entry : CachedSession} (hfinds : Finds token server entry)
      (hlive : entry.session.isExpired time = false) : entry.onDisk.isExpired time = false := by
    obtain ⟨-, -, hahead⟩ := h.of_finds httl hfinds
    cases hfinds with
    | stored => exact hlive
    | cached hcached =>
      obtain ⟨-, hpending⟩ := CachedSession.isStale_eq_false_iff.1 (hfresh token entry hcached)
      have hpersisted : entry.persistedUntil = entry.session.expiresAt :=
        Timestamp.le_antisymm hahead.persisted_le (Timestamp.not_lt.1 (of_decide_eq_false hpending))
      show decide (entry.persistedUntil ≤ time) = false
      rw [hpersisted]
      exact hlive
  have hupheld {token : String} {entry : CachedSession} (hfinds : Finds token server entry)
      (hlive : entry.session.isExpired time = false) :
      sessions.get? token = server.database.sessions.get? token := by
    rw [Table.get?_removeWhere hpurge, (h.of_finds httl hfinds).1, Option.filter_some, hrow,
      hlevel hfinds hlive]
    rfl
  refine ⟨⟨h.tidy, fun token => ?_⟩, fun token entry hfinds hlive =>
    .same (hupheld hfinds hlive) rfl⟩
  show Linked _ _ (SortedMap.get? sessions token) (server.cache.peek token)
  cases hcached : server.cache.peek token with
  | some entry =>
    obtain ⟨hlive, -⟩ := CachedSession.isStale_eq_false_iff.1 (hfresh token entry hcached)
    rw [hupheld (.cached hcached) hlive, ← hcached]
    exact h.linked token
  | none =>
    have hlinked := h.linked token
    rw [hcached] at hlinked
    rw [Table.get?_removeWhere hpurge]
    generalize SortedMap.get? server.database.sessions token = row at hlinked
    cases hlinked with
    | absent => exact .absent
    | stored htoken =>
      rw [Option.filter_some]
      split
      next => exact .stored htoken
      next => exact .absent

/-- A sweep at any time leaves the server coherent, and loses no session
that is alive at that time. -/
theorem observes_sweep (httl : 0 ≤ ttl) (h : Coherent ttl server) (time : Timestamp) :
    (sweep time).Observes Step.UpdateFound
      (fun _ after => after.clock = server.clock ∧ Coherent ttl after ∧
        ∀ token entry, Finds token server entry → entry.session.isExpired time = false →
          Upheld token server after) server := by
  show True ∧ Flow.Observes _ _
    ((sweepTokens time (server.cache.staleTokens time) {}).bind _) server
  refine ⟨trivial, Flow.Observes.bind ((observes_sweepTokens httl h
    (fun _ _ => SessionCache.mem_staleTokens) {}).mono ?_)⟩
  intro end? after hcleared
  cases end? with
  | error why => exact ⟨hcleared.clock, hcleared.coherent, hcleared.upheld⟩
  | ok report =>
    refine ⟨fun _ => ⟨hcleared.clock, hcleared.coherent, hcleared.upheld⟩, ?_⟩
    intro count db hrun
    obtain ⟨sessions, hpurge, rfl⟩ := Call.of_run_deleteExpiredSessions hrun
    -- Every entry that was to be looked at has been, so rows may go.
    have hfresh : ∀ token entry, after.cache.peek token = some entry →
        entry.isStale time = false := by
      intro token entry hentry
      cases hstale : entry.isStale time with
      | false => rfl
      | true =>
        exact absurd (hcleared.pending report rfl token entry hentry hstale) List.not_mem_nil
    obtain ⟨hcoherent, hupheld⟩ := hcleared.coherent.purge httl hfresh hpurge
    refine ⟨trivial, hcleared.clock, hcoherent, fun token entry hfinds hlive => ?_⟩
    have hbefore := hcleared.upheld token entry hfinds hlive
    obtain ⟨found, hfound, hsame⟩ := hbefore.finds hfinds
    exact hbefore.trans (hupheld token found hfound (hsame ▸ hlive))

/-! ### Operations that are performed -/

/-- What a look-up that works with an entry comes to if nothing is
disturbed. -/
def presented (ttl : Duration) (now : Instant) (entry : CachedSession) :
    Except Stop (Option Session) :=
  if entry.session.isExpired now then .ok (some entry.session)
  else match now.add? ttl with
    | some renewedUntil => .ok (some (renewed entry renewedUntil).session)
    | none => .error (.overflow .time)

/-- The answer for an entry that has a row, if nothing is disturbed. -/
theorem undisturbed_present {now : Instant} (hnow : server.now? = some now) {row : String}
    (hrow : server.database.sessions.get? entry.session.token = some row) :
    ∃ after, (present ttl token entry).undisturbed server = (presented ttl now entry, after) ∧
      after.clock = server.clock := by
  unfold presented
  show ∃ after, Flow.undisturbed (.step .readClock _ _) server = _ ∧ _
  rw [Flow.undisturbed_readClock hnow]
  show ∃ after,
    Flow.undisturbed (if entry.session.isExpired now = true then _ else _) server = _ ∧ _
  split
  · exact ⟨_, rfl, rfl⟩
  show ∃ after, Flow.undisturbed ((Flow.inCalendar (now.add? ttl)).bind _) server = _ ∧ _
  cases now.add? ttl with
  | none => exact ⟨_, rfl, rfl⟩
  | some renewedUntil =>
    show ∃ after, (renew ttl token (renewed entry renewedUntil)).undisturbed server = _ ∧ _
    unfold renew
    split
    · rw [← (renewed_spec entry renewedUntil).1] at hrow
      exact ⟨_, Flow.undisturbed_call (Call.run_updateSession _ hrow) _ _, rfl⟩
    · exact ⟨_, rfl, rfl⟩

/-- A look-up that works with an entry gives the answer for it, if nothing
is disturbed. -/
theorem undisturbed_get (ttl : Duration) {now : Instant} (hnow : server.now? = some now)
    (hfinds : Finds token server entry) {row : String}
    (hrow : server.database.sessions.get? entry.session.token = some row) :
    ∃ after, (get ttl token).undisturbed server = (presented ttl now entry, after) ∧
      after.clock = server.clock := by
  -- Looking the token up only makes it the most recently used.
  let touched : Server := { server with cache := (server.cache.get token).2 }
  obtain ⟨after, hpresent, hclock⟩ : ∃ after, (present ttl token entry).undisturbed touched =
      (presented ttl now entry, after) ∧ after.clock = touched.clock :=
    undisturbed_present hnow hrow
  refine ⟨after, ?_, hclock⟩
  rw [get_eq, Flow.undisturbed_locked]
  show (answer ttl token (server.cache.get token).1).undisturbed touched = _
  rw [SessionCache.get_fst]
  cases hfinds with
  | cached hpeek =>
    rw [hpeek]
    exact hpresent
  | @stored session hpeek hstored =>
    have hfound : (Call.findSession token).run touched.database =
        .ok (some session, touched.database) := Call.run_findSession hstored
    rw [hpeek]
    show Flow.undisturbed (.step (.call _) _ _) touched = _
    rw [Flow.undisturbed_call hfound]
    exact hpresent

/-- Where there is no row, a look-up finds nothing. -/
theorem undisturbed_get_none (h : Coherent ttl server)
    (hrow : server.database.sessions.get? token = none) :
    ((get ttl token).undisturbed server).1 = .ok none := by
  have hlinked := h.linked token
  rw [hrow] at hlinked
  generalize hpeek : server.cache.peek token = cached at hlinked
  cases hlinked
  rw [get_eq, Flow.undisturbed_locked]
  show (Flow.undisturbed (answer ttl token (server.cache.get token).1) _).1 = _
  rw [SessionCache.get_fst, hpeek]
  show (Flow.undisturbed (.step (.call _) _ _) _).1 = _
  rw [Flow.undisturbed_call (Call.run_findSession_none hrow)]
  rfl

/-- A look-up is answered if nothing is disturbed, the clock can be read and
the calendar has the time of the renewal. -/
theorem exists_answer (httl : 0 ≤ ttl) (h : Coherent ttl server) (token : String) {now : Instant}
    (hnow : server.now? = some now) (hadd : (now.add? ttl).isSome = true) :
    ∃ answer, (server.perform .fair none (get ttl token)).1 = .ok answer := by
  obtain ⟨renewedUntil, hadd⟩ := Option.isSome_iff_exists.1 hadd
  rw [Flow.perform_fst_of_spares (Flow.spares_fair _ _)]
  rcases h.finds_or_absent token with ⟨entry, hfinds⟩ | hrow
  · obtain ⟨hrow, htoken, -⟩ := h.of_finds httl hfinds
    obtain ⟨after, hget, -⟩ := undisturbed_get ttl hnow hfinds (htoken ▸ hrow)
    rw [hget]
    unfold presented
    split <;> simp [hadd]
  · exact ⟨none, undisturbed_get_none h hrow⟩

/-- However many ids have been given out. -/
theorem Coherent.withIds (h : Coherent ttl server) (idsDrawn : Nat) :
    Coherent ttl { server with idsDrawn } := ⟨h.tidy, h.linked⟩

theorem Touches.withIds (h : Touches token server after) (idsDrawn : Nat) :
    Touches token server { after with idsDrawn } := ⟨h.clock, h.rows, h.entries⟩

section
variable {weather : Weather} (hclear : weather.Clear) (limit : Option Nat)
include hclear

theorem perform_add (httl : 0 ≤ ttl) (h : Coherent ttl server) (session : Session) :
    Touches session.token server (server.perform weather limit (add session)).2 ∧
      Coherent ttl (server.perform weather limit (add session)).2 :=
  (observes_add httl h session).ensures.perform (failStop_add session)
    (fun _ _ ids hpost => ⟨hpost.1.withIds ids, hpost.2.withIds ids⟩) hclear limit

theorem perform_get (httl : 0 ≤ ttl) (h : Coherent ttl server) (token : String) :
    Served ttl token server (server.perform weather limit (get ttl token)).1
      (server.perform weather limit (get ttl token)).2 :=
  (observes_get httl h token).ensures.perform (failStop_get ttl token)
    (fun _ _ ids hpost => ⟨hpost.touches.withIds ids, hpost.coherent.withIds ids, hpost.renews⟩)
    hclear limit

theorem perform_remove (h : Coherent ttl server) (token : String) :
    Touches token server (server.perform weather limit (remove token)).2 ∧
      Coherent ttl (server.perform weather limit (remove token)).2 :=
  (observes_remove h token).ensures.perform (failStop_remove token)
    (fun _ _ ids hpost => ⟨hpost.1.withIds ids, hpost.2.withIds ids⟩) hclear limit

theorem perform_sweep (httl : 0 ≤ ttl) (h : Coherent ttl server) (time : Timestamp) :
    Coherent ttl (server.perform weather limit (sweep time)).2 :=
  (((observes_sweep httl h time).mono fun _ _ hpost => hpost.2.1).ensures.perform
    (failStop_sweep time) (fun _ _ ids hpost => hpost.withIds ids) hclear limit)

end

end

/-! ### Whatever happens -/

/-- A store without sessions is coherent. -/
theorem coherent_start (ttl : Duration) (database : Database) (capacity : Nat) (clock : Int) :
    Coherent ttl (Life.start database capacity clock).server :=
  ⟨SessionCache.tidy_ofCapacity capacity, fun _ => .absent⟩

/-- The cache may be lost. -/
theorem Coherent.restart {ttl : Duration} {server : Server} (h : Coherent ttl server)
    (capacity : Nat) : Coherent ttl { server with cache := .ofCapacity capacity } :=
  ⟨SessionCache.tidy_ofCapacity capacity, fun token => (h.linked token).forget⟩

/-- Whatever happens, the server stays coherent. -/
theorem coherent_next {ttl : Duration} (httl : 0 ≤ ttl) {server : Server} (h : Coherent ttl server)
    (incident : Incident) : Coherent ttl (afterIncident ttl server incident) := by
  cases incident with
  | add failures session =>
    exact (perform_add (Weather.clear_failing failures) none httl h session).2
  | get failures token =>
    exact (perform_get (Weather.clear_failing failures) none httl h token).coherent
  | remove failures token => exact (perform_remove (Weather.clear_failing failures) none h token).2
  | sweep failures time => exact perform_sweep (Weather.clear_failing failures) none httl h time
  | evict token => exact h.erase token
  | restart capacity => exact h.restart capacity
  | setClock clock => exact ⟨h.tidy, h.linked⟩

theorem coherent_afterIncidents {ttl : Duration} (httl : 0 ≤ ttl) (incidents : List Incident)
    {server : Server} (h : Coherent ttl server) :
    Coherent ttl (afterIncidents ttl server incidents) := by
  induction incidents generalizing server with
  | nil => exact h
  | cons incident incidents ih => exact ih (coherent_next httl h incident)

/-- What an entry and the table have to do with each other. -/
structure Backed (ttl : Duration) (server : Server) (key : String) (entry : CachedSession) :
    Prop where
  keyed : key = entry.session.token
  /-- The row is the session with the expiry that the entry remembers. -/
  row : server.database.sessions.get? key =
    some (Session.form.encode (entry.session.lastingTo entry.persistedUntil))
  persisted_le : entry.persistedUntil ≤ entry.session.expiresAt
  /-- The calendar counts half of the span at most between the two. -/
  since_le : entry.session.expiresAt.since entry.persistedUntil ≤ ttl.half
  /-- The clock takes no longer than that, but for the fraction of a leap
  second. -/
  deadline_le : entry.session.expiresAt.deadline ≤
    entry.persistedUntil.deadline + ttl.half + entry.persistedUntil.lateness

namespace Coherent

variable {ttl : Duration} {server : Server} {key : String} {entry : CachedSession}

theorem backed (httl : 0 ≤ ttl) (h : Coherent ttl server)
    (hmem : (key, entry) ∈ server.cache.entries) : Backed ttl server key entry := by
  obtain ⟨hrow, htoken, hahead⟩ := h.of_finds httl (.cached (h.tidy.mem_entries_iff.1 hmem))
  exact ⟨htoken.symm, hrow, hahead.persisted_le, hahead.since_le, hahead.deadline_le httl⟩

/-- Each row is that of a session of its own token. -/
theorem session_of_row (h : Coherent ttl server) {row : String}
    (hrow : server.database.sessions.get? key = some row) :
    ∃ session, Session.form.decode row = .ok session ∧ session.token = key := by
  have hlinked := h.linked key
  rw [hrow] at hlinked
  generalize server.cache.peek key = cached at hlinked
  cases hlinked with
  | stored htoken => exact ⟨_, Session.decode_encode _, htoken⟩
  | cached htoken => exact ⟨_, Session.decode_encode _, htoken⟩

/-- A session that is far enough from its expiry is found alive though its
entry was lost. -/
theorem live_after_loss (httl : 0 ≤ ttl) (h : Coherent ttl server)
    (hmem : (key, entry) ∈ server.cache.entries) (capacity : Nat) {now : Instant}
    (hnow : server.now? = some now) (hadd : (now.add? ttl).isSome = true)
    (hearly : now.nanos + ttl.half + entry.persistedUntil.lateness <
      entry.session.expiresAt.deadline) :
    ∃ session, session.isExpired now = false ∧
      ({ server with cache := .ofCapacity capacity }.perform .fair none (get ttl key)).1 =
        .ok (some session) := by
  have hlost := h.restart capacity
  have hentry := h.backed httl hmem
  -- What is left is the row, and it has not expired.
  have hfinds : Finds key { server with cache := .ofCapacity capacity } (.persisted entry.onDisk) :=
    .stored rfl hentry.row
  have hlive : (CachedSession.persisted entry.onDisk).session.isExpired now = false := by
    refine decide_eq_false (Timestamp.not_le.2 ((Timestamp.ofInstant_lt_iff _ _).2 ?_))
    have hdeadline := hentry.deadline_le
    show now.nanos < entry.persistedUntil.deadline
    omega
  obtain ⟨answer, hanswer⟩ := exists_answer httl hlost key hnow hadd
  obtain ⟨renewedUntil, -, -, rfl, -⟩ :=
    (perform_get Weather.clear_fair none httl hlost key).renews answer _ now hanswer hfinds hnow
      hlive
  exact ⟨_, isExpired_renewed hlive renewedUntil, hanswer⟩

end Coherent

/-- Whatever happened to the store since it was empty, each entry is backed
by its row and each row is keyed by its token. No look-up and no sweep
misses a row that it updates. If the cache is lost, a session is still
found alive until half of the span, and the fraction of a leap second,
before it would have expired. -/
theorem coherent_after (ttl : Nat) (database : Database) (capacity : Nat) (clock : Int)
    (incidents : List Incident) :
    let server := afterIncidents ttl (Life.start database capacity clock).server incidents
    (∀ key entry, (key, entry) ∈ server.cache.entries → Backed ttl server key entry) ∧
    (∀ key row, server.database.sessions.get? key = some row →
      ∃ session, Session.form.decode row = .ok session ∧ session.token = key) ∧
    (∀ failures token session, ⟨.call (.updateSession session), false⟩ ∉
      (get ttl token).answered (.failing failures) none {} server) ∧
    (∀ failures time session, ⟨.call (.updateSession session), false⟩ ∉
      (sweep time).answered (.failing failures) none {} server) ∧
    ∀ key entry capacity now, (key, entry) ∈ server.cache.entries → server.now? = some now →
      (now.add? ttl).isSome = true →
      now.nanos + Duration.half ttl + entry.persistedUntil.lateness <
        entry.session.expiresAt.deadline →
      ∃ session, session.isExpired now = false ∧
        ({ server with cache := .ofCapacity capacity }.perform .fair none (get ttl key)).1 =
          .ok (some session) := by
  intro server
  have httl : (0 : Duration) ≤ ttl := Int.natCast_nonneg ttl
  have h : Coherent ttl server :=
    coherent_afterIncidents httl incidents (coherent_start ttl database capacity clock)
  refine ⟨fun _ _ hmem => h.backed httl hmem, fun _ _ hrow => h.session_of_row hrow, ?_, ?_, ?_⟩
  · intro failures token session hmem
    cases (observes_get httl h token).of_mem_answered (failStop_get ttl token)
      (Weather.clear_failing failures) hmem
  · intro failures time session hmem
    cases (observes_sweep httl h time).of_mem_answered (failStop_sweep time)
      (Weather.clear_failing failures) hmem
  · intro key entry capacity now hmem hnow hadd hearly
    exact h.live_after_loss httl hmem capacity hnow hadd hearly

/-- The session is added and looked up at 23:30:00.999. -/
def leapStore : Server :=
  afterIncidents (3600 * Duration.second) (Life.start {} 1 1767310200999000000).server
    [.add (fun _ => none) leapSession, .get (fun _ => none) "token"]

/-- A session that expires at 23:59:60.999 is renewed to 00:30:00.999. The
calendar counts half an hour between the two, so the row stays as it is.
If the cache is lost and it is midnight, the session had more than half an
hour left, but by its row it is over. -/
theorem leap_second_behind :
    let ttl : Duration := 3600 * Duration.second
    let midnight : Instant := ⟨1767312000000000000, by decide⟩
    let renewal : Instant := ⟨1767313800999000000, by decide⟩
    let lost := afterIncidents ttl leapStore [.restart 1, .setClock midnight.nanos]
    leapStore.cache.entries = [("token", ⟨leapSession.lastingTo renewal, leapSession.expiresAt⟩)] ∧
      leapSession.expiresAt.deadline + ttl.half < renewal.nanos ∧
      lost.now? = some midnight ∧ midnight.nanos + ttl.half < renewal.nanos ∧
      (lost.perform .fair none (get ttl "token")).1 = .ok (some leapSession) ∧
      leapSession.isExpired midnight = true := by
  intro ttl midnight renewal lost
  have hexpired : leapSession.isExpired midnight = true := by decide
  exact ⟨rfl, by decide, rfl, by decide, perform_get_expired rfl rfl rfl hexpired, hexpired⟩

end SessionStore

end Gatekeeper

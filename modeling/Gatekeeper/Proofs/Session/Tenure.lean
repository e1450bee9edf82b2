import Gatekeeper.Proofs.Database
import Gatekeeper.Proofs.Session.Cache
import Gatekeeper.Proofs.Time.Timestamp
import Gatekeeper.Server
import Gatekeeper.Session.Sweep

/-!
# `Gatekeeper.Proofs.Session.Tenure`: how long a session is promised to live

Between an addition of a token and its removal, the token has a *tenure*:
the session it was added with and the last time that this session was
seen alive. `tenure?` reads it from a record of what happened, latest
first.

A tenure says how long its session may live (`Tenure.MayLive`) and how
long it has to (`Tenure.MustLive`). The two differ by half the span that
a look-up gives, because a renewal need not be written to the row while
the row lags behind by no more. If the session was added with an expiry
in a leap second, the fraction of that second counts against it too.

`Kept` is the invariant that ties a tenure to the row and the entry of its
token. A row may expire before the session does, but never before the
session has to live.
-/

set_option autoImplicit false

namespace Gatekeeper

open Timestamp (later)

theorem Server.nanos_of_now? {server : Server} {now : Instant} (h : server.now? = some now) :
    now.nanos = server.clock := by
  unfold Server.now? Instant.ofClock? at h
  split at h
  · exact Instant.nanos_of_ofNanos? h
  · cases h

/-- The session with another expiry. -/
def Session.lastingTo (s : Session) (expiry : Timestamp) : Session := { s with expiresAt := expiry }

namespace SessionStore

/-- What a record of the past says of the sessions. -/
inductive Note where
  | added (session : Session)
  /-- A look-up at a time found the session of a token alive. -/
  | seen (token : String) (time : Instant)
  | removed (token : String)

/-- A session that was added and not removed since. -/
structure Tenure where
  session : Session
  /-- When a look-up found the session alive for the last time. -/
  lastSeen : Option Instant

/-- The tenure of a token by a record of the past, latest first. -/
def tenure? (token : String) : List Note → Option Tenure
  | [] => none
  | .added session :: notes =>
    if session.token = token then some ⟨session, none⟩ else tenure? token notes
  | .seen seen time :: notes =>
    if seen = token then (tenure? token notes).map fun tenure => ⟨tenure.session, some time⟩
    else tenure? token notes
  | .removed removed :: notes => if removed = token then none else tenure? token notes

/-- The session of a tenure has the token of the tenure. -/
theorem token_of_tenure? {token : String} {notes : List Note} {tenure : Tenure}
    (h : tenure? token notes = some tenure) : tenure.session.token = token := by
  induction notes generalizing tenure with
  | nil => cases h
  | cons note notes ih =>
    cases note with
    | added session =>
      unfold tenure? at h
      split at h
      next htoken => cases h; exact htoken
      next => exact ih h
    | seen seen time =>
      unfold tenure? at h
      split at h
      next =>
        obtain ⟨before, hbefore, heq⟩ := Option.map_eq_some_iff.1 h
        rw [← heq]
        exact (ih hbefore : before.session.token = token)
      next => exact ih h
    | removed removed =>
      unfold tenure? at h
      split at h
      next => cases h
      next => exact ih h

/-- The later one of an expiry and a renewal is in no leap second that the
expiry is not in. -/
theorem lateness_later_le (expiry : Timestamp) (renewedUntil : Instant) :
    (later expiry renewedUntil).lateness ≤ expiry.lateness := by
  unfold later
  split
  next => exact Timestamp.lateness_nonneg expiry
  next => exact Int.le_refl _

namespace Tenure

/-- The session may be alive at a time: it does not expire before, or was
seen alive less than the span before. -/
def MayLive (ttl : Duration) (tenure : Tenure) (time : Instant) : Prop :=
  (time : Timestamp) < tenure.session.expiresAt ∨
    ∃ last, tenure.lastSeen = some last ∧ time.nanos < last.nanos + ttl

/-- The session has to be alive at a time. -/
def MustLive (ttl : Duration) (tenure : Tenure) (time : Instant) : Prop :=
  (time : Timestamp) < tenure.session.expiresAt ∨
    ∃ last, tenure.lastSeen = some last ∧
      time.nanos < last.nanos + ttl - ttl.half - tenure.session.expiresAt.lateness

/-- The session is alive until `expiry` if nothing is lost. -/
def LivesTo (ttl : Duration) (tenure : Tenure) (expiry : Timestamp) : Prop :=
  match tenure.lastSeen with
  | none => expiry = tenure.session.expiresAt
  | some last => ∃ renewedUntil, last.add? ttl = some renewedUntil ∧
      expiry = later tenure.session.expiresAt renewedUntil

/-- A session lives for as long as it was added for, at least. -/
theorem LivesTo.expiresAt_le {ttl : Duration} {tenure : Tenure} {expiry : Timestamp}
    (h : tenure.LivesTo ttl expiry) : tenure.session.expiresAt ≤ expiry := by
  unfold LivesTo at h
  split at h
  next => rw [h]; exact Timestamp.le_refl _
  next =>
    obtain ⟨renewedUntil, -, rfl⟩ := h
    exact Timestamp.le_later_left _ _

/-- Only the expiry that a session was added with can be in a leap
second. -/
theorem LivesTo.lateness_le {ttl : Duration} {tenure : Tenure} {expiry : Timestamp}
    (h : tenure.LivesTo ttl expiry) : expiry.lateness ≤ tenure.session.expiresAt.lateness := by
  unfold LivesTo at h
  split at h
  next => exact Int.le_of_eq (congrArg Timestamp.lateness h)
  next =>
    obtain ⟨renewedUntil, -, rfl⟩ := h
    exact lateness_later_le _ _

/-- A session that is alive may be. -/
theorem LivesTo.mayLive {ttl : Duration} {tenure : Tenure} {expiry : Timestamp} {time : Instant}
    (h : tenure.LivesTo ttl expiry) (hlive : (time : Timestamp) < expiry) :
    tenure.MayLive ttl time := by
  unfold LivesTo at h
  split at h
  next => rw [h] at hlive; exact .inl hlive
  next last hlast =>
    obtain ⟨renewedUntil, hadd, rfl⟩ := h
    -- It lives on what it was added for, or on its last renewal.
    rcases Timestamp.lt_later_iff.1 hlive with hlive | hlive
    · exact .inl hlive
    · rw [Timestamp.ofInstant_lt_ofInstant] at hlive
      have hnanos := Instant.nanos_of_ofNanos? hadd
      have hlive : time.nanos < renewedUntil.nanos := hlive
      exact .inr ⟨last, hlast, by omega⟩

end Tenure

/-- The row of a session lags behind as far as is allowed: it expires at
`persisted` while the session lives to `expiry`. -/
structure Lag (ttl : Duration) (tenure : Tenure) (expiry persisted : Timestamp) : Prop where
  livesTo : tenure.LivesTo ttl expiry
  expiresAt_le : tenure.session.expiresAt ≤ persisted
  persisted_le : persisted ≤ expiry
  since_le : expiry.since persisted ≤ ttl.half
  /-- Only the expiry that the session was added with is a leap second. -/
  lateness_le : persisted.lateness ≤ tenure.session.expiresAt.lateness

namespace Lag

variable {ttl : Duration} {tenure : Tenure} {expiry persisted : Timestamp}

/-- A row that does not lag behind is allowed. -/
theorem refl (httl : 0 ≤ ttl) (h : tenure.LivesTo ttl expiry) : Lag ttl tenure expiry expiry where
  livesTo := h
  expiresAt_le := h.expiresAt_le
  persisted_le := Timestamp.le_refl expiry
  since_le := by
    rw [Timestamp.since_self]
    exact Int.ediv_nonneg httl (by decide)
  lateness_le := h.lateness_le

/-- While a session has to live, its row does not expire. -/
theorem lt_persisted (h : Lag ttl tenure expiry persisted) {time : Instant}
    (hmust : tenure.MustLive ttl time) : (time : Timestamp) < persisted := by
  rcases hmust with hlive | ⟨last, hlast, hlive⟩
  · exact Timestamp.lt_of_lt_of_le hlive h.expiresAt_le
  have hlives := h.livesTo
  unfold Tenure.LivesTo at hlives
  rw [hlast] at hlives
  obtain ⟨renewedUntil, hadd, hexpiry⟩ := hlives
  have hnanos := Instant.nanos_of_ofNanos? hadd
  unfold Timestamp.later at hexpiry
  split at hexpiry
  next =>
    -- The session lives on a renewal, which the row follows by half a span.
    have hsince := Int.sub_nonneg_of_le h.since_le
    rw [hexpiry] at hsince
    have hspan := Timestamp.sub_deadline_le renewedUntil persisted
    have hlate := h.lateness_le
    rw [Timestamp.ofInstant_lt_iff]
    omega
  next hnot =>
    -- The session was added for longer, and the row has that expiry.
    rw [hexpiry] at h
    have hrow := Timestamp.le_antisymm h.persisted_le h.expiresAt_le
    have hhalf := h.since_le
    rw [hrow, Timestamp.since_self] at hhalf
    have hhalf := Int.sub_nonneg_of_le hhalf
    have hlate := Timestamp.lateness_nonneg tenure.session.expiresAt
    have hbefore : time < renewedUntil := show time.nanos < renewedUntil.nanos by omega
    rw [hrow]
    exact Timestamp.lt_of_lt_of_le (Timestamp.ofInstant_lt_ofInstant.2 hbefore)
      (Timestamp.not_lt.1 hnot)

end Lag

/-- What the row and the entry of a token hold when the clock shows so
much. -/
inductive Kept (ttl : Duration) (clock : Int) :
    Option Tenure → Option String → Option CachedSession → Prop
  /-- Without a tenure there is neither a row nor an entry. -/
  | absent : Kept ttl clock none none none
  /-- The row is deleted at a time when the session need not live any
  more. -/
  | ended {tenure : Tenure}
      (h : ∀ time : Instant, clock ≤ time.nanos → ¬ tenure.MustLive ttl time) :
      Kept ttl clock (some tenure) none none
  /-- The row lags behind, and the entry, if there is one, does not. -/
  | held {tenure : Tenure} {expiry persisted : Timestamp} {entry : Option CachedSession}
      (lag : Lag ttl tenure expiry persisted)
      (hseen : ∀ last, tenure.lastSeen = some last → last.nanos ≤ clock)
      (hentry : entry = none ∨ entry = some ⟨tenure.session.lastingTo expiry, persisted⟩) :
      Kept ttl clock (some tenure)
        (some (Session.form.encode (tenure.session.lastingTo persisted))) entry

namespace Kept

variable {ttl : Duration} {clock : Int} {tenure : Option Tenure} {row : Option String}
  {entry : Option CachedSession}

/-- The entry may be lost. -/
theorem forget (h : Kept ttl clock tenure row entry) : Kept ttl clock tenure row none := by
  cases h with
  | absent => exact .absent
  | ended h => exact .ended h
  | held lag hseen hentry => exact .held lag hseen (.inl rfl)

/-- Time may pass. -/
theorem wait (h : Kept ttl clock tenure row entry) {later : Int} (hle : clock ≤ later) :
    Kept ttl later tenure row entry := by
  cases h with
  | absent => exact .absent
  | ended h => exact .ended fun time htime => h time (Int.le_trans hle htime)
  | held lag hseen hentry =>
    exact .held lag (fun last hlast => Int.le_trans (hseen last hlast) hle) hentry

/-- A token that has an entry has a tenure and a row. -/
theorem of_entry {entry : CachedSession} (h : Kept ttl clock tenure row (some entry)) :
    ∃ (held : Tenure) (expiry persisted : Timestamp), tenure = some held ∧
      Lag ttl held expiry persisted ∧
      (∀ last, held.lastSeen = some last → last.nanos ≤ clock) ∧
      row = some (Session.form.encode (held.session.lastingTo persisted)) ∧
      entry = ⟨held.session.lastingTo expiry, persisted⟩ := by
  cases h with
  | held lag hseen hentry =>
    rcases hentry with hnone | hsome
    · cases hnone
    · exact ⟨_, _, _, rfl, lag, hseen, rfl, Option.some.inj hsome⟩

end Kept

/-- After a session is written to its row and put into the cache, its token
is kept. -/
theorem Kept.written {ttl : Duration} (httl : 0 ≤ ttl) {clock : Int} {tenure : Tenure}
    {expiry : Timestamp} (hlives : tenure.LivesTo ttl expiry)
    (hseen : ∀ last, tenure.lastSeen = some last → last.nanos ≤ clock)
    (table : Table) (cache : SessionCache) :
    Kept ttl clock (some tenure)
      ((table.write Session.form tenure.session.token (tenure.session.lastingTo expiry)).get?
        tenure.session.token)
      ((cache.put (.persisted (tenure.session.lastingTo expiry))).peek tenure.session.token) := by
  rw [Table.get?_write_self]
  exact .held (.refl httl hlives) hseen
    (SessionCache.peek_put_self cache (.persisted (tenure.session.lastingTo expiry)))

/-- Every token is kept by a server with a record of the past. -/
def Keeps (ttl : Duration) (notes : List Note) (server : Server) : Prop :=
  ∀ token, Kept ttl server.clock (tenure? token notes) (server.database.sessions.get? token)
    (server.cache.peek token)

/-- The entry of a token may be taken out. -/
theorem Keeps.erase {ttl : Duration} {notes : List Note} {server : Server}
    (h : Keeps ttl notes server) (token : String) :
    Keeps ttl notes { server with cache := server.cache.erase token } := by
  intro other
  show Kept _ _ _ _ ((server.cache.erase token).peek other)
  rw [SessionCache.peek_erase]
  split
  next => exact (h other).forget
  next => exact h other

/-- A change at one token that loses no more than entries of the others
keeps all if it keeps that token. -/
theorem Keeps.change {ttl : Duration} {notes notes' : List Note} {server server' : Server}
    (h : Keeps ttl notes server) (hclock : server'.clock = server.clock) (token : String)
    (hnotes : ∀ other, other ≠ token → tenure? other notes' = tenure? other notes)
    (hrows : ∀ other, other ≠ token →
      server'.database.sessions.get? other = server.database.sessions.get? other)
    (hentries : ∀ other, other ≠ token → server'.cache.peek other = none ∨
      server'.cache.peek other = server.cache.peek other)
    (htoken : Kept ttl server.clock (tenure? token notes')
      (server'.database.sessions.get? token) (server'.cache.peek token)) :
    Keeps ttl notes' server' := by
  intro other
  rw [hclock]
  by_cases hother : other = token
  · rw [hother]
    exact htoken
  · rw [hnotes other hother, hrows other hother]
    rcases hentries other hother with hlost | hsame
    · rw [hlost]
      exact (h other).forget
    · rw [hsame]
      exact h other

/-- A session may be written to its row and put into the cache with the
expiry that it lives to. -/
theorem Keeps.write {ttl : Duration} (httl : 0 ≤ ttl) {notes notes' : List Note} {server : Server}
    (h : Keeps ttl notes server) (tenure : Tenure) {expiry : Timestamp}
    (hnotes : ∀ other, other ≠ tenure.session.token → tenure? other notes' = tenure? other notes)
    (htenure : tenure? tenure.session.token notes' = some tenure)
    (hlives : tenure.LivesTo ttl expiry)
    (hseen : ∀ last, tenure.lastSeen = some last → last.nanos ≤ server.clock) :
    Keeps ttl notes' { server with
      database.sessions := server.database.sessions.write Session.form tenure.session.token
        (tenure.session.lastingTo expiry)
      cache := server.cache.put (.persisted (tenure.session.lastingTo expiry)) } := by
  refine h.change rfl tenure.session.token hnotes ?_ ?_ ?_
  · intro other hne
    exact Table.get?_write_of_ne _ _ hne
  · intro other hne
    exact SessionCache.peek_put_of_ne _ _ hne
  · rw [htenure]
    exact .written httl hlives hseen _ _

end SessionStore

end Gatekeeper

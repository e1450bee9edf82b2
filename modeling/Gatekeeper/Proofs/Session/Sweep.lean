import Gatekeeper.Proofs.FailStop
import Gatekeeper.Proofs.Session.Coherence

/-!
# `Gatekeeper.Proofs.Session.Sweep`: a sweep removes what is expired

The cache speaks for its tokens, and the table for all others. `Holds` is
the session of a token in this sense. A sweep at any time leaves exactly
those sessions that are alive at the time, each in the layers where it
was, with the cache level with the table, and it reports what it did
(`Cleaned`). A sweep that is stopped halfway has neither lost a live
session nor brought back an expired one (`Halted`).

All that is asked of the state is that each entry of the cache has a row,
with the expiry that the entry remembers (`Consistent`).

`TokenSwept` lists what the sweep of one token can come to, and
everything else is derived from it. `Underway` is the invariant over the
tokens: it tells the state from the one in which the sweep began and from
the tokens that are left, and the report is made up of what the tokens
that are left will add. The expired rows go last. By then no entry is
ahead of its row, so no live session goes with them.

`sweep_exact` is the main result.
-/

set_option autoImplicit false

namespace Gatekeeper.SessionStore

open Gatekeeper.Flow (call take locked)

/-! ### The session of a token -/

/-- The row of a token is read as this session. -/
def HasRow (token : String) (server : Server) (session : Session) : Prop :=
  ∃ row, server.database.sessions.get? token = some row ∧ Session.form.decode row = .ok session

/-- The session of a token is that of its entry in the cache, or else that
of its row. -/
inductive Holds (token : String) (server : Server) : Session → Prop
  | cached {entry : CachedSession} (hpeek : server.cache.peek token = some entry) :
      Holds token server entry.session
  | stored {session : Session} (hpeek : server.cache.peek token = none)
      (hrow : HasRow token server session) : Holds token server session

/-- The entry stands under the token of its session. The row of the token
is this session with the expiry that the entry remembers, which is no
later. -/
structure Grounded (token : String) (server : Server) (entry : CachedSession) : Prop where
  token_eq : entry.session.token = token
  persisted_le : entry.persistedUntil ≤ entry.session.expiresAt
  row : HasRow token server entry.onDisk

/-- Every entry of the cache has its row. -/
structure Consistent (server : Server) : Prop where
  tidy : server.cache.Tidy
  grounded : ∀ token entry, server.cache.peek token = some entry → Grounded token server entry

section
variable {token : String} {server after : Server} {session : Session} {entry : CachedSession}
  {time : Timestamp}

theorem holds_iff_of_cached (hpeek : server.cache.peek token = some entry) :
    Holds token server session ↔ session = entry.session := by
  constructor
  · intro h
    cases h with
    | cached hpeek' => rw [Option.some.inj (hpeek.symm.trans hpeek')]
    | stored hnone => cases hpeek.symm.trans hnone
  · rintro rfl
    exact .cached hpeek

theorem holds_iff_of_not_cached (hpeek : server.cache.peek token = none) :
    Holds token server session ↔ HasRow token server session := by
  constructor
  · intro h
    cases h with
    | cached hpeek' => cases hpeek.symm.trans hpeek'
    | stored _ hrow => exact hrow
  · exact .stored hpeek

theorem HasRow.unique {other : Session} (h : HasRow token server session)
    (h' : HasRow token server other) : other = session := by
  obtain ⟨row, hrow, hdecode⟩ := h
  obtain ⟨row', hrow', hdecode'⟩ := h'
  obtain rfl := Option.some.inj (hrow.symm.trans hrow')
  exact Except.ok.inj (hdecode'.symm.trans hdecode)

/-- What a token holds depends on its row and its entry only. -/
theorem holds_congr
    (hrow : after.database.sessions.get? token = server.database.sessions.get? token)
    (hpeek : after.cache.peek token = server.cache.peek token) :
    Holds token after session ↔ Holds token server session := by
  have hsame : HasRow token after session ↔ HasRow token server session := by
    unfold HasRow
    rw [hrow]
  cases hcached : server.cache.peek token with
  | some entry => rw [holds_iff_of_cached (hpeek.trans hcached), holds_iff_of_cached hcached]
  | none =>
    rw [holds_iff_of_not_cached (hpeek.trans hcached), holds_iff_of_not_cached hcached, hsame]

namespace Consistent

/-- A change at one token leaves every entry its row if it does so there. -/
theorem change (h : Consistent server) (token : String) (htidy : after.cache.Tidy)
    (hothers : ∀ other, other ≠ token →
      after.database.sessions.get? other = server.database.sessions.get? other ∧
        after.cache.peek other = server.cache.peek other)
    (htoken : ∀ entry, after.cache.peek token = some entry → Grounded token after entry) :
    Consistent after := by
  refine ⟨htidy, ?_⟩
  intro other entry hentry
  by_cases hother : other = token
  · subst hother
    exact htoken entry hentry
  · obtain ⟨hrow, hpeek⟩ := hothers other hother
    obtain ⟨htoken, hle, row, hget, hdecode⟩ := h.grounded other entry (hpeek ▸ hentry)
    exact ⟨htoken, hle, row, hrow.trans hget, hdecode⟩

/-- The entry of a token may be lost. -/
theorem erase (h : Consistent server) (token : String) :
    Consistent { server with cache := server.cache.erase token } := by
  refine h.change token (h.tidy.erase token)
    (fun other hne => ⟨rfl, server.cache.peek_erase_of_ne hne⟩) ?_
  intro entry hentry
  cases (server.cache.peek_erase_self token).symm.trans hentry

/-- An expired entry has an expired row. -/
theorem isExpired_onDisk (h : Consistent server) (hpeek : server.cache.peek token = some entry)
    (hexpired : entry.session.isExpired time = true) : entry.onDisk.isExpired time = true :=
  decide_eq_true
    (Timestamp.le_trans (h.grounded token entry hpeek).persisted_le (of_decide_eq_true hexpired))

/-- An entry that is not pending is level with its row. -/
theorem persisted_eq (h : Consistent server) (hpeek : server.cache.peek token = some entry)
    (hpending : entry.isPending = false) : CachedSession.persisted entry.session = entry := by
  have hlevel : entry.persistedUntil = entry.session.expiresAt :=
    Timestamp.le_antisymm (h.grounded token entry hpeek).persisted_le
      (Timestamp.not_lt.1 (of_decide_eq_false hpending))
  unfold CachedSession.persisted
  rw [← hlevel]

end Consistent

end

/-! ### One token -/

/-- What the sweep of a token comes to. It is stopped by a call that
fails, before anything is changed or after an expired entry is gone. -/
inductive TokenSwept (time : Timestamp) (token : String) (report : SweepReport) (server : Server) :
    Except Stop SweepReport → Server → Prop
  | kept (hfresh : ∀ entry, server.cache.peek token = some entry → entry.isStale time = false) :
      TokenSwept time token report server (.ok report) server
  | removed {entry : CachedSession} (hpeek : server.cache.peek token = some entry)
      (hexpired : entry.session.isExpired time = true) :
      TokenSwept time token report server
        (.ok { report with
          cachedRemoved := report.cachedRemoved + 1, durablePurged := report.durablePurged + 1 })
        { server with
          database.sessions := SortedMap.erase server.database.sessions token
          cache := server.cache.erase token }
  | flushed {entry : CachedSession} (hpeek : server.cache.peek token = some entry)
      (hlive : entry.session.isExpired time = false) (hpending : entry.isPending = true) :
      TokenSwept time token report server (.ok { report with flushed := report.flushed + 1 })
        { server with
          database.sessions :=
            server.database.sessions.write Session.form entry.session.token entry.session
          cache := server.cache.put (.persisted entry.session) }
  | stopped (why : Stop) : TokenSwept time token report server (.error why) server
  | forgotten (why : Stop) {entry : CachedSession} (hpeek : server.cache.peek token = some entry)
      (hexpired : entry.session.isExpired time = true) :
      TokenSwept time token report server (.error why)
        { server with cache := server.cache.erase token }

section
variable {token : String} {server : Server} {entry : CachedSession} {time : Timestamp}
  {report : SweepReport}

/-- An entry has a row, so a sweep finds the row that it deletes or
writes. -/
theorem ensures_tokenSwept (h : Consistent server) :
    (sweepToken time token report).Ensures (TokenSwept time token report server) server := by
  rw [sweepToken_eq]
  apply Flow.ensures_locked
  show Flow.Ensures _ (sweepEntry time token report (server.cache.peek token)) server
  cases hpeek : server.cache.peek token with
  | none =>
    refine .kept ?_
    intro entry hentry
    cases hpeek.symm.trans hentry
  | some entry =>
    obtain ⟨htoken, -, row, hrow, -⟩ := h.grounded token entry hpeek
    show Flow.Ensures _ (if entry.session.isExpired time = true then _
      else if entry.isPending = true then _ else _) server
    cases hexpired : entry.session.isExpired time with
    | true =>
      -- The entry is taken out, and then the row is deleted or the call fails.
      rw [if_pos rfl]
      refine ⟨fun why => .forgotten why hpeek hexpired, ?_⟩
      intro found database hrun
      have hfound : server.database.sessions.contains token = true := Option.isSome_of_eq_some hrow
      cases hrun
      show Flow.Ensures _ (if server.database.sessions.contains token = true then _ else _) _
      rw [if_pos hfound]
      exact .removed hpeek hexpired
    | false =>
      rw [if_neg Bool.false_ne_true]
      cases hpending : entry.isPending with
      | true =>
        rw [if_pos rfl]
        refine ⟨fun why => .stopped why, ?_⟩
        intro found database hrun
        rw [Call.run_updateSession entry.session (by rw [htoken]; exact hrow)] at hrun
        cases hrun
        exact .flushed hpeek hexpired hpending
      | false =>
        rw [if_neg Bool.false_ne_true]
        refine .kept ?_
        intro other hother
        obtain rfl := Option.some.inj (hpeek.symm.trans hother)
        exact CachedSession.isStale_eq_false_iff.2 ⟨hexpired, hpending⟩

end

/-! ### The tokens one after the other -/

/-- What a sweep leaves of an entry: a live one, level with its row. -/
def settled (time : Timestamp) (cached : Option CachedSession) : Option CachedSession :=
  (cached.filter fun entry => !entry.session.isExpired time).map fun entry =>
    .persisted entry.session

@[simp] theorem settled_none (time : Timestamp) : settled time none = none := rfl

theorem settled_of_expired {time : Timestamp} {entry : CachedSession}
    (h : entry.session.isExpired time = true) : settled time (some entry) = none := by
  simp [settled, Option.filter, h]

theorem settled_of_live {time : Timestamp} {entry : CachedSession}
    (h : entry.session.isExpired time = false) :
    settled time (some entry) = some (.persisted entry.session) := by
  simp [settled, Option.filter, h]

/-- There is an entry, and it is expired. -/
def isDead (time : Timestamp) (cached : Option CachedSession) : Bool :=
  cached.any (·.session.isExpired time)

/-- There is a live entry, and it is ahead of its row. -/
def isUnwritten (time : Timestamp) (cached : Option CachedSession) : Bool :=
  cached.any fun entry => !entry.session.isExpired time && entry.isPending

/-- The state of a sweep that began in `start` and has `tokens` left. -/
structure Underway (time : Timestamp) (start : Server) (tokens : List String) (report : SweepReport)
    (server : Server) : Prop where
  consistent : Consistent server
  frame : ∃ sessions cache, server = { start with database.sessions := sessions, cache }
  entries : ∀ token, server.cache.peek token =
    if token ∈ tokens then start.cache.peek token else settled time (start.cache.peek token)
  /-- The row of a token that was not cached is as it was. -/
  uncached : ∀ token, start.cache.peek token = none →
    server.database.sessions.get? token = start.database.sessions.get? token
  /-- The row of an expired entry is gone with the entry. -/
  gone : ∀ token, token ∉ tokens → isDead time (start.cache.peek token) = true →
    server.database.sessions.get? token = none
  removed : report.cachedRemoved +
      tokens.countP (fun token => isDead time (start.cache.peek token)) =
    start.cache.entries.countP fun entry => entry.2.session.isExpired time
  flushed : report.flushed +
      tokens.countP (fun token => isUnwritten time (start.cache.peek token)) =
    start.cache.entries.countP fun entry => !entry.2.session.isExpired time && entry.2.isPending
  purged : report.durablePurged + server.database.sessions.size = start.database.sessions.size

section
variable {token : String} {tokens : List String} {start server after : Server}
  {entry : CachedSession} {time : Timestamp} {report : SweepReport}

/-- The sweep of a token leaves every entry its row. -/
theorem TokenSwept.consistent (h : Consistent server) {end? : Except Stop SweepReport}
    (hswept : TokenSwept time token report server end? after) : Consistent after := by
  cases hswept with
  | kept | stopped => exact h
  | forgotten => exact h.erase token
  | removed hpeek =>
    refine h.change token (h.tidy.erase token) ?_ ?_
    · intro other hne
      exact ⟨SortedMap.get?_erase_of_ne _ hne, server.cache.peek_erase_of_ne hne⟩
    · intro entry hentry
      cases (server.cache.peek_erase_self token).symm.trans hentry
  | @flushed entry hpeek =>
    obtain ⟨rfl, -, -⟩ := h.grounded token entry hpeek
    refine h.change entry.session.token (h.tidy.put _) ?_ ?_
    · intro other hne
      exact ⟨Table.get?_write_of_ne _ _ hne, h.tidy.peek_put_of_cached (.persisted _) hpeek hne⟩
    · intro written hwritten
      obtain rfl := Option.some.inj
        ((h.tidy.peek_put_self (.persisted entry.session)).symm.trans hwritten)
      exact ⟨rfl, Timestamp.le_refl _, _, Table.get?_write_self _ _ _, Session.decode_encode _⟩

/-- An entry that a sweep has not to look at is settled. -/
theorem settled_of_fresh (h : Consistent server)
    (hfresh : ∀ entry, server.cache.peek token = some entry → entry.isStale time = false) :
    settled time (server.cache.peek token) = server.cache.peek token ∧
      isDead time (server.cache.peek token) = false ∧
      isUnwritten time (server.cache.peek token) = false := by
  cases hpeek : server.cache.peek token with
  | none => exact ⟨rfl, rfl, rfl⟩
  | some entry =>
    obtain ⟨hlive, hpending⟩ := CachedSession.isStale_eq_false_iff.1 (hfresh entry hpeek)
    refine ⟨?_, by simp [isDead, hlive], by simp [isUnwritten, hpending]⟩
    rw [settled_of_live hlive, h.persisted_eq hpeek hpending]

/-- A sweep begins with the tokens of all entries that it has to look
at. -/
theorem underway_start (h : Consistent start) (time : Timestamp) :
    Underway time start (start.cache.staleTokens time) {} start := by
  -- The entries that are listed are those that are counted.
  have hcount (p : Option CachedSession → Bool)
      (hstale : ∀ entry, p (some entry) = true → entry.isStale time = true) :
      (start.cache.staleTokens time).countP (fun token => p (start.cache.peek token)) =
        start.cache.entries.countP fun entry => p (some entry.2) := by
    unfold SessionCache.staleTokens
    rw [List.countP_map, List.countP_filter]
    refine List.countP_congr ?_
    intro entry hmem
    have hpeek : start.cache.peek entry.1 = some entry.2 := h.tidy.mem_entries_iff.1 hmem
    simp only [Function.comp, hpeek, Bool.and_eq_true]
    exact ⟨And.left, fun hp => ⟨hp, hstale entry.2 hp⟩⟩
  have hfresh {token : String} (hnot : token ∉ start.cache.staleTokens time) :
      ∀ entry, start.cache.peek token = some entry → entry.isStale time = false := by
    intro entry hpeek
    exact Bool.eq_false_iff.2 fun hstale => hnot (SessionCache.mem_staleTokens hpeek hstale)
  refine ⟨h, ⟨_, _, rfl⟩, ?_, fun _ _ => rfl, ?_, ?_, ?_, Nat.zero_add _⟩
  · intro token
    split
    next => rfl
    next hnot => exact (settled_of_fresh h (hfresh hnot)).1.symm
  · intro token hnot hdead
    cases (settled_of_fresh h (hfresh hnot)).2.1.symm.trans hdead
  · rw [Nat.zero_add]
    refine hcount (isDead time) ?_
    intro entry hdead
    exact Bool.or_eq_true_iff.2 (.inl hdead)
  · rw [Nat.zero_add]
    refine hcount (isUnwritten time) ?_
    intro entry hunwritten
    exact Bool.or_eq_true_iff.2 (.inr (Bool.and_eq_true_iff.1 hunwritten).2)

/-- The sweep goes on to the next token when the entry of this one is
settled and what it adds has been reported. -/
theorem Underway.settle {report' : SweepReport}
    (h : Underway time start (token :: tokens) report server) (hnot : token ∉ tokens)
    (hconsistent : Consistent after)
    (hframe : ∃ sessions cache, after = { server with database.sessions := sessions, cache })
    (hothers : ∀ other, other ≠ token →
      after.database.sessions.get? other = server.database.sessions.get? other ∧
        after.cache.peek other = server.cache.peek other)
    (hentry : after.cache.peek token = settled time (start.cache.peek token))
    (huncached : start.cache.peek token = none →
      after.database.sessions.get? token = server.database.sessions.get? token)
    (hgone : isDead time (start.cache.peek token) = true →
      after.database.sessions.get? token = none)
    (hremoved : report'.cachedRemoved =
      report.cachedRemoved + if isDead time (start.cache.peek token) = true then 1 else 0)
    (hflushed : report'.flushed =
      report.flushed + if isUnwritten time (start.cache.peek token) = true then 1 else 0)
    (hpurged : report'.durablePurged + after.database.sessions.size =
      report.durablePurged + server.database.sessions.size) :
    Underway time start tokens report' after := by
  obtain ⟨sessions, cache, rfl⟩ := hframe
  obtain ⟨sessions', cache', hserver⟩ := h.frame
  have hleft {other : String} (hne : other ≠ token) : other ∈ token :: tokens ↔ other ∈ tokens := by
    simp [hne]
  refine ⟨hconsistent, ⟨sessions, cache, by rw [hserver]⟩, ?_, ?_, ?_, ?_, ?_, ?_⟩
  · intro other
    by_cases hother : other = token
    · rw [hother, hentry, if_neg hnot]
    · rw [(hothers other hother).2, h.entries other]
      simp only [hleft hother]
  · intro other hnone
    by_cases hother : other = token
    · subst hother
      exact (huncached hnone).trans (h.uncached other hnone)
    · exact (hothers other hother).1.trans (h.uncached other hnone)
  · intro other hmem hdead
    by_cases hother : other = token
    · subst hother
      exact hgone hdead
    · refine (hothers other hother).1.trans (h.gone other ?_ hdead)
      rwa [hleft hother]
  · rw [hremoved, ← h.removed, List.countP_cons]
    omega
  · rw [hflushed, ← h.flushed, List.countP_cons]
    omega
  · exact hpurged.trans h.purged

/-- The sweep of a token that is not stopped settles its entry. -/
theorem Underway.next {report' : SweepReport}
    (h : Underway time start (token :: tokens) report server) (hnot : token ∉ tokens)
    (hswept : TokenSwept time token report server (.ok report') after) :
    Underway time start tokens report' after := by
  have hpeek : server.cache.peek token = start.cache.peek token := by
    rw [h.entries token, if_pos List.mem_cons_self]
  have hconsistent := hswept.consistent h.consistent
  cases hswept with
  | kept hfresh =>
    obtain ⟨hsettled, hdead, hunwritten⟩ := settled_of_fresh h.consistent hfresh
    rw [hpeek] at hsettled hdead hunwritten
    refine h.settle hnot hconsistent ⟨_, _, rfl⟩ (fun _ _ => ⟨rfl, rfl⟩) (hpeek.trans hsettled.symm)
      (fun _ => rfl) ?_ ?_ ?_ rfl
    · intro hyes
      cases hdead.symm.trans hyes
    · rw [hdead]
      rfl
    · rw [hunwritten]
      rfl
  | @removed entry hentry hexpired =>
    obtain ⟨-, -, row, hrow, -⟩ := h.consistent.grounded token entry hentry
    have hsize := SortedMap.size_erase hrow
    have hstart : start.cache.peek token = some entry := hpeek.symm.trans hentry
    refine h.settle hnot hconsistent ⟨_, _, rfl⟩ ?_ ?_ ?_ (fun _ => SortedMap.get?_erase_self _ _)
      ?_ ?_ ?_
    · intro other hne
      exact ⟨SortedMap.get?_erase_of_ne _ hne, server.cache.peek_erase_of_ne hne⟩
    · rw [hstart, settled_of_expired hexpired, SessionCache.peek_erase_self]
    · intro hnone
      cases hstart.symm.trans hnone
    · simp [hstart, isDead, hexpired]
    · simp [hstart, isUnwritten, hexpired]
    · show report.durablePurged + 1 + (SortedMap.erase _ _).size = _
      omega
  | @flushed entry hentry hlive hpending =>
    obtain ⟨rfl, -, row, hrow, -⟩ := h.consistent.grounded token entry hentry
    have hstart : start.cache.peek entry.session.token = some entry := hpeek.symm.trans hentry
    have htidy := h.consistent.tidy
    refine h.settle hnot hconsistent ⟨_, _, rfl⟩ ?_ ?_ ?_ ?_ ?_ ?_ ?_
    · intro other hne
      exact ⟨Table.get?_write_of_ne _ _ hne, htidy.peek_put_of_cached (.persisted _) hentry hne⟩
    · rw [hstart, settled_of_live hlive]
      exact htidy.peek_put_self (.persisted entry.session)
    · intro hnone
      cases hstart.symm.trans hnone
    · intro hdead
      simp [hstart, isDead, hlive] at hdead
    · simp [hstart, isDead, hlive]
    · simp [hstart, isUnwritten, hlive, hpending]
    · show report.durablePurged + (SortedMap.insert _ _ _).size = _
      rw [SortedMap.size_insert hrow]

/-- What is true of a sweep that was stopped: each token holds the live
session that it held before, or none as before. -/
structure Halted (time : Timestamp) (start after : Server) : Prop where
  consistent : Consistent after
  holds : ∀ token session, session.isExpired time = false →
    (Holds token after session ↔ Holds token start session)

/-- No session that is alive at the time is lost or brought back on the
way. -/
theorem Underway.halted (h : Underway time start tokens report server) :
    Halted time start server := by
  refine ⟨h.consistent, ?_⟩
  intro token session hlive
  have hentry := h.entries token
  cases hstart : start.cache.peek token with
  | none =>
    have hpeek : server.cache.peek token = none := by
      rw [hentry, hstart]
      exact ite_self none
    exact holds_congr (h.uncached token hstart) (hpeek.trans hstart.symm)
  | some entry =>
    rw [holds_iff_of_cached hstart]
    rw [hstart] at hentry
    cases hexpired : entry.session.isExpired time with
    | false =>
      -- The entry may be level with its row by now, but has the same session.
      rw [settled_of_live hexpired] at hentry
      split at hentry
      · exact holds_iff_of_cached hentry
      · exact (holds_iff_of_cached hentry).trans Iff.rfl
    | true =>
      refine iff_of_false ?_ ?_
      · intro hholds
        split at hentry
        next =>
          rw [(holds_iff_of_cached hentry).1 hholds] at hlive
          cases hexpired.symm.trans hlive
        next hnot =>
          rw [settled_of_expired hexpired] at hentry
          obtain ⟨row, hrow, -⟩ := (holds_iff_of_not_cached hentry).1 hholds
          have hdead : isDead time (start.cache.peek token) = true := by
            rw [hstart]
            exact hexpired
          cases (h.gone token hnot hdead).symm.trans hrow
      · rintro rfl
        cases hexpired.symm.trans hlive

/-- If an expired entry is gone and its row is not, the row is expired
too. -/
theorem TokenSwept.halted (h : Underway time start tokens report server) {why : Stop}
    (hswept : TokenSwept time token report server (.error why) after) :
    Halted time start after := by
  cases hswept with
  | stopped => exact h.halted
  | @forgotten _ entry hpeek hexpired =>
    refine ⟨h.consistent.erase token, ?_⟩
    intro other session hlive
    rw [← h.halted.holds other session hlive]
    by_cases hother : other = token
    · subst hother
      have hnone : (server.cache.erase other).peek other = none :=
        server.cache.peek_erase_self other
      rw [holds_iff_of_not_cached hnone, holds_iff_of_cached hpeek]
      refine iff_of_false ?_ ?_
      · intro hrow
        obtain rfl : session = entry.onDisk :=
          (h.consistent.grounded other entry hpeek).row.unique hrow
        cases (h.consistent.isExpired_onDisk hpeek hexpired).symm.trans hlive
      · rintro rfl
        cases hexpired.symm.trans hlive
    · exact holds_congr rfl (server.cache.peek_erase_of_ne hother)

/-- The sweep of the tokens that are left settles them, or is stopped. -/
theorem ensures_underway (h : Underway time start tokens report server) (hnodup : tokens.Nodup) :
    (sweepTokens time tokens report).Ensures (fun end? after =>
      match end? with
      | .ok report => Underway time start [] report after
      | .error _ => Halted time start after) server := by
  induction tokens generalizing server report with
  | nil => exact h
  | cons token tokens ih =>
    obtain ⟨hnot, hrest⟩ := List.nodup_cons.1 hnodup
    show Flow.Ensures _ ((sweepToken time token report).bind (sweepTokens time tokens)) server
    rw [Flow.ensures_bind]
    refine (ensures_tokenSwept h.consistent).mono ?_
    intro end? after hswept
    cases end? with
    | error why => exact hswept.halted h
    | ok report' => exact ih (h.next hnot hswept) hrest

/-! ### The expired rows -/

/-- What a sweep leaves, and what it reports. -/
structure Cleaned (time : Timestamp) (start : Server) (report : SweepReport) (after : Server) :
    Prop where
  consistent : Consistent after
  /-- Nothing changes but the sessions and the cache. -/
  frame : ∃ sessions cache, after = { start with database.sessions := sessions, cache }
  /-- No expired session is left in the cache. -/
  entries_live : ∀ token entry, after.cache.peek token = some entry →
    entry.session.isExpired time = false
  /-- No expired session is left in the table. -/
  rows_live : ∀ token row, after.database.sessions.get? token = some row →
    ∃ session, Session.form.decode row = .ok session ∧ session.isExpired time = false
  /-- A live session that was cached is still cached. -/
  cached : ∀ token entry, start.cache.peek token = some entry →
    entry.session.isExpired time = false →
    after.cache.peek token = some (.persisted entry.session)
  /-- A live session that was not cached still has its row, and is still
  not cached. -/
  stored : ∀ token row session, start.cache.peek token = none →
    start.database.sessions.get? token = some row → Session.form.decode row = .ok session →
    session.isExpired time = false →
    after.cache.peek token = none ∧ after.database.sessions.get? token = some row
  /-- The row of each entry is the session of the entry. -/
  level : ∀ token entry, after.cache.peek token = some entry → HasRow token after entry.session
  /-- The live sessions are left, and no others. -/
  holds : ∀ token session, Holds token after session ↔
    Holds token start session ∧ session.isExpired time = false
  cachedRemoved : report.cachedRemoved =
    start.cache.entries.countP fun entry => entry.2.session.isExpired time
  flushed : report.flushed =
    start.cache.entries.countP fun entry => !entry.2.session.isExpired time && entry.2.isPending
  durablePurged :
    report.durablePurged + after.database.sessions.size = start.database.sessions.size

/-- When all tokens are settled, the entries are alive and level with their
rows. So the expired rows can be deleted. -/
theorem Underway.purge (h : Underway time start [] report server) {count : Nat} {sessions : Table}
    (hpurge : server.database.sessions.removeWhere Session.form (·.isExpired time) =
      .ok (count, sessions)) :
    Cleaned time start { report with durablePurged := report.durablePurged + count }
      { server with database.sessions := sessions } := by
  let after : Server := { server with database.sessions := sessions }
  have hkept {token row : String} : after.database.sessions.get? token = some row ↔
      server.database.sessions.get? token = some row ∧
        ∃ session, Session.form.decode row = .ok session ∧ session.isExpired time = false :=
    Table.get?_removeWhere_eq_some_iff hpurge
  have hrow {token : String} {session : Session} : HasRow token after session ↔
      HasRow token server session ∧ session.isExpired time = false := by
    constructor
    · rintro ⟨row, hget, hdecode⟩
      obtain ⟨hbefore, live, hlive, hexpired⟩ := hkept.1 hget
      obtain rfl := Except.ok.inj (hdecode.symm.trans hlive)
      exact ⟨⟨row, hbefore, hdecode⟩, hexpired⟩
    · rintro ⟨⟨row, hget, hdecode⟩, hexpired⟩
      exact ⟨row, hkept.2 ⟨hget, session, hdecode, hexpired⟩, hdecode⟩
  have hentries (token : String) :
      server.cache.peek token = settled time (start.cache.peek token) :=
    h.entries token
  -- An entry that is left was settled, so it is alive and level with its row.
  have hsettled {token : String} {entry : CachedSession}
      (hpeek : server.cache.peek token = some entry) :
      entry.session.isExpired time = false ∧ entry = .persisted entry.session := by
    rw [hentries token] at hpeek
    obtain ⟨before, hbefore, rfl⟩ := Option.map_eq_some_iff.1 hpeek
    obtain ⟨-, hlive⟩ := Option.filter_eq_some_iff.1 hbefore
    exact ⟨Bool.not_eq_true' _ ▸ hlive, rfl⟩
  have hlevel {token : String} {entry : CachedSession}
      (hpeek : server.cache.peek token = some entry) :
      HasRow token after entry.session := by
    obtain ⟨hlive, hpersisted⟩ := hsettled hpeek
    have hbefore := (h.consistent.grounded token entry hpeek).row
    rw [hpersisted] at hbefore
    exact hrow.2 ⟨hbefore, hlive⟩
  refine
    { consistent := ⟨h.consistent.tidy, ?_⟩
      frame := ?_
      entries_live := fun token entry hpeek => (hsettled hpeek).1
      rows_live := fun token row hget => (hkept.1 hget).2
      cached := ?_
      stored := ?_
      level := fun token entry hpeek => hlevel hpeek
      holds := ?_
      cachedRemoved := h.removed
      flushed := h.flushed
      durablePurged := ?_ }
  · intro token entry hpeek
    obtain ⟨htoken, hle, -⟩ := h.consistent.grounded token entry hpeek
    refine ⟨htoken, hle, ?_⟩
    rw [(hsettled hpeek).2, CachedSession.onDisk_persisted]
    exact hlevel hpeek
  · obtain ⟨sessions', cache, hframe⟩ := h.frame
    exact ⟨sessions, cache, by rw [hframe]⟩
  · intro token entry hpeek hlive
    show server.cache.peek token = _
    rw [hentries token, hpeek, settled_of_live hlive]
  · intro token row session hpeek hget hdecode hlive
    refine ⟨?_, hkept.2 ⟨(h.uncached token hpeek).trans hget, session, hdecode, hlive⟩⟩
    show server.cache.peek token = _
    rw [hentries token, hpeek, settled_none]
  · intro token session
    have hafter : Holds token after session ↔
        Holds token server session ∧ session.isExpired time = false := by
      cases hpeek : server.cache.peek token with
      | none =>
        rw [holds_iff_of_not_cached hpeek,
          holds_iff_of_not_cached (show after.cache.peek token = none from hpeek)]
        exact hrow
      | some entry =>
        rw [holds_iff_of_cached hpeek,
          holds_iff_of_cached (show after.cache.peek token = some entry from hpeek)]
        exact ⟨fun heq => ⟨heq, heq ▸ (hsettled hpeek).1⟩, And.left⟩
    rw [hafter]
    exact and_congr_left fun hlive => h.halted.holds token session hlive
  · have hsize := Table.size_removeWhere hpurge
    have hbefore := h.purged
    show report.durablePurged + count + SortedMap.size sessions = _
    omega

/-- What a sweep comes to, whichever of its calls fail. -/
theorem ensures_sweep_exact (h : Consistent start) (time : Timestamp) :
    (sweep time).Ensures (fun end? after =>
      match end? with
      | .ok report => Cleaned time start report after
      | .error _ => Halted time start after) start := by
  have hnodup : (start.cache.staleTokens time).Nodup :=
    h.tidy.distinct.sublist (List.filter_sublist.map _)
  show Flow.Ensures _ ((sweepTokens time (start.cache.staleTokens time) {}).bind _) start
  rw [Flow.ensures_bind]
  refine (ensures_underway (underway_start h time) hnodup).mono ?_
  intro end? server hunderway
  cases end? with
  | error why => exact hunderway
  | ok report =>
    refine ⟨fun why => hunderway.halted, ?_⟩
    intro count database hrun
    obtain ⟨sessions, hpurge, rfl⟩ := Call.of_run_deleteExpiredSessions hrun
    exact hunderway.purge hpurge

/-! ### A sweep comes to its end -/

/-- Every row of the table of sessions can be read. -/
def RowsRead (sessions : Table) : Prop :=
  ∀ token row, sessions.get? token = some row → ∃ session, Session.form.decode row = .ok session

theorem RowsRead.erase {sessions : Table} (h : RowsRead sessions) (token : String) :
    RowsRead (SortedMap.erase sessions token) := by
  intro other row hrow
  rw [SortedMap.get?_erase] at hrow
  split at hrow
  · cases hrow
  · exact h other row hrow

theorem RowsRead.write {sessions : Table} (h : RowsRead sessions) (session : Session) :
    RowsRead (sessions.write Session.form session.token session) := by
  intro other row hrow
  by_cases hother : other = session.token
  · subst hother
    obtain rfl := Option.some.inj ((Table.get?_write_self _ _ _).symm.trans hrow)
    exact ⟨session, Session.decode_encode _⟩
  · exact h other row ((Table.get?_write_of_ne _ _ hother).symm.trans hrow)

/-- The sweep of a token comes to its end, and writes no row that cannot be
read. -/
theorem yields_sweepToken (h : RowsRead server.database.sessions) (time : Timestamp)
    (token : String) (report : SweepReport) :
    (sweepToken time token report).Yields (fun _ after => RowsRead after.database.sessions)
      server := by
  rw [sweepToken_eq]
  apply Flow.Yields.locked
  refine ⟨server.cache.peek token, server, rfl, ?_⟩
  show Flow.Yields _ (sweepEntry time token report (server.cache.peek token)) server
  cases server.cache.peek token with
  | none => exact h
  | some entry =>
    show Flow.Yields _ (if entry.session.isExpired time = true then _
      else if entry.isPending = true then _ else _) server
    split
    next =>
      refine ⟨_, _, rfl, .call rfl ?_⟩
      show Flow.Yields _ (if server.database.sessions.contains token = true then _ else _) _
      split
      next => exact h.erase token
      next => exact h.erase token
    next =>
      split
      next =>
        cases hrow : server.database.sessions.get? entry.session.token with
        | none =>
          have hrun : (Call.updateSession entry.session).run server.database =
              .ok (false, server.database) := if_neg (by simp [SortedMap.contains, hrow])
          exact .call hrun ⟨_, _, rfl, h⟩
        | some row =>
          exact .call (Call.run_updateSession entry.session hrow) ⟨_, _, rfl, h.write entry.session⟩
      next => exact h

/-- So does the sweep of several tokens. -/
theorem yields_sweepTokens (h : RowsRead server.database.sessions) (time : Timestamp)
    (tokens : List String) (report : SweepReport) :
    (sweepTokens time tokens report).Yields (fun _ after => RowsRead after.database.sessions)
      server := by
  induction tokens generalizing server report with
  | nil => exact h
  | cons token tokens ih =>
    show Flow.Yields _ ((sweepToken time token report).bind (sweepTokens time tokens)) server
    refine .bind ((yields_sweepToken h time token report).mono ?_)
    intro report' after hafter
    exact ih hafter report'

/-- A sweep comes to its end where every row can be read. -/
theorem yields_sweep (h : RowsRead server.database.sessions) (time : Timestamp) :
    (sweep time).Yields (fun _ _ => True) server := by
  refine ⟨server.cache.staleTokens time, server, rfl, ?_⟩
  show Flow.Yields _ ((sweepTokens time (server.cache.staleTokens time) {}).bind _) server
  refine .bind ((yields_sweepTokens h time _ {}).mono ?_)
  intro report after hafter
  obtain ⟨⟨count, sessions⟩, hpurge⟩ :=
    Table.exists_removeWhere hafter fun session : Session => session.isExpired time
  have hrun : (Call.deleteExpiredSessions time).run after.database =
      .ok (count, { after.database with sessions }) := by
    simp only [Call.run, hpurge]
    rfl
  exact .call hrun trivial

/-- There is nothing left to do for another sweep at the same time. -/
theorem Cleaned.yields_again (h : Cleaned time start report after) :
    (sweep time).Yields (fun report last => report = {} ∧ last = after) after := by
  have hstale : after.cache.staleTokens time = [] := by
    unfold SessionCache.staleTokens
    rw [List.map_eq_nil_iff, List.filter_eq_nil_iff]
    intro entry hmem
    have hpeek := h.consistent.tidy.mem_entries_iff.1 hmem
    -- The row has the expiry that the entry remembers, and that of the entry.
    have hlevel := (h.consistent.grounded _ _ hpeek).row.unique (h.level _ _ hpeek)
    have hexpiry : entry.2.session.expiresAt = entry.2.persistedUntil :=
      congrArg Session.expiresAt hlevel
    refine Bool.eq_false_iff.1 (CachedSession.isStale_eq_false_iff.2 ⟨h.entries_live _ _ hpeek, ?_⟩)
    exact decide_eq_false (Timestamp.not_lt.2 (hexpiry ▸ Timestamp.le_refl _))
  have hpurge : after.database.sessions.removeWhere Session.form (·.isExpired time) =
      .ok (0, after.database.sessions) := by
    refine Table.removeWhere_of_none ?_ ?_
    · intro token row hget
      obtain ⟨session, hdecode, -⟩ := h.rows_live token row hget
      exact ⟨session, hdecode⟩
    · intro token row hget
      obtain ⟨session, hdecode, hlive⟩ := h.rows_live token row hget
      simp [Table.rowSatisfies, hdecode, hlive]
  have hrun : (Call.deleteExpiredSessions time).run after.database = .ok (0, after.database) := by
    simp only [Call.run, hpurge]
    rfl
  refine ⟨after.cache.staleTokens time, after, rfl, ?_⟩
  rw [hstale]
  exact .call hrun ⟨rfl, rfl⟩

/-! ### Sweeps that are performed -/

/-- Ids that are given back make no difference. -/
theorem Halted.withIds (h : Halted time start after) (idsDrawn : Nat) :
    Halted time start { after with idsDrawn } := by
  refine ⟨⟨h.consistent.tidy, ?_⟩, ?_⟩
  · intro token entry hpeek
    obtain ⟨htoken, hle, hrow⟩ := h.consistent.grounded token entry hpeek
    exact ⟨htoken, hle, hrow⟩
  · intro token session hlive
    rw [← h.holds token session hlive]
    exact holds_congr rfl rfl

/-- A sweep that is performed cleans up, or is halted. -/
theorem perform_sweep_exact (h : Consistent start) (time : Timestamp) {weather : Weather}
    (hclear : weather.Clear) (limit : Option Nat) :
    (∀ report, (start.perform weather limit (sweep time)).1 = .ok report →
      Cleaned time start report (start.perform weather limit (sweep time)).2) ∧
    (∀ why, (start.perform weather limit (sweep time)).1 = .error why →
      Halted time start (start.perform weather limit (sweep time)).2) := by
  have hswept := (ensures_sweep_exact h time).perform (failStop_sweep time)
    (fun _ _ idsDrawn hhalted => hhalted.withIds idsDrawn) hclear limit
  generalize start.perform weather limit (sweep time) = swept at hswept
  obtain ⟨end?, after⟩ := swept
  constructor
  · rintro report rfl
    exact hswept
  · rintro why rfl
    exact hswept

end

/-- A sweep at any time comes to its end if all its calls are answered and
all rows of sessions can be read. Then it leaves the sessions that are
alive at the time and no others, each in the layers where it was, and it
reports what it removed and what it wrote. Another sweep at the same time
has nothing to do. If a call fails, each token holds the live session that
it held before, and a sweep that comes to its end later leaves what this
one would have left. -/
theorem sweep_exact {start : Server} (h : Consistent start) (time : Timestamp) {weather : Weather}
    (hclear : weather.Clear) (limit : Option Nat) :
    let swept := start.perform weather limit (sweep time)
    (RowsRead start.database.sessions → weather.Spares limit {} ((sweep time).calls start) →
      ∃ report, swept.1 = .ok report) ∧
    (∀ report, swept.1 = .ok report → Cleaned time start report swept.2 ∧
      ∀ (again : Weather) (limit : Option Nat),
        again.Spares limit {} ((sweep time).calls swept.2) →
        swept.2.perform again limit (sweep time) = (.ok {}, swept.2)) ∧
    (∀ why, swept.1 = .error why → Halted time start swept.2 ∧
      ∀ (again : Weather) (limit : Option Nat) (report : SweepReport), again.Clear →
        (swept.2.perform again limit (sweep time)).1 = .ok report →
        ∀ token session, Holds token (swept.2.perform again limit (sweep time)).2 session ↔
          Holds token start session ∧ session.isExpired time = false) := by
  intro swept
  obtain ⟨hcleaned, hhalted⟩ := perform_sweep_exact h time hclear limit
  refine ⟨?_, ?_, ?_⟩
  · intro hread hspares
    obtain ⟨report, hok, -⟩ := (yields_sweep hread time).perform
    exact ⟨report, by rw [← hok, ← Flow.perform_of_spares hspares]⟩
  · intro report hok
    refine ⟨hcleaned report hok, ?_⟩
    intro again limit hspares
    obtain ⟨report', hagain, rfl, hsame⟩ := (hcleaned report hok).yields_again.perform
    rw [Flow.perform_of_spares hspares]
    exact Prod.ext hagain hsame
  · intro why hstop
    refine ⟨hhalted why hstop, ?_⟩
    intro again limit report hagain hok token session
    have hlast := (perform_sweep_exact (hhalted why hstop).consistent time hagain limit).1 report
        hok
    rw [hlast.holds token session]
    exact and_congr_left fun hlive => (hhalted why hstop).holds token session hlive

/-- Where the cache and the table agree but for renewals, every entry has
its row. -/
theorem Coherent.consistent {ttl : Duration} (httl : 0 ≤ ttl) {server : Server}
    (h : Coherent ttl server) : Consistent server := by
  refine ⟨h.tidy, ?_⟩
  intro token entry hpeek
  obtain ⟨hrow, htoken, hahead⟩ := h.of_finds httl (.cached hpeek)
  exact ⟨htoken, hahead.persisted_le, _, hrow, Session.decode_encode _⟩

/-- A session that is over a minute after the beginning of 1970. -/
def mayfly (token : String) : Session :=
  { (default : Session) with
    token
    expiresAt := (⟨60000000000, Timestamp.inCalendar_minute⟩ : Instant) }

/-- Two sessions are added, and one of them is looked up after 20 seconds.
Its renewal stays in the cache. -/
def mayflies : Server :=
  afterIncidents (60 * Duration.second) (Life.start {} 2 0).server
    [.add (fun _ => none) (mayfly "a"), .add (fun _ => none) (mayfly "b"),
      .setClock 20000000000, .get (fun _ => none) "b"]

/-- After 70 seconds both rows are expired, but only one of the sessions
is. -/
theorem sweep_exact_of_mayflies :
    let time : Timestamp := (⟨70000000000, by decide⟩ : Instant)
    let swept := mayflies.perform .fair none (sweep time)
    ∃ report, swept.1 = .ok report ∧ report.cachedRemoved = 1 ∧ report.flushed = 1 ∧
      ∃ session, Holds "b" swept.2 session ∧ HasRow "b" swept.2 session := by
  intro time
  have httl : (0 : Duration) ≤ 60 * Duration.second := by decide
  have hcoherent : Coherent (60 * Duration.second) mayflies :=
    coherent_afterIncidents httl _ (coherent_start _ _ _ _)
  have hread : RowsRead mayflies.database.sessions := by
    intro token row hrow
    obtain ⟨session, hdecode, -⟩ := hcoherent.session_of_row hrow
    exact ⟨session, hdecode⟩
  obtain ⟨hends, hcleaned, -⟩ :=
    sweep_exact (hcoherent.consistent httl) time Weather.clear_fair none
  obtain ⟨report, hok⟩ := hends hread (Flow.spares_fair _ _)
  have hclean := (hcleaned report hok).1
  have hpeek := hclean.cached "b" _ rfl (by decide)
  exact ⟨report, hok, hclean.cachedRemoved.trans (by decide +kernel),
    hclean.flushed.trans (by decide +kernel), _, .cached hpeek, hclean.level _ _ hpeek⟩

end Gatekeeper.SessionStore

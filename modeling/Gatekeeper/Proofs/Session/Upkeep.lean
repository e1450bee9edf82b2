import Gatekeeper.Proofs.Flow
import Gatekeeper.Proofs.Session.Tenure

/-!
# `Gatekeeper.Proofs.Session.Upkeep`: additions, removals and sweeps keep all tokens

`ensures_add`, `ensures_remove` and `ensures_sweep` say that every token
stays kept, whichever calls fail. A sweep needs more than that to go
through: by the time it deletes the expired rows, no entry of the cache
may be ahead of its row. So `Swept` carries along which entries are left
to look at, and `Keeps.purge` uses that there is none in the end.
-/

set_option autoImplicit false

namespace Gatekeeper.SessionStore

open Gatekeeper.Flow (call take locked)

/-! ### Additions and removals -/

/-- What an addition notes. -/
def noteAddition (session : Session) : Except Stop Unit → List Note → List Note
  | .ok (), notes => .added session :: notes
  | .error _, notes => notes

/-- What a removal notes. -/
def noteRemoval (token : String) : Except Stop Bool → List Note → List Note
  | .ok _, notes => .removed token :: notes
  | .error _, notes => notes

/-- An addition keeps all, and a failed one changes nothing. -/
theorem ensures_add {ttl : Duration} (httl : 0 ≤ ttl) {notes : List Note} {server : Server}
    (hkeeps : Keeps ttl notes server) (session : Session) :
    (add session).Ensures (fun end? after => after.clock = server.clock ∧
      Keeps ttl (noteAddition session end? notes) after) server := by
  apply Flow.ensures_locked
  show (∀ why, server.clock = server.clock ∧ Keeps ttl notes server) ∧ _
  refine ⟨fun _ => ⟨rfl, hkeeps⟩, ?_⟩
  intro _ _ hrun
  cases hrun
  have hlives : Tenure.LivesTo ttl ⟨session, none⟩ session.expiresAt := rfl
  refine ⟨rfl, hkeeps.write httl ⟨session, none⟩ ?_ ?_ hlives (fun _ hlast => nomatch hlast)⟩
  · intro other hne
    exact if_neg hne.symm
  · exact if_pos rfl

/-- A removal keeps all, and a failed one takes no more than the entry. -/
theorem ensures_remove {ttl : Duration} {notes : List Note} {server : Server}
    (hkeeps : Keeps ttl notes server) (token : String) :
    (remove token).Ensures (fun end? after => after.clock = server.clock ∧
      Keeps ttl (noteRemoval token end? notes) after) server := by
  apply Flow.ensures_locked
  -- The entry is taken out first, and stays out if the deletion fails.
  have hforget := hkeeps.erase token
  show (∀ why, server.clock = server.clock ∧ Keeps ttl notes
    { server with cache := server.cache.erase token }) ∧ _
  refine ⟨fun _ => ⟨rfl, hforget⟩, ?_⟩
  intro _ _ hrun
  cases hrun
  refine ⟨rfl, hforget.change rfl token ?_ ?_ (fun _ _ => .inr rfl) ?_⟩
  · intro other hne
    simp only [noteRemoval, tenure?, if_neg hne.symm]
  · intro other hne
    exact SortedMap.get?_erase_of_ne _ hne
  · simp only [noteRemoval, tenure?, if_true]
    show Kept _ _ none (SortedMap.get? (SortedMap.erase _ token) token)
      ((server.cache.erase token).peek token)
    rw [SortedMap.get?_erase_self, SessionCache.peek_erase_self]
    exact .absent

/-! ### Sweeps -/

/-- A row that expires by a time may go from then on. -/
theorem Lag.ended {ttl : Duration} {tenure : Tenure} {expiry persisted : Timestamp} {now : Instant}
    (lag : Lag ttl tenure expiry persisted) (hexpired : persisted ≤ (now : Timestamp)) :
    ∀ time : Instant, now.nanos ≤ time.nanos → ¬ tenure.MustLive ttl time := by
  intro time htime hmust
  have hlt := (Timestamp.ofInstant_lt_iff _ _).1 (lag.lt_persisted hmust)
  have hle := (Timestamp.le_ofInstant_iff _ _).1 hexpired
  omega

/-- What a part of a sweep brings about. If it comes to its end, only
entries of `tokens` are left for the rest of the sweep to look at. -/
structure Swept (ttl : Duration) (notes : List Note) (time : Timestamp) (tokens : List String)
    (server : Server) (end? : Except Stop SweepReport) (after : Server) : Prop where
  clock : after.clock = server.clock
  keeps : Keeps ttl notes after
  pending : ∀ report, end? = .ok report → ∀ token entry, after.cache.peek token = some entry →
    entry.isStale time = true → token ∈ tokens

/-- What a sweep does with the entry of a token. -/
def sweepEntry (time : Timestamp) (token : String) (report : SweepReport) :
    Option CachedSession → Flow SweepReport
  | none => return report
  | some entry => do
    if entry.session.isExpired time then
      let _ ← take (.forget token)
      let report := { report with cachedRemoved := report.cachedRemoved + 1 }
      if ← call (.deleteSession token) then
        return { report with durablePurged := report.durablePurged + 1 }
      else return report
    else if entry.isPending then
      if ← call (.updateSession entry.session) then
        take (.remember (.persisted entry.session))
        return { report with flushed := report.flushed + 1 }
      else
        let _ ← take (.forget token)
        return report
    else return report

theorem sweepToken_eq (time : Timestamp) (token : String) (report : SweepReport) :
    sweepToken time token report =
      locked token ((take (.peek token)).bind (sweepEntry time token report)) := by
  unfold sweepToken
  congr 1
  show Flow.step _ _ _ = Flow.step _ _ _
  congr 1
  funext cached
  cases cached <;> rfl

section Token

variable {ttl : Duration} {notes : List Note} {server : Server} {now : Instant} {token : String}
  {tokens : List String} {tenure : Tenure} {expiry persisted : Timestamp}

/-- A change at one token that leaves nothing to look at there is a part of
a sweep. -/
theorem Swept.of_token {end? : Except Stop SweepReport} {after : Server}
    (hpending : ∀ other entry, server.cache.peek other = some entry →
      entry.isStale now = true → other ∈ token :: tokens)
    (hclock : after.clock = server.clock) (hkeeps : Keeps ttl notes after)
    (hother : ∀ other, other ≠ token → after.cache.peek other = none ∨
      after.cache.peek other = server.cache.peek other)
    (hdone : ∀ entry, after.cache.peek token = some entry → entry.isStale now = false) :
    Swept ttl notes now tokens server end? after := by
  refine ⟨hclock, hkeeps, ?_⟩
  intro _ _ other entry hentry hstale
  by_cases hne : other = token
  · rw [hne] at hentry
    rw [hdone entry hentry] at hstale
    cases hstale
  · rcases hother other hne with hlost | hsame
    · rw [hlost] at hentry
      cases hentry
    · rw [hsame] at hentry
      exact (List.mem_cons.1 (hpending other entry hentry hstale)).resolve_left hne

/-- The row of an expired session may be deleted once its entry is taken
out. -/
theorem Keeps.delete (hkeeps : Keeps ttl notes server) (hclock : now.nanos = server.clock)
    (htenure : tenure? token notes = some tenure) (lag : Lag ttl tenure expiry persisted)
    (hexpired : expiry ≤ (now : Timestamp)) :
    Keeps ttl notes { server with
      database.sessions := SortedMap.erase server.database.sessions token
      cache := server.cache.erase token } := by
  refine (hkeeps.erase token).change rfl token (fun _ _ => rfl) ?_ (fun _ _ => .inr rfl) ?_
  · intro other hne
    exact SortedMap.get?_erase_of_ne _ hne
  · show Kept _ _ _ (SortedMap.get? (SortedMap.erase _ token) token)
      ((server.cache.erase token).peek token)
    rw [SortedMap.get?_erase_self, SessionCache.peek_erase_self, htenure]
    have hpast : persisted ≤ (now : Timestamp) := Timestamp.le_trans lag.persisted_le hexpired
    refine .ended fun time htime => lag.ended hpast time ?_
    rw [hclock]
    exact htime

/-- A sweep of an expired session keeps all. -/
theorem ensures_sweepEntry_expired (hkeeps : Keeps ttl notes server)
    (hclock : now.nanos = server.clock)
    (hpending : ∀ other entry, server.cache.peek other = some entry →
      entry.isStale now = true → other ∈ token :: tokens) (report : SweepReport)
    (htenure : tenure? token notes = some tenure) (lag : Lag ttl tenure expiry persisted)
    (hexpired : (tenure.session.lastingTo expiry).isExpired now = true) :
    (sweepEntry now token report (some ⟨tenure.session.lastingTo expiry, persisted⟩)).Ensures
      (Swept ttl notes now tokens server) server := by
  have hothers : ∀ other, other ≠ token → (server.cache.erase token).peek other = none ∨
      (server.cache.erase token).peek other = server.cache.peek other :=
    fun other hne => .inr (server.cache.peek_erase_of_ne hne)
  have hgone : ∀ entry, (server.cache.erase token).peek token = some entry →
      entry.isStale now = false := by
    intro entry hentry
    rw [SessionCache.peek_erase_self] at hentry
    cases hentry
  show Flow.Ensures _ (if (tenure.session.lastingTo expiry).isExpired now = true then _ else _)
    server
  rw [if_pos hexpired]
  show (∀ why, Swept ttl notes now tokens server (.error why)
    { server with cache := server.cache.erase token }) ∧ _
  refine ⟨fun why => .of_token hpending rfl (hkeeps.erase token) hothers hgone,
    fun found db hrun => ?_⟩
  cases hrun
  have hdeleted := hkeeps.delete hclock htenure lag (of_decide_eq_true hexpired)
  show Flow.Ensures _ (if server.database.sessions.contains token = true then _ else _) _
  split
  next => exact .of_token hpending rfl hdeleted hothers hgone
  next => exact .of_token hpending rfl hdeleted hothers hgone

/-- A sweep of a live session that is ahead of its row keeps all. -/
theorem ensures_sweepEntry_pending (httl : 0 ≤ ttl) (hkeeps : Keeps ttl notes server)
    (hpending : ∀ other entry, server.cache.peek other = some entry →
      entry.isStale now = true → other ∈ token :: tokens) (report : SweepReport)
    (htenure : tenure? token notes = some tenure) (lag : Lag ttl tenure expiry persisted)
    (hseen : ∀ last, tenure.lastSeen = some last → last.nanos ≤ server.clock)
    (hrow : server.database.sessions.get? token =
      some (Session.form.encode (tenure.session.lastingTo persisted)))
    (hlive : ¬ (tenure.session.lastingTo expiry).isExpired now = true)
    (hahead : CachedSession.isPending ⟨tenure.session.lastingTo expiry, persisted⟩ = true) :
    (sweepEntry now token report (some ⟨tenure.session.lastingTo expiry, persisted⟩)).Ensures
      (Swept ttl notes now tokens server) server := by
  obtain rfl := token_of_tenure? htenure
  show Flow.Ensures _ (if (tenure.session.lastingTo expiry).isExpired now = true then _
    else if CachedSession.isPending ⟨tenure.session.lastingTo expiry, persisted⟩ = true then _
    else _) server
  rw [if_neg hlive, if_pos hahead]
  show (∀ why, Swept ttl notes now tokens server (.error why) server) ∧ _
  refine ⟨fun why => ⟨rfl, hkeeps, fun _ hend => by cases hend⟩, ?_⟩
  intro found db hrun
  rw [Call.run_updateSession (tenure.session.lastingTo expiry) hrow] at hrun
  cases hrun
  refine .of_token hpending rfl
    (hkeeps.write httl tenure (fun _ _ => rfl) htenure lag.livesTo hseen) ?_ ?_
  · intro other hne
    exact SessionCache.peek_put_of_ne _ _ hne
  · -- The entry that is put in, if there is room for it, is level with the row.
    intro entry hentry
    rcases SessionCache.peek_put_self server.cache
      (.persisted (tenure.session.lastingTo expiry)) with hnone | hsome
    · cases hentry.symm.trans hnone
    · obtain rfl := Option.some.inj (hentry.symm.trans hsome)
      exact CachedSession.isStale_eq_false_iff.2
        ⟨Bool.eq_false_iff.2 hlive, decide_eq_false (Int.lt_irrefl _)⟩

/-- A sweep of one token keeps all and leaves nothing to look at there. -/
theorem ensures_sweepToken (httl : 0 ≤ ttl) (hkeeps : Keeps ttl notes server)
    (hclock : now.nanos = server.clock)
    (hpending : ∀ other entry, server.cache.peek other = some entry →
      entry.isStale now = true → other ∈ token :: tokens) (report : SweepReport) :
    (sweepToken now token report).Ensures (Swept ttl notes now tokens server) server := by
  rw [sweepToken_eq]
  apply Flow.ensures_locked
  show Flow.Ensures _ (sweepEntry now token report (server.cache.peek token)) server
  cases hpeek : server.cache.peek token with
  | none =>
    refine .of_token hpending rfl hkeeps (fun _ _ => .inr rfl) ?_
    intro entry hentry
    rw [hpeek] at hentry
    cases hentry
  | some entry =>
    have hkept := hkeeps token
    rw [hpeek] at hkept
    obtain ⟨tenure, expiry, persisted, htenure, lag, hseen, hrow, rfl⟩ := hkept.of_entry
    by_cases hexpired : (tenure.session.lastingTo expiry).isExpired now = true
    · exact ensures_sweepEntry_expired hkeeps hclock hpending report htenure lag hexpired
    by_cases hahead : CachedSession.isPending ⟨tenure.session.lastingTo expiry, persisted⟩ = true
    · exact ensures_sweepEntry_pending httl hkeeps hpending report htenure lag hseen hrow
        hexpired hahead
    · -- The entry is alive and level with its row, so it stays as it is.
      show Flow.Ensures _ (if (tenure.session.lastingTo expiry).isExpired now = true then _
        else if CachedSession.isPending ⟨tenure.session.lastingTo expiry, persisted⟩ = true then _
        else _) server
      rw [if_neg hexpired, if_neg hahead]
      refine .of_token hpending rfl hkeeps (fun _ _ => .inr rfl) ?_
      intro entry hentry
      rw [hpeek] at hentry
      obtain rfl := Option.some.inj hentry
      exact CachedSession.isStale_eq_false_iff.2
        ⟨Bool.eq_false_iff.2 hexpired, Bool.eq_false_iff.2 hahead⟩

end Token

/-- A sweep of several tokens keeps all and leaves nothing to look at. -/
theorem ensures_sweepTokens {ttl : Duration} (httl : 0 ≤ ttl) {notes : List Note} {server : Server}
    (hkeeps : Keeps ttl notes server) {now : Instant} (hclock : now.nanos = server.clock)
    {tokens : List String}
    (hpending : ∀ token entry, server.cache.peek token = some entry →
      entry.isStale now = true → token ∈ tokens) (report : SweepReport) :
    (sweepTokens now tokens report).Ensures (Swept ttl notes now [] server) server := by
  induction tokens generalizing server report with
  | nil => exact ⟨rfl, hkeeps, fun _ _ => hpending⟩
  | cons token tokens ih =>
    show Flow.Ensures _ ((sweepToken now token report).bind (sweepTokens now tokens)) server
    rw [Flow.ensures_bind]
    refine (ensures_sweepToken httl hkeeps hclock hpending report).mono ?_
    intro end? after hswept
    cases end? with
    | error why => exact ⟨hswept.clock, hswept.keeps, fun _ hend => by cases hend⟩
    | ok report =>
      have hrest := ih hswept.keeps (hclock.trans hswept.clock.symm)
        (hswept.pending report rfl) report
      exact hrest.mono fun _ _ h => ⟨h.clock.trans hswept.clock, h.keeps, h.pending⟩

/-- Expired rows may be deleted once no entry has to be looked at. -/
theorem Keeps.purge {ttl : Duration} {notes : List Note} {server : Server}
    (hkeeps : Keeps ttl notes server) {now : Instant} (hclock : now.nanos = server.clock)
    (hfresh : ∀ token entry, server.cache.peek token = some entry → entry.isStale now = false)
    {count : Nat} {sessions : Table}
    (hpurge : server.database.sessions.removeWhere Session.form (·.isExpired now) =
      .ok (count, sessions)) :
    Keeps ttl notes { server with database.sessions := sessions } := by
  intro token
  show Kept _ _ _ (SortedMap.get? sessions token) (server.cache.peek token)
  rw [Table.get?_removeWhere hpurge]
  have hkept := hkeeps token
  have hfresh := hfresh token
  generalize tenure? token notes = tenure at hkept
  generalize SortedMap.get? server.database.sessions token = row at hkept
  generalize server.cache.peek token = entry? at hkept hfresh
  cases hkept with
  | absent => exact .absent
  | ended h => exact .ended h
  | @held tenure expiry persisted entry? lag hseen hentry =>
    have hrow : Table.rowSatisfies Session.form (·.isExpired now)
        (Session.form.encode (tenure.session.lastingTo persisted)) =
          decide (persisted ≤ (now : Timestamp)) := by
      unfold Table.rowSatisfies
      rw [Session.decode_encode]
      rfl
    rw [Option.filter_some, hrow]
    by_cases hexpired : persisted ≤ (now : Timestamp)
    · -- An entry would be alive and no later than its row, so there is none.
      have hnone : entry? = none := by
        refine hentry.resolve_right ?_
        intro hsome
        have hstale := hfresh _ hsome
        unfold CachedSession.isStale at hstale
        rw [Bool.or_eq_false_iff] at hstale
        have hlive : (now : Timestamp) < expiry :=
          Timestamp.not_le.1 (of_decide_eq_false hstale.1)
        have hlevel : expiry ≤ persisted := Timestamp.not_lt.1 (of_decide_eq_false hstale.2)
        exact Timestamp.not_le.2 hlive (Timestamp.le_trans hlevel hexpired)
      rw [decide_eq_true hexpired, hnone]
      refine .ended fun time htime => lag.ended hexpired time ?_
      rw [hclock]
      exact htime
    · rw [decide_eq_false hexpired]
      exact .held lag hseen hentry

/-- A sweep at the time of the clock keeps all. -/
theorem ensures_sweep {ttl : Duration} (httl : 0 ≤ ttl) {notes : List Note} {server : Server}
    (hkeeps : Keeps ttl notes server) {now : Instant} (hnow : server.now? = some now) :
    (sweep now).Ensures (fun _ after => after.clock = server.clock ∧ Keeps ttl notes after)
      server := by
  have hclock := Server.nanos_of_now? hnow
  show Flow.Ensures _ ((sweepTokens now (server.cache.staleTokens now) {}).bind _) server
  rw [Flow.ensures_bind]
  refine (ensures_sweepTokens httl hkeeps hclock
    (fun _ _ => SessionCache.mem_staleTokens) {}).mono fun end? after hswept => ?_
  cases end? with
  | error why => exact ⟨hswept.clock, hswept.keeps⟩
  | ok report =>
    show (∀ why, after.clock = server.clock ∧ Keeps ttl notes after) ∧ _
    refine ⟨fun _ => ⟨hswept.clock, hswept.keeps⟩, ?_⟩
    intro count db hrun
    obtain ⟨sessions, hpurge, rfl⟩ := Call.of_run_deleteExpiredSessions hrun
    -- Every entry that was to be looked at has been, so rows may go.
    refine ⟨hswept.clock, hswept.keeps.purge (hclock.trans hswept.clock.symm) ?_ hpurge⟩
    intro token entry hentry
    cases hstale : entry.isStale now with
    | false => rfl
    | true => exact absurd (hswept.pending report rfl token entry hentry hstale) List.not_mem_nil

end Gatekeeper.SessionStore

import Gatekeeper.Proofs.Session.Sweep

/-!
# `Gatekeeper.Proofs.Session.Writes`: renewals are written rarely

A look-up renews a session in memory, and now and then in its row. `Flow.writes`
lists what an operation writes, and `Flow.Records` tells it along the
steps. `Renewal` says what a look-up can come to in this regard: it writes
nothing, or it moves the expiry of the row to the full span from now on,
which is more than half a span away.

Such a row is `Lasting` until then. Evictions, restarts and look-ups of
other tokens do not touch it, removals and purges delete it, and a sweep
can only move its expiry further on (`TokenSwept.lasting`). So a look-up
has to come half a span later to write again.

`renewals_rare` is the main result.
-/

set_option autoImplicit false

namespace Gatekeeper

/-! ### What a flow writes -/

/-- The call that a step makes, if the call may change a table. -/
def Step.writes : Step → List Call
  | .call c => if c.reads then [] else [c]
  | _ => []

namespace Flow

variable {α : Type} {post post' : List Call → Except Stop α → Server → Prop} {flow : Flow α}
  {server : Server}

/-- The calls of a flow that may change a table and are answered. -/
def writes (weather : Weather) (limit : Option Nat) (flow : Flow α) (server : Server) : List Call :=
  (flow.answered weather limit {} server).flatMap fun answered => answered.1.writes

/-- However the calls of the flow fare, what it writes, its end and the
state after it satisfy `post`. -/
def Records : Flow α → (List Call → Except Stop α → Server → Prop) → Server → Prop
  | done a, post, server => post [] (.ok a) server
  | stop why, post, server => post [] (.error why) server
  | step s next _, post, server =>
    s.Ensures server
      (fun answer after => (next answer).Records (fun more => post (s.writes ++ more)) after)
      fun why => post [] (.error why) server

namespace Records

theorem mono (h : flow.Records post server)
    (himp : ∀ writes end? after, post writes end? after → post' writes end? after) :
    flow.Records post' server := by
  induction flow generalizing post post' server with
  | done | stop => exact himp _ _ _ h
  | step s next failed ih _ =>
    exact Step.Ensures.mono h (fun answer after hnext => ih answer hnext fun more => himp _)
      fun why => himp _ _ _

/-- The lock of a token writes nothing. -/
theorem locked (h : flow.Records post server) (token : String) :
    (Flow.locked token flow).Records post server := by
  show (flow.bind fun a => (take (.unlock token)).bind fun _ => .done a).Records post server
  induction flow generalizing post server with
  | done | stop => exact h
  | step s next failed ih _ => exact Step.Ensures.mono h (fun answer after => ih answer) fun _ => id

/-- What is recorded of a flow holds when it is performed. -/
theorem perform (h : flow.Records post server) (hfail : flow.FailStop)
    (hids : ∀ writes why after idsDrawn, post writes (.error why) after →
      post writes (.error why) { after with idsDrawn })
    {weather : Weather} (hclear : weather.Clear) (limit : Option Nat) :
    post (flow.writes weather limit server) (server.perform weather limit flow).1
      (server.perform weather limit flow).2 := by
  have hrun (progress : Progress) :
      post ((flow.answered weather limit progress server).flatMap fun answered => answered.1.writes)
        ((flow.run weather limit progress server).1.map (·.1))
        (flow.run weather limit progress server).2 := by
    clear hids
    induction flow generalizing post progress server with
    | done | stop => exact h
    | step s next failed ih _ =>
      cases hanswer : s.run weather limit progress server with
      | ok reached =>
        unfold Flow.run answered
        rw [hanswer]
        exact ih _ (Step.Ensures.answered h hclear hanswer) (hfail.1 _) _
      | error halt =>
        rw [hfail.run_of_halt hanswer, hfail.answered_of_halt hanswer]
        exact Step.Ensures.halted h hanswer
  have hend := hrun {}
  unfold Server.perform
  split
  next heq => rw [heq] at hend; exact hend
  next heq => rw [heq] at hend; exact hids _ _ _ _ hend

end Records

end Flow

namespace SessionStore

variable {ttl : Duration} {token : String} {server after : Server} {entry : CachedSession}

/-! ### What a look-up writes -/

/-- A look-up of the token writes nothing and leaves the row as it is, or
it writes once: the expiry of the row moves to the full span from now on,
by more than half of the span. -/
inductive Renewal (ttl : Duration) (token : String) (server : Server) : List Call → Server → Prop
  | unwritten {after : Server}
      (hrow : after.database.sessions.get? token = server.database.sessions.get? token) :
      Renewal ttl token server [] after
  | written {session : Session} {now renewedUntil : Instant} {after : Server}
      (htoken : session.token = token)
      (hold : server.database.sessions.get? token = some (Session.form.encode session))
      (hnow : server.now? = some now) (hadd : now.add? ttl = some renewedUntil)
      (hdue : ttl.half < (renewedUntil : Timestamp).since session.expiresAt)
      (hnew : after.database.sessions.get? token =
        some (Session.form.encode (session.lastingTo renewedUntil))) :
      Renewal ttl token server [.updateSession (session.lastingTo renewedUntil)] after

/-- The cache has nothing to do with it, nor how many ids were drawn. -/
theorem Renewal.congr {writes : List Call} {server' after' : Server}
    (h : Renewal ttl token server writes after) (hbefore : server'.database = server.database)
    (hclock : server'.clock = server.clock) (hafter : after'.database = after.database) :
    Renewal ttl token server' writes after' := by
  cases h with
  | unwritten hrow => exact .unwritten (by rw [hafter, hbefore, hrow])
  | written htoken hold hnow hadd hdue hnew =>
    have hnow' : server'.now? = some _ := (congrArg Instant.ofClock? hclock).trans hnow
    exact .written htoken (hbefore ▸ hold) hnow' hadd hdue (hafter ▸ hnew)

/-- A renewal that is overdue has moved the expiry, as the entry was not
far ahead of its row before. -/
theorem renewed_of_isOverdue (h : Ahead ttl entry) {renewedUntil : Timestamp}
    (hdue : isOverdue ttl (renewed entry renewedUntil) = true) :
    renewed entry renewedUntil = ⟨entry.session.lastingTo renewedUntil, entry.persistedUntil⟩ := by
  unfold renewed at hdue ⊢
  split at hdue
  next hlater => exact if_pos hlater
  next => exact absurd (of_decide_eq_true hdue) (Int.not_lt.2 h.since_le)

/-- An answer for an entry writes a renewal at most. -/
theorem records_present (httl : 0 ≤ ttl) (h : Coherent ttl server)
    (hfinds : Finds token server entry) :
    (present ttl token entry).Records (fun writes _ => Renewal ttl token server writes) server := by
  obtain ⟨hrow, htoken, hahead⟩ := h.of_finds httl hfinds
  have hnothing : Renewal ttl token server [] server := .unwritten rfl
  show (∀ now, server.now? = some now → _) ∧ (server.now? = none → _)
  refine ⟨fun now hnow => ?_, fun _ => hnothing⟩
  show Flow.Records (if entry.session.isExpired now = true then _ else _) _ server
  split
  · exact hnothing
  show Flow.Records (Flow.bind (Flow.inCalendar (now.add? ttl)) _) _ server
  cases hadd : now.add? ttl with
  | none => exact hnothing
  | some renewedUntil =>
    show Flow.Records (renew ttl token (renewed entry renewedUntil)) _ server
    unfold renew
    split
    next hdue =>
      have hmoved := renewed_of_isOverdue hahead hdue
      generalize renewed entry renewedUntil = moved at hdue hmoved
      subst hmoved
      refine ⟨fun _ => hnothing, ?_⟩
      intro found database hrun
      subst htoken
      rw [Call.run_updateSession (entry.session.lastingTo renewedUntil) hrow] at hrun
      cases hrun
      show Renewal ttl _ server [.updateSession (entry.onDisk.lastingTo renewedUntil)] _
      exact .written rfl hrow hnow hadd (of_decide_eq_true hdue) (Table.get?_write_self _ _ _)
    next => exact .unwritten rfl

/-- A look-up writes a renewal at most. -/
theorem records_get (httl : 0 ≤ ttl) (h : Coherent ttl server) (token : String) :
    (get ttl token).Records (fun writes _ => Renewal ttl token server writes) server := by
  rw [get_eq]
  apply Flow.Records.locked
  -- Looking the token up only makes it the most recently used.
  let touched : Server := { server with cache := (server.cache.get token).2 }
  have hpeek (other : String) : touched.cache.peek other = server.cache.peek other :=
    SessionCache.peek_get _ _ _
  have htouched : Coherent ttl touched := h.lookUp token
  have hfinds {entry : CachedSession} (hfound : Finds token touched entry) :
      (present ttl token entry).Records (fun writes _ => Renewal ttl token server writes) touched :=
    (records_present httl htouched hfound).mono fun _ _ _ hrenewal => hrenewal.congr rfl rfl rfl
  show Flow.Records (answer ttl token (server.cache.peek token)) _ touched
  cases hcached : server.cache.peek token with
  | some entry => exact hfinds (.cached ((hpeek token).trans hcached))
  | none =>
    refine ⟨fun _ => .unwritten rfl, ?_⟩
    intro found database hrun
    rcases h.findSession token with ⟨hrow, hnone⟩ | ⟨session, hrow, hsome⟩
    · cases hnone.symm.trans hrun
      exact .unwritten rfl
    · cases hsome.symm.trans hrun
      exact hfinds (.stored ((hpeek token).trans hcached) hrow)

/-! ### How long a row lasts -/

/-- The row of the token, if there is one, lasts until the clock shows
`floor` at least, and does not expire in a leap second. -/
def Lasting (token : String) (floor : Int) (server : Server) : Prop :=
  ∀ session, server.database.sessions.get? token = some (Session.form.encode session) →
    ∃ expiry : Instant, session.expiresAt = expiry ∧ floor ≤ expiry.nanos

section
variable {floor : Int}

/-- The row may be deleted. -/
theorem Lasting.of_row (h : Lasting token floor server)
    (hrow : ∀ row, after.database.sessions.get? token = some row →
      server.database.sessions.get? token = some row) : Lasting token floor after :=
  fun session hsession => h session (hrow _ hsession)

theorem Lasting.erase (h : Lasting token floor server) (removed : String) {cache : SessionCache} :
    Lasting token floor { server with
      database.sessions := SortedMap.erase server.database.sessions removed, cache } := by
  refine h.of_row fun row hrow => ?_
  rw [SortedMap.get?_erase] at hrow
  split at hrow
  · cases hrow
  · exact hrow

theorem Lasting.touches {other : String} (h : Lasting token floor server)
    (htouches : Touches other server after) (hne : token ≠ other) : Lasting token floor after :=
  h.of_row fun _ => by simp only [htouches.rows token hne, imp_self]

theorem Lasting.mono {earlier : Int} (h : Lasting token floor server) (hle : earlier ≤ floor) :
    Lasting token earlier server := by
  intro session hsession
  obtain ⟨expiry, hexpiry, hfloor⟩ := h session hsession
  exact ⟨expiry, hexpiry, Int.le_trans hle hfloor⟩

/-- After a look-up that writes nothing the row lasts as before. A look-up
that writes makes it last for the full span, and comes more than half of
the span after the one that wrote the row before. -/
theorem Renewal.lasting {writes : List Call} (h : Renewal ttl token server writes after) :
    (writes = [] ∧ ∀ floor, Lasting token floor server → Lasting token floor after) ∨
    ∃ call, writes = [call] ∧ Lasting token (server.clock + ttl) after ∧
      ∀ last, Lasting token (last + ttl) server → last + ttl.half < server.clock := by
  cases h with
  | unwritten hrow =>
    exact .inl ⟨rfl, fun floor hlasting => hlasting.of_row fun _ => by simp only [hrow, imp_self]⟩
  | @written session now renewedUntil _ htoken hold hnow hadd hdue hnew =>
    have hclock := Server.nanos_of_now? hnow
    have hnanos := Instant.nanos_of_ofNanos? hadd
    refine .inr ⟨_, rfl, ?_, ?_⟩
    · intro written hwritten
      obtain rfl := Session.encode_inj (Option.some.inj (hnew.symm.trans hwritten))
      exact ⟨renewedUntil, rfl, by omega⟩
    · intro last hlasting
      obtain ⟨expiry, hexpiry, hfloor⟩ := hlasting session hold
      rw [hexpiry, Timestamp.ofInstant_since_ofInstant] at hdue
      have hspan := Int.add_lt_of_lt_sub_left hdue
      omega

/-- The sweep of a token leaves the server coherent. -/
theorem TokenSwept.coherent (httl : 0 ≤ ttl) (h : Coherent ttl server) {swept : String}
    {time : Timestamp} {report : SweepReport} {end? : Except Stop SweepReport}
    (hswept : TokenSwept time swept report server end? after) : Coherent ttl after := by
  cases hswept with
  | kept | stopped => exact h
  | removed => exact h.delete swept
  | flushed => exact (h.write httl _).2
  | forgotten => exact h.erase swept

/-- What the sweep of a token writes lasts no shorter than what was
there. -/
theorem TokenSwept.lasting (httl : 0 ≤ ttl) (h : Coherent ttl server)
    (hlasting : Lasting token floor server) {swept : String} {time : Timestamp}
    {report : SweepReport} {end? : Except Stop SweepReport}
    (hswept : TokenSwept time swept report server end? after) : Lasting token floor after := by
  cases hswept with
  | kept | stopped | forgotten => exact hlasting
  | removed => exact hlasting.erase swept
  | @flushed entry hpeek =>
    obtain ⟨hold, rfl, hahead⟩ := h.of_finds httl (.cached hpeek)
    by_cases htoken : token = entry.session.token
    · subst htoken
      obtain ⟨persisted, hpersisted, hfloor⟩ := hlasting _ hold
      intro session hsession
      obtain rfl := Session.encode_inj
        (Option.some.inj ((Table.get?_write_self _ _ _).symm.trans hsession))
      -- The entry is level with its row, or ahead of it by a renewal.
      rcases hahead.renewal with hlevel | ⟨renewedUntil, hrenewed⟩
      · exact ⟨persisted, hlevel.trans hpersisted, hfloor⟩
      · refine ⟨renewedUntil, hrenewed, Int.le_trans hfloor ?_⟩
        have hle := hahead.persisted_le
        rw [hrenewed, Timestamp.le_ofInstant_iff,
          show entry.persistedUntil = _ from hpersisted] at hle
        exact hle
    · exact hlasting.of_row fun _ => by
        simp only [Table.get?_write_of_ne _ _ htoken, imp_self]

theorem ensures_lasting_sweepTokens (httl : 0 ≤ ttl) (time : Timestamp) (tokens : List String)
    (report : SweepReport) (h : Coherent ttl server) (hlasting : Lasting token floor server) :
    (sweepTokens time tokens report).Ensures (fun _ after => Lasting token floor after) server := by
  induction tokens generalizing server report with
  | nil => exact hlasting
  | cons swept tokens ih =>
    show Flow.Ensures _ ((sweepToken time swept report).bind (sweepTokens time tokens)) server
    rw [Flow.ensures_bind]
    refine (ensures_tokenSwept (h.consistent httl)).mono ?_
    intro end? after hswept
    have hafter := hswept.lasting httl h hlasting
    cases end? with
    | error why => exact hafter
    | ok report' => exact ih report' (hswept.coherent httl h) hafter

/-- A sweep leaves a row that lasts, or none. -/
theorem ensures_lasting_sweep (httl : 0 ≤ ttl) (h : Coherent ttl server)
    (hlasting : Lasting token floor server) (time : Timestamp) :
    (sweep time).Ensures (fun _ after => Lasting token floor after) server := by
  show Flow.Ensures _ ((sweepTokens time (server.cache.staleTokens time) {}).bind _) server
  rw [Flow.ensures_bind]
  refine (ensures_lasting_sweepTokens httl time _ {} h hlasting).mono ?_
  intro end? swept hswept
  cases end? with
  | error why => exact hswept
  | ok report =>
    refine ⟨fun _ => hswept, ?_⟩
    intro count database hrun
    obtain ⟨sessions, hpurge, rfl⟩ := Call.of_run_deleteExpiredSessions hrun
    exact hswept.of_row fun row hrow => ((Table.get?_removeWhere_eq_some_iff hpurge).1 hrow).1

/-- So does a removal. -/
theorem ensures_lasting_remove (hlasting : Lasting token floor server) (removed : String) :
    (remove removed).Ensures (fun _ after => Lasting token floor after) server := by
  refine Flow.ensures_locked ⟨fun _ => hlasting, ?_⟩
  intro found database hrun
  cases hrun
  exact hlasting.erase removed

end

/-! ### When look-ups write -/

/-- When a look-up of the token writes, if this is one. -/
def Incident.renewalTimes (ttl : Duration) (token : String) (server : Server) : Incident → List Int
  | .get failures looked =>
    if looked = token then
      ((SessionStore.get ttl token).writes (.failing failures) none server).map
        fun _ => server.clock
    else []
  | _ => []

/-- What the clock shows each time that a look-up of the token writes. -/
def renewalTimes (ttl : Duration) (token : String) : Server → List Incident → List Int
  | _, [] => []
  | server, incident :: incidents =>
    incident.renewalTimes ttl token server ++
      renewalTimes ttl token (afterIncident ttl server incident) incidents

/-- What a look-up writes when it is performed. -/
theorem perform_get_renewal (httl : 0 ≤ ttl) (h : Coherent ttl server) (token : String)
    {weather : Weather} (hclear : weather.Clear) (limit : Option Nat) :
    Renewal ttl token server ((get ttl token).writes weather limit server)
      (server.perform weather limit (get ttl token)).2 :=
  (records_get httl h token).perform (failStop_get ttl token)
    (fun _ _ _ _ hrenewal => hrenewal.congr rfl rfl rfl) hclear limit

/-- Whatever happens except an addition of the token, no look-up of it
writes and its row lasts, or one does. Then the row lasts for the full span,
and the one before was written more than half of the span ago. -/
theorem Coherent.renews_or_lasts (httl : 0 ≤ ttl) (h : Coherent ttl server) (token : String)
    {incident : Incident}
    (hno : ∀ failures session, incident = .add failures session → session.token ≠ token) :
    (incident.renewalTimes ttl token server = [] ∧
      ∀ floor, Lasting token floor server →
        Lasting token floor (afterIncident ttl server incident)) ∨
    (incident.renewalTimes ttl token server = [server.clock] ∧
      Lasting token (server.clock + ttl) (afterIncident ttl server incident) ∧
      ∀ last, Lasting token (last + ttl) server → last + ttl.half < server.clock) := by
  cases incident with
  | add failures session =>
    refine .inl ⟨rfl, fun floor hlasting => hlasting.touches ?_ (hno failures session rfl).symm⟩
    exact (perform_add (Weather.clear_failing failures) none httl h session).1
  | get failures looked =>
    have hclear := Weather.clear_failing failures
    by_cases hlooked : looked = token
    · subst hlooked
      have hrenewal := perform_get_renewal httl h looked hclear none
      simp only [Incident.renewalTimes, afterIncident, if_true]
      rcases hrenewal.lasting with ⟨hnone, hlasting⟩ | ⟨call, hone, hlasting, hlate⟩
      · exact .inl ⟨by simp [hnone], hlasting⟩
      · exact .inr ⟨by simp [hone], hlasting, hlate⟩
    · have hnone : (Incident.get failures looked).renewalTimes ttl token server = [] :=
        if_neg hlooked
      refine .inl ⟨hnone, fun floor hlasting => hlasting.touches ?_ (Ne.symm hlooked)⟩
      exact (perform_get hclear none httl h looked).touches
  | remove failures removed =>
    exact .inl ⟨rfl, fun floor hlasting => (ensures_lasting_remove hlasting removed).perform
      (failStop_remove removed) (fun _ _ _ => id) (Weather.clear_failing failures) none⟩
  | sweep failures time =>
    exact .inl ⟨rfl, fun floor hlasting => (ensures_lasting_sweep httl h hlasting time).perform
      (failStop_sweep time) (fun _ _ _ => id) (Weather.clear_failing failures) none⟩
  | evict | restart | setClock => exact .inl ⟨rfl, fun floor => id⟩

/-- Look-ups of the token write more than half of the span apart, and as long
after the last one before. -/
theorem Coherent.renewals_apart (httl : 0 ≤ ttl) {incidents : List Incident}
    (hno : ∀ failures session, .add failures session ∈ incidents → session.token ≠ token)
    (h : Coherent ttl server) :
    (renewalTimes ttl token server incidents).Pairwise
        (fun earlier later => earlier + ttl.half < later) ∧
      ∀ last, Lasting token (last + ttl) server →
        ∀ time ∈ renewalTimes ttl token server incidents, last + ttl.half < time := by
  induction incidents generalizing server with
  | nil => exact ⟨.nil, fun _ _ _ hmem => nomatch hmem⟩
  | cons incident incidents ih =>
    have hnext := coherent_next httl h incident
    obtain ⟨hspaced, hafter⟩ :=
      ih (fun failures session hmem => hno failures session (List.mem_cons_of_mem _ hmem)) hnext
    have hfirst := h.renews_or_lasts httl token fun failures session heq =>
      hno failures session (heq ▸ List.mem_cons_self)
    unfold renewalTimes
    rcases hfirst with ⟨hnone, hlasting⟩ | ⟨hone, hlasting, hlate⟩
    · rw [hnone]
      exact ⟨hspaced, fun last hlast => hafter last (hlasting _ hlast)⟩
    · rw [hone]
      have hhalf : (0 : Int) ≤ ttl.half := Int.ediv_nonneg httl (by decide)
      refine ⟨.cons (hafter _ hlasting) hspaced, ?_⟩
      intro last hlast time hmem
      have hspan := hlate last hlast
      rcases List.mem_cons.1 hmem with rfl | hmem
      · exact hspan
      · exact hafter last (hlasting.mono (by omega)) time hmem

/-- Of times that are more than half of a span apart, one at most lies in a
window of half of the span. -/
theorem length_window_le_one {times : List Int}
    (h : times.Pairwise fun earlier later => earlier + ttl.half < later) (first : Int) :
    (times.filter fun time => first ≤ time ∧ time ≤ first + ttl.half).length ≤ 1 := by
  have hwindow := h.filter fun time => decide (first ≤ time ∧ time ≤ first + ttl.half)
  have hmem : ∀ time ∈ times.filter fun time => first ≤ time ∧ time ≤ first + ttl.half,
      first ≤ time ∧ time ≤ first + ttl.half := by
    intro time hmem
    exact of_decide_eq_true (List.mem_filter.1 hmem).2
  generalize times.filter _ = window at hwindow hmem
  match window with
  | [] | [_] => simp
  | earlier :: later :: _ =>
    have hapart : earlier + ttl.half < later :=
      List.rel_of_pairwise_cons hwindow List.mem_cons_self
    have hearlier := hmem earlier List.mem_cons_self
    have hlater := hmem later (List.mem_cons_of_mem _ List.mem_cons_self)
    omega

/-- However long sessions live, and whatever happened to the store before,
each look-up of a token writes nothing or renews the row once, to the full
span from its time. As long as the token is not added, two look-ups that
write are more than half of the span apart, though entries are dropped,
calls fail, sessions are swept and the process begins again in between. So
the look-ups in a window of half of the span write once at most. -/
theorem renewals_rare (ttl : Nat) (database : Database) (capacity : Nat) (clock : Int)
    (past incidents : List Incident) (token : String)
    (hno : ∀ failures session, .add failures session ∈ incidents → session.token ≠ token) :
    let start := afterIncidents ttl (Life.start database capacity clock).server past
    let server := afterIncidents ttl start incidents
    let times := renewalTimes ttl token start incidents
    (∀ failures, Renewal ttl token server ((get ttl token).writes (.failing failures) none server)
      (server.perform (.failing failures) none (get ttl token)).2) ∧
    times.Pairwise (fun earlier later => earlier + Duration.half ttl < later) ∧
    ∀ first,
      (times.filter fun time => first ≤ time ∧ time ≤ first + Duration.half ttl).length ≤ 1 := by
  intro start server times
  have httl : (0 : Duration) ≤ ttl := Int.natCast_nonneg ttl
  have hstart : Coherent ttl start :=
    coherent_afterIncidents httl past (coherent_start ttl database capacity clock)
  have hserver : Coherent ttl server := coherent_afterIncidents httl incidents hstart
  have hspaced := (hstart.renewals_apart httl hno).1
  exact ⟨fun failures =>
    perform_get_renewal httl hserver token (Weather.clear_failing failures) none,
    hspaced, length_window_le_one hspaced⟩

/-- A session that was added for a minute is looked up half a minute later
and a nanosecond after that, and the same once more when another half
minute is over. The last look-up fails to write at first and is repeated. -/
def lookedUpOften : List Incident :=
  [.setClock 30000000000, .get (fun _ => none) "token",
    .setClock 30000000001, .get (fun _ => none) "token",
    .setClock 60000000001, .get (fun _ => none) "token",
    .setClock 60000000002, .get (fun _ => some "disk full") "token", .get (fun _ => none) "token"]

/-- Two of them write, and they are half a minute and a nanosecond apart. -/
theorem renewals_rare_of_often :
    let ttl : Nat := 60000000000
    let start := afterIncidents ttl (Life.start {} 2 0).server
      [.add (fun _ => none) (mayfly "token")]
    let times := renewalTimes ttl "token" start lookedUpOften
    times = [30000000001, 60000000002] ∧
      times.Pairwise fun earlier later => earlier + Duration.half ttl < later := by
  intro ttl start times
  obtain ⟨-, hspaced, -⟩ :=
    renewals_rare ttl {} 2 0 [.add (fun _ => none) (mayfly "token")] lookedUpOften "token"
      (by simp [lookedUpOften])
  exact ⟨by decide +kernel, hspaced⟩

end SessionStore

end Gatekeeper

import Gatekeeper.Proofs.Course
import Gatekeeper.Proofs.FailStop
import Gatekeeper.Proofs.Session.LookUp

/-!
# `Gatekeeper.Proofs.Horizon`: spans that lead out of the calendar

Three spans of time can be set: how long a session lives, how long a code
is valid, and how long an expired code is kept. Any number of seconds that
fits into 64 bits is taken for each of them. The spans are added to the
clock or taken from it, and the calendar ends somewhere.

`flow.Timely now` says that a flow comes to no time outside the calendar
while the clock shows `now`, whatever its other steps are answered. It is
defined along the flow, and `Flow.Timely.perform` carries it over to a run
in any weather. For the operations that count with times it comes down to
one span each, `(now.add? ttl).isSome` or `(now.subtract? retention).isSome`.

`service.InTime retention server` is what the settings should guarantee:
none of the operations of the server, and no round of its sweeper, leaves
the calendar. `Service.inTime_iff` says which settings do so on every
server whose clock stands between 1970 and 9999. The bounds are
whole seconds, about 252 000 and 264 000 years. `Settings.sweeper_stops` is
a round of the sweeper under a setting beyond them.
-/

set_option autoImplicit false

namespace Gatekeeper

open Gatekeeper.Flow (call take locked)

/-! ### Calls and steps -/

/-- An overflow comes after what was looked up. -/
theorem Call.overflow_of_lookedUp {α β : Type} {found : Except StoreError α}
    {next : α → Except CallFault β} {cause : Overflow}
    (h : (do next (← (liftM found : Except CallFault α))) = .error (.overflow cause)) :
    ∃ a, next a = .error (.overflow cause) := by
  cases found with
  | error e => cases h
  | ok a => exact ⟨a, h⟩

/-- The only overflow of a call is a use of a code too many to be counted. -/
theorem Call.overflow_of_run {c : Call} {db : Database} {cause : Overflow}
    (h : c.run db = .error (.overflow cause)) : cause = .uses := by
  cases c with
  | consumeCode code kind maxUses time =>
    obtain ⟨found, h⟩ := overflow_of_lookedUp h
    cases found with
    | none => cases h
    | some record =>
      replace h : (if record.kind ≠ kind then _ else if record.isUsable time then _ else _) =
        (Except.error (.overflow cause) : Except CallFault (CodeUse × Database)) := h
      split at h
      · cases h
      split at h
      · split at h <;> cases h
        rfl
      · cases h
  | findUserByAddress address =>
    simp only [run] at h
    split at h
    · obtain ⟨found, h⟩ := overflow_of_lookedUp h
      cases h
    · cases h
  | updateSession session =>
    simp only [run] at h
    split at h <;> cases h
  | findSession | findCode | findUser | findWorkspace | findPermissions | isMember | findDapp
  | deleteExpiredSessions | deleteCodesBefore =>
    obtain ⟨found, h⟩ := overflow_of_lookedUp h
    cases h
  | upsertSession | deleteSession | insertCode | updateCode | findResourceOwner => cases h

/-- What a step may be answered with while the clock shows `now`. -/
def Step.Tells (now : Instant) : (s : Step) → s.Answer → Prop
  | .readClock, answer => answer = now
  | _, _ => True

section
variable {weather : Weather} {limit : Option Nat} {progress after : Progress}
  {server server' : Server}
  {now : Instant}

/-- No call comes to a time outside the calendar. -/
theorem Call.attempt_ne_time (c : Call) (db : Database) :
    c.attempt weather limit progress db ≠ .error (.stopped (.overflow .time)) := by
  have hrun : c.run db ≠ .error (.overflow .time) := fun h => nomatch overflow_of_run h
  unfold attempt
  dsimp only
  -- A call that is late or fails is refused, and a blind one is answered.
  split
  · simp
  split
  · split <;> simp_all
  · simp
  · split
    · simp
    · split <;> simp_all

/-- No step by itself stops an operation for a time outside the calendar. -/
theorem Step.run_ne_time (s : Step) :
    s.run weather limit progress server ≠ .error (.stopped (.overflow .time)) := by
  cases s with
  | call c =>
    simp only [run]
    cases hc : c.attempt weather limit progress server.database with
    | error halt =>
      rintro ⟨⟩
      exact c.attempt_ne_time _ hc
    | ok answered => rintro ⟨⟩
  | readClock =>
    simp only [run]
    split <;> simp
  | lookUp | peek | remember | forget | listStale | drawId | lock | unlock => rintro ⟨⟩

/-- Steps tell what the clock shows. -/
theorem Step.tells_of_run {s : Step} {answer : s.Answer} (hnow : server.now? = some now)
    (h : s.run weather limit progress server = .ok (answer, after, server')) :
    s.Tells now answer := by
  cases s with
  | readClock =>
    simp only [run, hnow] at h
    cases h
    rfl
  | call | lookUp | peek | remember | forget | listStale | drawId | lock | unlock => trivial

end

/-! ### Flows -/

namespace Flow

variable {α β : Type} {now : Instant}

/-- Whatever its steps are answered, the flow comes to no time outside the
calendar while the clock shows `now`. -/
def Timely (now : Instant) : Flow α → Prop
  | done _ => True
  | stop why => why ≠ .overflow .time
  | step s next failed => (∀ answer, s.Tells now answer → (next answer).Timely now) ∧
    ∀ error, (failed error).Timely now

namespace Timely

@[simp] theorem of_pure (a : α) : (pure a : Flow α).Timely now := trivial

@[simp] theorem of_refuse (error : AuthError) : (refuse error : Flow α).Timely now := by
  simp [refuse, Timely]

@[simp] theorem of_take (s : Step) : @Timely (no_index s.Answer) now (take s) :=
  ⟨fun _ _ => trivial, fun _ => of_refuse _⟩

@[simp] theorem of_call (c : Call) : @Timely (no_index c.Answer) now (Flow.call c) :=
  ⟨fun _ _ => trivial, fun _ => of_refuse _⟩

@[simp] theorem of_require (error : AuthError) (found : Option α) :
    (require error found).Timely now := by
  cases found with
  | none => exact of_refuse error
  | some a => trivial

theorem bind {flow : Flow α} {f : α → Flow β} (h : flow.Timely now)
    (hnext : ∀ a, (f a).Timely now) : (flow >>= f).Timely now := by
  show (flow.bind f).Timely now
  induction flow with
  | done a => exact hnext a
  | stop => exact h
  | step s next failed ih ihfailed =>
    exact ⟨fun answer htells => ih answer (h.1 answer htells),
      fun error => ihfailed error (h.2 error)⟩

@[simp] theorem map_iff {flow : Flow α} {f : α → β} :
    (f <$> flow).Timely now ↔ flow.Timely now := by
  show (flow.bind fun a => .done (f a)).Timely now ↔ flow.Timely now
  induction flow with
  | done | stop => rfl
  | step s next failed ih ihfailed =>
    exact and_congr (forall_congr' fun answer => imp_congr_right fun _ => ih answer)
      (forall_congr' ihfailed)

/-- What comes after a step comes after any answer that the step may get. -/
@[simp] theorem take_bind_iff {s : Step} {f : s.Answer → Flow α} :
    (@Bind.bind Flow _ (no_index s.Answer) α (take s) f).Timely now ↔
      ∀ answer, s.Tells now answer → (f answer).Timely now :=
  and_iff_left fun error => of_refuse (.ofStore error)

@[simp] theorem call_bind_iff {c : Call} {f : c.Answer → Flow α} :
    (@Bind.bind Flow _ (no_index c.Answer) α (Flow.call c) f).Timely now ↔
      ∀ answer, (f answer).Timely now :=
  ⟨fun h answer => h.1 answer trivial, fun h => ⟨fun answer _ => h answer, fun _ => of_refuse _⟩⟩

/-- A flow that reads the clock goes on with `now`. -/
@[simp] theorem now_bind_iff {f : Instant → Flow α} :
    (Flow.now >>= f).Timely now ↔ (f now).Timely now :=
  ⟨fun h => h.1 now rfl, fun h => ⟨fun _ htells => htells ▸ h, fun _ => of_refuse _⟩⟩

/-- A flow may count with a time that the calendar has. -/
@[simp] theorem inCalendar_bind_iff {time : Option Instant} {f : Instant → Flow α} :
    (Flow.inCalendar time >>= f).Timely now ↔ ∃ t, time = some t ∧ (f t).Timely now := by
  cases time with
  | none => simp [Flow.inCalendar, Bind.bind, Flow.bind, Timely]
  | some t => simp [Flow.inCalendar, Bind.bind, Flow.bind]

theorem locked {token : String} {flow : Flow α} (h : flow.Timely now) :
    (Flow.locked token flow).Timely now :=
  (of_take (.lock token)).bind fun _ =>
    h.bind fun _ => (of_take (.unlock token)).bind fun _ => trivial

/-- A timely flow that is run while the clock shows `now` does not stop for
a time outside the calendar. -/
theorem run {flow : Flow α} (h : flow.Timely now) {server : Server} (hnow : server.now? = some now)
    (weather : Weather) (limit : Option Nat) (progress : Progress) :
    (flow.run weather limit progress server).1.map (·.1) ≠ .error (.overflow .time) := by
  induction flow generalizing progress server with
  | done => simp [Flow.run, Except.map]
  | stop why => simpa [Flow.run, Except.map, Timely] using h
  | step s next failed ih ihfailed =>
    unfold Flow.run
    cases hrun : s.run weather limit progress server with
    | error halt =>
      cases halt with
      | failed error progress => exact ihfailed error (h.2 error) hnow progress
      | stopped why =>
        intro heq
        cases heq
        exact s.run_ne_time hrun
    | ok answered =>
      have hclock := Step.clock_of_run hrun
      exact ih _ (h.1 _ (Step.tells_of_run hnow hrun)) (hnow ▸ congrArg Instant.ofClock? hclock) _

end Timely

end Flow

/-- In no weather does the flow stop for a time outside the calendar. -/
def Server.StaysInCalendar {α : Type} (server : Server) (flow : Flow α) : Prop :=
  ∀ weather limit, (server.perform weather limit flow).1 ≠ .error (.overflow .time)

theorem Flow.Timely.perform {α : Type} {flow : Flow α} {server : Server} {now : Instant}
    (h : flow.Timely now) (hnow : server.now? = some now) : server.StaysInCalendar flow := by
  intro weather limit
  rw [Server.perform_fst]
  exact h.run hnow weather limit {}

/-! ### The operations -/

section
variable {now : Instant} {ttl : Duration}

namespace CodeStore

/-- To issue a code is to count up to its expiry. -/
theorem timely_issue_iff {order : CodeOrder} :
    (issue ttl order).Timely now ↔ ∃ t, now.add? ttl = some t := by
  simp [issue, Step.Tells]

/-- To purge is to count back by the retention. -/
theorem timely_purge_iff {retention : Duration} :
    (purge retention).Timely now ↔ ∃ t, now.subtract? retention = some t := by
  simp [purge]

theorem timely_consume (code : String) (kind : CodeKind) (maxUses : UInt32) :
    (consume code kind maxUses).Timely now := by
  simp only [consume, Flow.Timely.now_bind_iff, Flow.Timely.call_bind_iff]
  intro use
  cases use <;> simp

theorem timely_findChallenge (code : String) : (findChallenge code).Timely now := by
  simp only [findChallenge, Flow.Timely.call_bind_iff]
  intro found
  cases found with
  | none => simp
  | some record =>
    dsimp only
    split
    · simp only [Flow.Timely.now_bind_iff]
      split <;> simp
    · simp

end CodeStore

namespace SessionStore

theorem timely_add (session : Session) : (add session).Timely now :=
  .locked (by simp)

theorem timely_remove (token : String) : (remove token).Timely now :=
  .locked (by simp)

/-- A look-up counts up to the expiry of the session that it finds. -/
theorem timely_get {t : Instant} (hadd : now.add? ttl = some t) (token : String) :
    (get ttl token).Timely now := by
  have hrenew (entry : CachedSession) : (renew ttl token entry).Timely now := by
    unfold renew
    split
    · simp only [Flow.Timely.call_bind_iff]
      intro updated
      cases updated <;> simp
    · simp
  have hpresent (entry : CachedSession) : (present ttl token entry).Timely now := by
    simp only [present, Flow.Timely.now_bind_iff]
    split <;> simp [hadd, hrenew]
  rw [get_eq]
  refine .locked (.bind (.of_take _) ?_)
  intro cached
  cases cached with
  | some entry => exact hpresent entry
  | none =>
    simp only [answer, Flow.Timely.call_bind_iff]
    intro session
    cases session <;> simp [hpresent]

theorem timely_sweep (time : Timestamp) : (sweep time).Timely now := by
  have htoken (token : String) (report : SweepReport) :
      (sweepToken time token report).Timely now := by
    refine .locked ?_
    simp only [Flow.Timely.take_bind_iff]
    rintro (_ | entry) -
    · simp
    dsimp only
    split
    · -- The entry is expired, and its row may be there or not.
      simp only [Flow.Timely.take_bind_iff, Flow.Timely.call_bind_iff]
      rintro _ - (_ | _) <;> simp
    split
    · simp only [Flow.Timely.call_bind_iff]
      rintro (_ | _) <;> simp
    · simp
  have htokens (tokens : List String) (report : SweepReport) :
      (sweepTokens time tokens report).Timely now := by
    induction tokens generalizing report with
    | nil => simp [sweepTokens]
    | cons token tokens ih => exact (htoken token report).bind ih
  exact .bind (.of_take _) fun tokens => (htokens tokens {}).bind fun report => by simp

end SessionStore

namespace Service

/-- A session begins with its expiry. -/
theorem timely_startSession_iff {user : UserSnapshot} {workspace : WorkspaceRef}
    {network : Network} :
    (startSession ttl user workspace network).Timely now ↔ ∃ t, now.add? ttl = some t := by
  simp [startSession]

end Service

namespace Credential

theorem timely_resolveBearer {t : Instant} (hadd : now.add? ttl = some t) (token : String) :
    (resolveBearer ttl token).Timely now := by
  refine .bind (SessionStore.timely_get hadd token) fun found =>
    .bind (.of_require _ _) fun session => ?_
  simp only [Flow.Timely.now_bind_iff]
  split
  · exact (SessionStore.timely_remove token).bind fun _ => .of_refuse _
  · simp

theorem timely_resolveCode (maxUses : UInt32) (raw : String) :
    (resolveCode maxUses raw).Timely now := by
  refine .bind (CodeStore.timely_consume raw .oneTime maxUses) fun code => ?_
  simp only [Flow.Timely.call_bind_iff]
  exact fun owner => .bind (.of_require _ _) fun _ => by simp

theorem timely_resolveCli (maxUses : UInt32) (routes : List CliRoute) (raw : String)
    (context : RequestContext) : (resolveCli maxUses routes raw context).Timely now := by
  refine .bind (timely_resolveCode maxUses raw) fun identity => ?_
  split <;> simp

theorem timely_resolveConnector (raw : String) : (resolveConnector raw).Timely now := by
  unfold resolveConnector
  dsimp only
  split
  · simp
  · simp only [Flow.Timely.call_bind_iff]
    refine fun found => .bind (.of_require _ _) fun dapp => ?_
    simp only [Flow.Timely.call_bind_iff]
    exact fun found => .bind (.of_require _ _) fun user => by simp

end Credential

namespace Service

variable {service : Service}

/-- An operation is timely if the calendar has the expiry of what it may
issue or renew. -/
theorem timely_operation {α : Type} (operation : Operation α) {sessionEnd codeEnd : Instant}
    (hsession : now.add? service.sessionTtl = some sessionEnd)
    (hcode : now.add? service.codeTtl = some codeEnd) : (operation.flow service).Timely now := by
  have hmember (identity : Identity) (workspace : String) :
      (memberPermissions identity workspace).Timely now := by
    simp only [memberPermissions, Flow.Timely.call_bind_iff]
    intro answer
    split <;> simp
  cases operation with
  | authenticate raw context =>
    show (service.authenticate raw context).Timely now
    unfold authenticate
    split
    · simp
    split
    · exact Credential.timely_resolveBearer hsession raw
    · exact Credential.timely_resolveCode _ raw
    · exact Credential.timely_resolveCli _ _ raw context
    · exact Credential.timely_resolveConnector raw
  | authorize identity roles resource =>
    show (authorize identity roles resource).Timely now
    simp only [authorize, Flow.Timely.call_bind_iff]
    refine fun found => .bind (.of_require _ _) fun owner =>
      .bind (.of_require _ _) fun workspace => ?_
    split
    · refine (hmember identity workspace).bind fun table => ?_
      split <;> simp
    · simp
  | authorizeWorkspace identity roles =>
    refine .bind (.of_require _ _) fun workspace =>
      (hmember identity workspace).bind fun table => ?_
    split <;> simp
  | issueChallenge address origin network =>
    show (service.issueChallenge address origin network).Timely now
    simp only [issueChallenge, Flow.Timely.call_bind_iff]
    exact fun found => .bind (.of_require _ _) fun user => CodeStore.timely_issue_iff.2 ⟨_, hcode⟩
  | signIn request =>
    refine .bind (.of_require _ _) fun verifier =>
      .bind (CodeStore.timely_findChallenge _) fun challenge => ?_
    simp only [Flow.Timely.call_bind_iff]
    refine fun found => .bind (.of_require _ _) fun owner =>
      .bind (.of_require _ _) fun signer => ?_
    split
    · simp
    split
    · simp
    refine .bind (CodeStore.timely_consume _ _ _) fun challenge => ?_
    simp only [Flow.Timely.call_bind_iff]
    refine fun found => .bind (.of_require _ _) fun workspace => ?_
    refine .bind (timely_startSession_iff.2 ⟨_, hsession⟩) fun session => ?_
    exact (SessionStore.timely_add session).bind fun _ => by simp
  | signOut token => exact (SessionStore.timely_remove token).bind fun _ => by simp
  | requestCode identity origin cli => exact CodeStore.timely_issue_iff.2 ⟨_, hcode⟩

/-! ### Settings that keep the server in the calendar -/

/-- Nothing that the server does leads to a time outside the calendar, in
whatever weather: no look-up of a session, no start of one, no issue or
purge of codes, none of the operations, and no round of the sweeper. -/
structure InTime (service : Service) (retention : Duration) (server : Server) : Prop where
  lookUps : ∀ token, server.StaysInCalendar (SessionStore.get service.sessionTtl token)
  starts : ∀ user workspace network,
    server.StaysInCalendar (startSession service.sessionTtl user workspace network)
  issues : ∀ order, server.StaysInCalendar (CodeStore.issue service.codeTtl order)
  purges : server.StaysInCalendar (CodeStore.purge retention)
  operations : ∀ {α : Type} (operation : Operation α),
    server.StaysInCalendar (operation.flow service)
  rounds : ∀ weather, (server.sweepRound weather retention).1 ≠ .error (.overflow .time)

/-- A round of the sweeper stays in the calendar if its purge does. -/
theorem sweepRound_ne_time {retention : Duration} {server : Server} {cutoff : Instant}
    (hnow : server.now? = some now) (hcutoff : now.subtract? retention = some cutoff)
    (weather : Weather) : (server.sweepRound weather retention).1 ≠ .error (.overflow .time) := by
  have htimely : sweepNow.Timely now := Flow.Timely.now_bind_iff.2 (SessionStore.timely_sweep _)
  have hsweep := htimely.perform hnow weather none
  have hclock := server.clock_perform weather none sweepNow
  unfold Server.sweepRound
  split
  next swept after heq =>
    rw [show server.perform weather none sweepNow = (swept, after) from heq] at hsweep hclock
    -- The purge begins with the clock where it was.
    have hpurge := (CodeStore.timely_purge_iff.2 ⟨cutoff, hcutoff⟩).perform
      (hnow ▸ congrArg Instant.ofClock? hclock : after.now? = some now) weather none
    split
    · simpa using hsweep
    · split <;> simp_all

/-- A server is in time if the calendar has the expiry of a session and of
a code that begin now, and the time from which on expired codes are kept. -/
theorem inTime_of_some {service : Service} {retention : Duration} {server : Server}
    {sessionEnd codeEnd cutoff : Instant} (hnow : server.now? = some now)
    (hsession : now.add? service.sessionTtl = some sessionEnd)
    (hcode : now.add? service.codeTtl = some codeEnd)
    (hcutoff : now.subtract? retention = some cutoff) : service.InTime retention server where
  lookUps token := (SessionStore.timely_get hsession token).perform hnow
  starts _ _ _ := (timely_startSession_iff.2 ⟨_, hsession⟩).perform hnow
  issues _ := (CodeStore.timely_issue_iff.2 ⟨_, hcode⟩).perform hnow
  purges := (CodeStore.timely_purge_iff.2 ⟨_, hcutoff⟩).perform hnow
  operations operation := (timely_operation operation hsession hcode).perform hnow
  rounds := sweepRound_ne_time hnow hcutoff

end Service

end

/-- A flow that reads the clock and then counts on stops if the calendar
has no such time. -/
theorem Server.perform_inCalendar_none {α : Type} {server : Server} {now : Instant}
    {count : Instant → Option Instant} {next : Instant → Instant → Flow α}
    (hnow : server.now? = some now) (hcount : count now = none) (weather : Weather)
    (limit : Option Nat) :
    server.perform weather limit (do
      let now ← Flow.now
      let time ← Flow.inCalendar (count now)
      next now time) = (.error (.overflow .time), server) := by
  have hrun : (do
      let now ← Flow.now
      let time ← Flow.inCalendar (count now)
      next now time).run weather limit {} server = (.error (.overflow .time), server) := by
    show Flow.run weather limit (.step .readClock _ _) {} server = _
    simp only [Flow.run, Step.run, hnow]
    show Flow.run weather limit ((Flow.inCalendar (count now)).bind _) {} server = _
    rw [hcount]
    rfl
  unfold perform
  rw [hrun]

/-! ### The spans that can be set -/

/-- The seconds that the clock counts until the end of the year 9999. -/
def secondsInUse : Int := 253402300800

example : (Time.Date.toDayNumber ⟨10000, 1, 1⟩ : Int) * 86400 = secondsInUse := by decide

namespace Instant

/-- The clock shows the instant between 1970 and the end of the year 9999. -/
def InUse (t : Instant) : Prop := 0 ≤ t.nanos ∧ t.nanos < secondsInUse * Duration.second

theorem exists_ofNanos?_iff {n : Int} : (∃ t, ofNanos? n = some t) ↔
    -8334601228800 * Duration.second ≤ n ∧ n < 8210266876800 * Duration.second := by
  constructor
  · rintro ⟨t, ht⟩
    rw [← nanos_of_ofNanos? ht]
    exact t.inCalendar
  · exact fun h => ⟨⟨n, h⟩, dif_pos h⟩

/-- The seconds that can always be added are those from the end of 9999 to
the end of the calendar. A longer span leads out of it from there, also if
it is cut down to the longest one. -/
theorem forall_add?_clamped_iff (seconds : Nat) :
    (∀ now : Instant, now.InUse → ∃ t, now.add? (.clamped seconds 0) = some t) ↔
      seconds ≤ 7956864576000 := by
  simp only [add?, exists_ofNanos?_iff, InUse, Duration.clamped, Duration.longest,
    Duration.millisecond, Duration.second, secondsInUse]
  constructor
  · intro h
    have hlast := h ⟨253402300800 * Duration.second - 1, by decide⟩ (by decide)
    simp only [Duration.second] at hlast
    omega
  · intro h now hnow
    omega

/-- The seconds that can always be taken away are those from the beginning
of the calendar to 1970. -/
theorem forall_subtract?_clamped_iff (seconds : Nat) :
    (∀ now : Instant, now.InUse → ∃ t, now.subtract? (.clamped seconds 0) = some t) ↔
      seconds ≤ 8334601228800 := by
  simp only [subtract?, exists_ofNanos?_iff, InUse, Duration.clamped, Duration.longest,
    Duration.millisecond, Duration.second, secondsInUse]
  constructor
  · intro h
    have hfirst := h epoch (by decide)
    simp only [epoch] at hfirst
    omega
  · intro h now hnow
    omega

end Instant

/-- A server with nothing stored. -/
def Server.idle (clock : Int) : Server := ⟨{}, .ofCapacity 1, clock, 0⟩

theorem Server.now?_idle {now : Instant} (h : now.InUse) : (idle now.nanos).now? = some now := by
  have hshown : Instant.ofNanos? now.nanos = some now := dif_pos now.inCalendar
  simp [now?, idle, Instant.ofClock?, h.1, hshown]

/-- A server that is in time has the three times that it counts up to. -/
theorem Service.InTime.exists_times {service : Service} {retention : Duration} {now : Instant}
    {server : Server} (h : service.InTime retention server) (hnow : server.now? = some now) :
    (∃ t, now.add? service.sessionTtl = some t) ∧ (∃ t, now.add? service.codeTtl = some t) ∧
      ∃ t, now.subtract? retention = some t := by
  have hstops {α : Type} (count : Instant → Option Instant) (next : Instant → Instant → Flow α)
      (hstays : server.StaysInCalendar (do
        let now ← Flow.now
        let time ← Flow.inCalendar (count now)
        next now time)) : ∃ t, count now = some t := by
    cases hcount : count now with
    | some t => exact ⟨t, rfl⟩
    | none =>
      refine absurd ?_ (hstays .fair none)
      rw [Server.perform_inCalendar_none hnow hcount]
  let order : CodeOrder := ⟨"", "", .challenge, default, .null, false⟩
  exact ⟨hstops _ _ (h.starts default default default), hstops _ _ (h.issues order),
    hstops _ _ h.purges⟩

namespace Service

/-- While the clock stands between 1970 and the end of the year 9999, the
server comes to no time outside the calendar, whatever is stored, if and
only if sessions live and codes are valid for 7956864576000 seconds at
most, and expired codes are kept for 8334601228800 seconds at most. Longer
spans are taken from the settings all the same. -/
theorem inTime_iff (lookup : String → Option String) (verifier : Option Verifier) :
    let settings := Settings.ofLookup lookup
    (∀ (server : Server) (now : Instant), server.now? = some now → now.InUse →
      (Service.ofSettings settings verifier).InTime settings.codeRetention server) ↔
    settings.sessionTtlSecs ≤ 7956864576000 ∧ settings.codeTtlSecs ≤ 7956864576000 ∧
      settings.codeRetentionSecs ≤ 8334601228800 := by
  intro settings
  simp only [← Instant.forall_add?_clamped_iff, ← Instant.forall_subtract?_clamped_iff]
  constructor
  · intro h
    have htimes (now : Instant) (huse : now.InUse) :=
      (h _ now (Server.now?_idle huse) huse).exists_times (Server.now?_idle huse)
    exact ⟨fun now huse => (htimes now huse).1, fun now huse => (htimes now huse).2.1,
      fun now huse => (htimes now huse).2.2⟩
  · rintro ⟨hsession, hcode, hcutoff⟩ server now hnow huse
    obtain ⟨_, hsession⟩ := hsession now huse
    obtain ⟨_, hcode⟩ := hcode now huse
    obtain ⟨_, hcutoff⟩ := hcutoff now huse
    exact inTime_of_some hnow hsession hcode hcutoff

end Service

/-- Expired codes are to be kept for as many seconds as fit into 64 bits. -/
def hoarding : String → Option String := fun name =>
  if name = "RECOVER_CODE_RETENTION_SECS" then some "18446744073709551615" else none

/-- The first round of the sweeper in 2026 stops it, and so does a purge by
itself. -/
theorem Settings.sweeper_stops :
    let retention := (Settings.ofLookup hoarding).codeRetention
    let server := Server.idle (1767225600 * Duration.second)
    (Settings.ofLookup hoarding).codeRetentionSecs = 18446744073709551615 ∧
    (server.perform .fair none (CodeStore.purge retention)).1 = .error (.overflow .time) ∧
    ∀ rounds, (server.sweepRounds .fair retention (rounds + 1)).1 = .error (.overflow .time) := by
  refine ⟨by decide +kernel, by rfl, fun rounds => ?_⟩
  rfl

end Gatekeeper

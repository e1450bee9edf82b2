import Gatekeeper.Proofs.Propagation

/-!
# `Gatekeeper.Proofs.FailStop`: failures and delays stop an operation

Two runs of an operation are compared, from one state: one in which calls
fail and take time, and one in which nothing is disturbed.

`flow.undisturbed server` is the run in which nothing is disturbed, and
`flow.calls server` are the calls that it makes. `weather.Spares limit
progress calls` says that none of them fails in the weather, and that they
end within the limit. If so, the two runs end in the same way and in the
same state (`Flow.outcome_of_spares`). Otherwise the first call that is
not spared fails, or comes too late. A flow that passes errors on stops
there with an internal error (`Flow.outcome_of_not_spares`), but one that
swallows them may end in any way. The induction is over the flow: up to
that call the two runs are in one state, and differ in their progress only.

`Service.fail_stop` puts both together for the operations of the service,
none of which swallows an error (`Operation.failStop`).
`flow.Yields post server` says that the undisturbed run does not stop at
all. What exactly it comes to follows from the equations of the parts, such
as `Flow.undisturbed_bind`.
-/

set_option autoImplicit false

namespace Gatekeeper

/-- Calls with an error to fail with fail, and every call takes its time. -/
def Weather.troubled (failures : Nat → Call → Option StoreError) (delays : Nat → Call → Nat) :
    Weather := fun number call =>
  { delay := delays number call
    disturbance :=
      match failures number call with
      | some error => .fault error
      | none => .none }

theorem Weather.clear_troubled (failures : Nat → Call → Option StoreError)
    (delays : Nat → Call → Nat) : (Weather.troubled failures delays).Clear := by
  intro number call
  simp only [troubled]
  split <;> simp

/-- How far an operation has come after one more call. -/
def Progress.after (weather : Weather) (progress : Progress) (call : Call) : Progress :=
  ⟨progress.calls + 1, progress.waited + (weather progress.calls call).delay⟩

/-- The next call is answered, and within the limit. -/
def Weather.SparesCall (weather : Weather) (limit : Option Nat) (progress : Progress)
    (call : Call) : Prop :=
  (weather progress.calls call).disturbance = .none ∧
    ∀ bound ∈ limit, (progress.after weather call).waited ≤ bound

/-- The next calls are all answered, and within the limit. -/
def Weather.Spares (weather : Weather) (limit : Option Nat) : Progress → List Call → Prop
  | _, [] => True
  | progress, call :: calls =>
    weather.SparesCall limit progress call ∧
      weather.Spares limit (progress.after weather call) calls

/-- The call to the database that a step is. -/
def Step.call? : Step → Option Call
  | .call c => some c
  | _ => none

/-- The answer to a step that is not disturbed, and the state after it. -/
def Step.undisturbed (step : Step) (server : Server) : Except Halt (step.Answer × Server) :=
  (step.run .fair none {} server).map fun (answer, _, after) => (answer, after)

/-- A step has no answer for the same reason, however far the operation is. -/
def Halt.at (progress : Progress) : Halt → Halt
  | failed error _ => failed error progress
  | stopped why => stopped why

/-- The end of a flow when nothing is disturbed, and the state after it. -/
def Flow.undisturbed {α : Type} : Flow α → Server → Except Stop α × Server
  | done a, server => (.ok a, server)
  | stop why, server => (.error why, server)
  | step s next failed, server =>
    match s.undisturbed server with
    | .ok (answer, after) => (next answer).undisturbed after
    | .error (.failed error _) => (failed error).undisturbed server
    | .error (.stopped why) => (.error why, server)

/-- The calls that a flow makes when nothing is disturbed. One that fails is
among them: it has an error of its own, as for a malformed row. -/
def Flow.calls {α : Type} : Flow α → Server → List Call
  | done _, _ => []
  | stop _, _ => []
  | step s next failed, server =>
    s.call?.toList ++
      match s.undisturbed server with
      | .ok (answer, after) => (next answer).calls after
      | .error (.failed error _) => (failed error).calls server
      | .error (.stopped _) => []

/-- How a flow ends in some weather, without how far it came, and the state
after it. -/
def Flow.outcome {α : Type} (weather : Weather) (limit : Option Nat) (flow : Flow α)
    (progress : Progress) (server : Server) : Except Stop α × Server :=
  ((flow.run weather limit progress server).1.map (·.1),
    (flow.run weather limit progress server).2)

section
variable {weather : Weather} {limit : Option Nat} {progress : Progress}

/-! ### One step -/

/-- A call that is spared fares as if it was not disturbed. -/
theorem Call.attempt_of_spares {call : Call} (h : weather.SparesCall limit progress call)
    (db : Database) :
    call.attempt weather limit progress db =
      match call.attempt .fair none {} db with
      | .ok (answer, _, db) => .ok (answer, progress.after weather call, db)
      | .error halt => .error (halt.at (progress.after weather call)) := by
  obtain ⟨hnone, hlimit⟩ := h
  have hwithin : limit.any (· < progress.waited + (weather progress.calls call).delay) = false := by
    cases limit with
    | none => rfl
    | some bound =>
      have hle := hlimit bound rfl
      simp only [Progress.after] at hle
      simp only [Option.any_some, decide_eq_false_iff_not]
      omega
  unfold attempt
  simp only [hwithin, hnone, Bool.false_eq_true, if_false, Option.any_none, Weather.fair,
    Progress.after]
  cases call.run db with
  | ok => rfl
  | error e => cases e <;> rfl

/-- A call that is not spared has no answer. It fails with an error that is
an internal one when it is passed on, or stops the operation with one. -/
theorem Call.attempt_of_not_spares (hclear : weather.Clear) {call : Call}
    (h : ¬ weather.SparesCall limit progress call) (db : Database) :
    ∃ halt reason, call.attempt weather limit progress db = .error halt ∧
      halt.stop = .refused (.internal reason) := by
  unfold attempt
  dsimp only
  split
  next => exact ⟨_, _, rfl, rfl⟩
  next hwithin =>
    split
    next hnone =>
      refine absurd ⟨hnone, ?_⟩ h
      intro bound hbound
      cases hbound
      simpa [Progress.after] using hwithin
    next => exact ⟨_, _, rfl, rfl⟩
    next hblind => exact absurd hblind (hclear _ _)

/-- A step that is no call fares in any weather as if it was not disturbed, and
one that is a call if it is spared. -/
theorem Step.run_of_spares {step : Step}
    (h : ∀ call ∈ step.call?, weather.SparesCall limit progress call) (server : Server) :
    ∃ progress', step.run weather limit progress server =
        (match step.undisturbed server with
        | .ok (answer, after) => .ok (answer, progress', after)
        | .error halt => .error (halt.at progress')) ∧
      progress' = (step.call?.map (progress.after weather)).getD progress := by
  refine ⟨_, ?_, rfl⟩
  cases step with
  | call c =>
    simp only [run, undisturbed, Call.attempt_of_spares (h c rfl)]
    cases c.attempt .fair none {} server.database <;> rfl
  | readClock =>
    simp only [run, undisturbed]
    split <;> rfl
  | lookUp | peek | remember | forget | listStale | drawId | lock | unlock => rfl

/-! ### A whole run -/

variable {α : Type} {server : Server}

theorem Server.perform_eq_outcome (weather : Weather) (limit : Option Nat) (flow : Flow α)
    (server : Server) :
    server.perform weather limit flow =
      match flow.outcome weather limit {} server with
      | (.ok a, after) => (.ok a, after)
      | (.error why, after) => (.error why, { after with idsDrawn := server.idsDrawn }) := by
  unfold perform Flow.outcome
  rcases flow.run weather limit {} server with ⟨end? | end?, after⟩ <;> rfl

theorem Server.perform_fst (weather : Weather) (limit : Option Nat) (flow : Flow α)
    (server : Server) :
    (server.perform weather limit flow).1 = (flow.outcome weather limit {} server).1 := by
  rw [Server.perform_eq_outcome]
  rcases flow.outcome weather limit {} server with ⟨end? | end?, after⟩ <;> rfl

namespace Flow

/-- The calls of a flow are spared if its first step is, should it be a
call, and the calls that it has still to make after it. -/
theorem spares_step {s : Step} {calls : List Call} :
    weather.Spares limit progress (s.call?.toList ++ calls) ↔
      (∀ call ∈ s.call?, weather.SparesCall limit progress call) ∧
        weather.Spares limit ((s.call?.map (progress.after weather)).getD progress) calls := by
  cases s.call? <;> simp [Weather.Spares]

/-- If all the calls of a flow are spared, it ends as if nothing was
disturbed. -/
theorem outcome_of_spares {flow : Flow α}
    (h : weather.Spares limit progress (flow.calls server)) :
    flow.outcome weather limit progress server = flow.undisturbed server := by
  induction flow generalizing progress server with
  | done | stop => rfl
  | step s next failed ih ihfailed =>
    rw [calls, spares_step] at h
    obtain ⟨hcall, hnext⟩ := h
    obtain ⟨progress', hrun, rfl⟩ := Step.run_of_spares hcall server
    unfold undisturbed outcome run
    rw [hrun]
    cases hanswer : s.undisturbed server with
    | ok answered =>
      rw [hanswer] at hnext
      exact ih _ hnext
    | error halt =>
      rw [hanswer] at hnext
      cases halt with
      | failed error _ => exact ihfailed error hnext
      | stopped why => rfl

/-- If not all the calls of a flow are spared, and it passes every error on, it
stops with an internal error. -/
theorem outcome_of_not_spares (hclear : weather.Clear) {flow : Flow α} (hfail : flow.FailStop)
    (h : ¬ weather.Spares limit progress (flow.calls server)) :
    ∃ reason, (flow.outcome weather limit progress server).1 =
      .error (.refused (.internal reason)) := by
  induction flow generalizing progress server with
  | done | stop => exact absurd trivial h
  | step s next failed ih _ =>
    rw [calls, spares_step] at h
    by_cases hcall : ∀ call ∈ s.call?, weather.SparesCall limit progress call
    · -- The step fares as it would, so it is a later call that is not spared.
      have hnext := fun hnext => h ⟨hcall, hnext⟩
      obtain ⟨progress', hrun, rfl⟩ := Step.run_of_spares hcall server
      cases hanswer : s.undisturbed server with
      | ok answered =>
        rw [hanswer] at hrun hnext
        unfold outcome run
        rw [hrun]
        exact ih _ (hfail.1 _) hnext
      | error halt =>
        -- Nothing comes after a step without answer.
        rw [hanswer] at hnext
        refine (hnext ?_).elim
        cases halt with
        | failed error _ =>
          dsimp only
          rw [hfail.2 error]
          trivial
        | stopped why => trivial
    · -- The step is a call, and it stops the flow.
      simp only [Classical.not_forall] at hcall
      obtain ⟨call, hmem, hnot⟩ := hcall
      cases s with
      | call c =>
        cases hmem
        obtain ⟨halt, reason, hattempt, hstop⟩ :=
          Call.attempt_of_not_spares hclear hnot server.database
        have hrun : (Step.call call).run weather limit progress server = .error halt := by
          simp only [Step.run, hattempt]
          rfl
        refine ⟨reason, ?_⟩
        rw [outcome, hfail.run_of_halt hrun, hstop]
        rfl
      | lookUp | peek | remember | forget | listStale | readClock | drawId | lock | unlock =>
        cases hmem

-- Who takes the error for a user that is not there goes on as if there was none.
example : (outcome (.troubled (fun _ _ => some (.unreachable "disk full")) fun _ _ => 0) none
    (do
      let found ← attempt (.findUser "ann")
      return found.toOption.join.isSome)
    {} server).1 = .ok false := rfl

/-- Fair weather spares every call. -/
theorem spares_fair (progress : Progress) (calls : List Call) :
    Weather.fair.Spares none progress calls := by
  induction calls generalizing progress with
  | nil => trivial
  | cons call calls ih => exact ⟨⟨rfl, nofun⟩, ih _⟩

/-- What an operation gives in some weather is what it gives when nothing is
disturbed. -/
theorem perform_fair_of_ok (hclear : weather.Clear) {flow : Flow α} (hfail : flow.FailStop) {a : α}
    (h : (server.perform weather limit flow).1 = .ok a) :
    (server.perform .fair none flow).1 = .ok a := by
  rw [Server.perform_fst] at h ⊢
  by_cases hspares : weather.Spares limit {} (flow.calls server)
  · rwa [outcome_of_spares (spares_fair _ _), ← outcome_of_spares hspares]
  · obtain ⟨reason, hstop⟩ := outcome_of_not_spares hclear hfail hspares
    rw [hstop] at h
    cases h

/-- An operation whose calls are all answered in time is not disturbed. -/
theorem perform_of_spares {flow : Flow α}
    (hspares : weather.Spares limit {} (flow.calls server)) :
    server.perform weather limit flow = server.perform .fair none flow := by
  rw [Server.perform_eq_outcome, Server.perform_eq_outcome, outcome_of_spares hspares,
    outcome_of_spares (spares_fair _ _)]

/-- Slow weather spares every call, if there is no limit. -/
theorem spares_slow (delays : Nat → Nat) (progress : Progress) (calls : List Call) :
    (Weather.slow delays).Spares none progress calls := by
  induction calls generalizing progress with
  | nil => trivial
  | cons call calls ih => exact ⟨⟨rfl, nofun⟩, ih _⟩

/-- Fair weather takes no time, so it spares every call within any limit. -/
theorem spares_fair_within (limit : Option Nat) (number : Nat) (calls : List Call) :
    Weather.fair.Spares limit ⟨number, 0⟩ calls := by
  induction calls generalizing number with
  | nil => trivial
  | cons call calls ih => exact ⟨⟨rfl, fun bound _ => Nat.zero_le bound⟩, ih _⟩

namespace Answers

variable {flow : Flow α} {end? : Except Stop α}

/-- A flow that only looks ends the same way when nothing is disturbed. -/
theorem undisturbed (h : flow.Answers server end?) : flow.undisturbed server = (end?, server) := by
  obtain ⟨after, hrun⟩ := h (fun _ => 0) {}
  rw [← outcome_of_spares (spares_slow (fun _ => 0) {} _), outcome, hrun]
  cases end? <;> rfl

/-- A flow that only looks comes to its end whenever all its calls are
answered in time, and the server stays as it is. -/
theorem perform_of_spares (h : flow.Answers server end?)
    (hspares : weather.Spares limit {} (flow.calls server)) :
    server.perform weather limit flow = (end?, server) := by
  rw [Server.perform_eq_outcome, outcome_of_spares hspares, h.undisturbed]
  cases end? <;> rfl

/-- In fair weather all calls are answered in time, whatever the limit. -/
theorem perform_fair (h : flow.Answers server end?) (limit : Option Nat) :
    server.perform .fair limit flow = (end?, server) :=
  h.perform_of_spares (spares_fair_within limit 0 _)

end Answers

/-- When nothing is disturbed, the flow does not stop, and its value and the
state after it satisfy `post`. -/
def Yields (post : α → Server → Prop) : Flow α → Server → Prop
  | done a, server => post a server
  | stop _, _ => False
  | step s next _, server => ∃ answer after, s.undisturbed server = .ok (answer, after) ∧
    (next answer).Yields post after

namespace Yields

variable {β : Type} {post : α → Server → Prop}

/-- A call is answered from the tables. -/
theorem call {c : Call} {next : c.Answer → Flow α} {failed : StoreError → Flow α}
    {answer : c.Answer} {database : Database}
    (h : c.run server.database = .ok (answer, database))
    (hnext : (next answer).Yields post { server with database }) :
    (Flow.step (.call c) next failed).Yields post server := by
  refine ⟨answer, { server with database }, ?_, hnext⟩
  unfold Step.undisturbed
  rw [Step.run_call h]
  rfl

/-- The clock is read. -/
theorem readClock {next : Instant → Flow α} {failed : StoreError → Flow α} {now : Instant}
    (hnow : server.now? = some now) (hnext : (next now).Yields post server) :
    (Flow.step .readClock next failed).Yields post server := by
  refine ⟨now, server, ?_, hnext⟩
  simp only [Step.undisturbed, Step.run, hnow]
  rfl

/-- A number is drawn. -/
theorem drawId {next : Nat → Flow α} {failed : StoreError → Flow α}
    (hnext : (next (server.idsDrawn + 1)).Yields post
      { server with idsDrawn := server.idsDrawn + 1 }) :
    (Flow.step .drawId next failed).Yields post server :=
  ⟨server.idsDrawn + 1, { server with idsDrawn := server.idsDrawn + 1 }, rfl, hnext⟩

/-- A flow goes on from the value of its first part. -/
theorem bind {post : β → Server → Prop} {flow : Flow α} {f : α → Flow β}
    (h : flow.Yields (fun a after => (f a).Yields post after) server) :
    (flow.bind f).Yields post server := by
  induction flow generalizing server with
  | done => exact h
  | stop => exact h
  | step s next failed ih _ =>
    obtain ⟨answer, after, hanswer, hnext⟩ := h
    exact ⟨answer, after, hanswer, ih answer hnext⟩

/-- Less may be asked of the end. -/
theorem mono {post' : α → Server → Prop} {flow : Flow α} (h : flow.Yields post server)
    (himp : ∀ a after, post a after → post' a after) : flow.Yields post' server := by
  induction flow generalizing server with
  | done a => exact himp a server h
  | stop => exact h
  | step s next failed ih _ =>
    obtain ⟨answer, after, hanswer, hnext⟩ := h
    exact ⟨answer, after, hanswer, ih answer hnext⟩

/-- An operation under a lock comes to the end that it comes to without. -/
theorem locked {token : String} {flow : Flow α} (h : flow.Yields post server) :
    (Flow.locked token flow).Yields post server := by
  refine ⟨(), server, rfl, ?_⟩
  show (flow.bind fun a => (take (.unlock token)).bind fun _ => .done a).Yields post server
  refine bind (h.mono ?_)
  intro a after hpost
  exact ⟨(), after, rfl, hpost⟩

/-- A flow that does not stop ends with a value. -/
theorem undisturbed {flow : Flow α} (h : flow.Yields post server) :
    ∃ a after, flow.undisturbed server = (.ok a, after) ∧ post a after := by
  induction flow generalizing server with
  | done a => exact ⟨a, server, rfl, h⟩
  | stop => exact h.elim
  | step s next failed ih _ =>
    obtain ⟨answer, after, hanswer, hnext⟩ := h
    unfold Flow.undisturbed
    rw [hanswer]
    exact ih answer hnext

/-- A flow that does not stop gives a value when it is performed. -/
theorem perform {flow : Flow α} (h : flow.Yields post server) :
    ∃ a, (server.perform .fair none flow).1 = .ok a ∧
      post a (server.perform .fair none flow).2 := by
  obtain ⟨a, after, hend, hpost⟩ := h.undisturbed
  rw [Server.perform_eq_outcome, outcome_of_spares (spares_fair _ _), hend]
  exact ⟨a, rfl, hpost⟩

end Yields

section Undisturbed
variable {β : Type}

/-- Two flows one after the other are undisturbed one after the other. -/
theorem undisturbed_bind (flow : Flow α) (f : α → Flow β) (server : Server) :
    (flow.bind f).undisturbed server =
      match flow.undisturbed server with
      | (.ok a, after) => (f a).undisturbed after
      | (.error why, after) => (.error why, after) := by
  induction flow generalizing server with
  | done | stop => rfl
  | step s next failed ih ihfailed =>
    simp only [bind, undisturbed]
    cases s.undisturbed server with
    | ok answered => exact ih _ _
    | error halt =>
      cases halt with
      | failed error _ => exact ihfailed _ _
      | stopped why => rfl

/-- A flow goes on from the value of its first part. -/
theorem undisturbed_bind_ok {flow : Flow α} {after : Server} {a : α}
    (h : flow.undisturbed server = (.ok a, after)) (f : α → Flow β) :
    (flow.bind f).undisturbed server = (f a).undisturbed after := by
  rw [undisturbed_bind, h]

/-- A flow stops with its first part. -/
theorem undisturbed_bind_error {flow : Flow α} {after : Server} {why : Stop}
    (h : flow.undisturbed server = (.error why, after)) (f : α → Flow β) :
    (flow.bind f).undisturbed server = (.error why, after) := by
  rw [undisturbed_bind, h]

/-- A call is answered from the tables. -/
theorem undisturbed_call {c : Call} {answer : c.Answer} {database : Database}
    (h : c.run server.database = .ok (answer, database)) (next : c.Answer → Flow α)
    (failed : StoreError → Flow α) :
    (Flow.step (.call c) next failed).undisturbed server =
      (next answer).undisturbed { server with database } := by
  simp only [undisturbed, Step.undisturbed, Step.run_call h]
  rfl

/-- After a call that fails for what is stored, the flow goes on with its error. -/
theorem undisturbed_call_error {c : Call} {e : StoreError}
    (h : c.run server.database = .error (.store e)) (next : c.Answer → Flow α)
    (failed : StoreError → Flow α) :
    (Flow.step (.call c) next failed).undisturbed server = (failed e).undisturbed server := by
  simp only [undisturbed, Step.undisturbed, Step.run, Call.attempt, h]
  rfl

/-- The clock is read. -/
theorem undisturbed_readClock {now : Instant} (hnow : server.now? = some now)
    (next : Instant → Flow α) (failed : StoreError → Flow α) :
    (Flow.step .readClock next failed).undisturbed server = (next now).undisturbed server := by
  simp only [undisturbed, Step.undisturbed, Step.run, hnow]
  rfl

/-- A lock changes nothing for an operation that runs by itself. -/
theorem undisturbed_locked (token : String) (flow : Flow α) (server : Server) :
    (Flow.locked token flow).undisturbed server = flow.undisturbed server := by
  show (flow.bind fun a => (take (.unlock token)).bind fun _ => .done a).undisturbed server = _
  rw [undisturbed_bind]
  rcases flow.undisturbed server with ⟨a | why, after⟩ <;> rfl

/-- An operation whose calls are all answered in time is as good as
undisturbed. -/
theorem perform_fst_of_spares {flow : Flow α}
    (hspares : weather.Spares limit {} (flow.calls server)) :
    (server.perform weather limit flow).1 = (flow.undisturbed server).1 := by
  rw [Server.perform_fst, outcome_of_spares hspares]

/-- The state is the one that the flow leaves, unless it stops. -/
theorem perform_ok_of_spares {flow : Flow α} {a : α} {after : Server}
    (hspares : weather.Spares limit {} (flow.calls server))
    (h : flow.undisturbed server = (.ok a, after)) :
    server.perform weather limit flow = (.ok a, after) := by
  rw [Server.perform_eq_outcome, outcome_of_spares hspares, h]

/-- A flow that stops gives the numbers back that it drew. -/
theorem perform_error_of_spares {flow : Flow α} {why : Stop} {after : Server}
    (hspares : weather.Spares limit {} (flow.calls server))
    (h : flow.undisturbed server = (.error why, after)) :
    server.perform weather limit flow =
      (.error why, { after with idsDrawn := server.idsDrawn }) := by
  rw [Server.perform_eq_outcome, outcome_of_spares hspares, h]

end Undisturbed

end Flow

end

/-! ### The operations of the service -/

/-- An operation of the service with its arguments, and the type of what it
gives. -/
inductive Operation : Type → Type where
  | authenticate (raw : String) (context : RequestContext) : Operation Identity
  | authorize (identity : Identity) (roles : List Role) (resource : String) : Operation Unit
  | authorizeWorkspace (identity : Identity) (roles : List Role) : Operation Unit
  | issueChallenge (address origin : String) (network : Network) : Operation RecoverCode
  | signIn (request : SignInRequest) : Operation Session
  | signOut (token : String) : Operation Unit
  | requestCode (identity : Identity) (origin : String) (cli : Bool) : Operation RecoverCode

/-- What an operation does. -/
def Operation.flow (service : Service) : {α : Type} → Operation α → Flow α
  | _, authenticate raw context => service.authenticate raw context
  | _, authorize identity roles resource => Service.authorize identity roles resource
  | _, authorizeWorkspace identity roles => Service.authorizeWorkspace identity roles
  | _, issueChallenge address origin network => service.issueChallenge address origin network
  | _, signIn request => service.signIn request
  | _, signOut token => Service.signOut token
  | _, requestCode identity origin cli => service.requestCode identity origin cli

/-- No operation swallows the error of a call. -/
theorem Operation.failStop (service : Service) {α : Type} (operation : Operation α) :
    (operation.flow service).FailStop := by
  cases operation with
  | authenticate raw context => exact service.failStop_authenticate raw context
  | authorize identity roles resource => exact Service.failStop_authorize identity roles resource
  | authorizeWorkspace identity roles => exact Service.failStop_authorizeWorkspace identity roles
  | issueChallenge address origin network =>
    exact service.failStop_issueChallenge address origin network
  | signIn request => exact service.failStop_signIn request
  | signOut token => exact Service.failStop_signOut token
  | requestCode identity origin cli => exact service.failStop_requestCode identity origin cli

/-- Whatever calls fail and however long they take, an operation is not
disturbed at all, neither in its end nor in the state that it leaves, or it
stops with an internal error. It is the latter as soon as one of the calls
that it comes to fails, or is not answered within the limit. -/
theorem Service.fail_stop {α : Type} (service : Service) (operation : Operation α)
    (failures : Nat → Call → Option StoreError) (delays : Nat → Call → Nat) (limit : Option Nat)
    (server : Server) :
    let flow := operation.flow service
    let weather := Weather.troubled failures delays
    (weather.Spares limit {} (flow.calls server) →
      server.perform weather limit flow = server.perform .fair none flow) ∧
    (¬ weather.Spares limit {} (flow.calls server) →
      ∃ reason, (server.perform weather limit flow).1 = .error (.refused (.internal reason))) := by
  intro flow weather
  constructor
  · exact Flow.perform_of_spares
  · intro hnot
    obtain ⟨reason, hstop⟩ :=
      Flow.outcome_of_not_spares (Weather.clear_troubled failures delays)
        (operation.failStop service) hnot
    refine ⟨reason, ?_⟩
    rw [Server.perform_fst]
    exact hstop

end Gatekeeper

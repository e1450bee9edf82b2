import Gatekeeper.Proofs.Database
import Gatekeeper.Proofs.Session.Cache
import Gatekeeper.Server

/-!
# `Gatekeeper.Proofs.Flow`: what an operation brings about

An operation is told when a call to the database fails, and may go on in
any way. `flow.FailStop` says that it never does: it passes the error on,
and has done with that. What this module says of the end of an operation
is for those that are fail-stop, since it does not look at what comes
after a failed call.

`flow.Ensures post server` says that `flow`, run by itself from `server`,
ends in a way that satisfies `post`, whichever of its calls to the
database fail. It is defined by recursion over the flow, step by step, so
it can be unfolded along an operation. `Flow.ensures_bind` passes it along
the parts of an operation, and `Flow.Ensures.mono` weakens it.

`Flow.Ensures.perform` ties it to `Server.perform`. There the weather may
be any in which no look-up for a row is blind: a blind look-up gives an
answer that is not that of the table, so nothing can be said about what
comes after it.

`flow.Observes p post server` also says that `p` holds of every answer on
the way, that is, of all that `flow.answered` lists.

`flow.Answers server end?` says how a flow that only looks for something
ends when all its calls are answered, and `check.PassesIff p server` when
a check passes. `Server.frame_of_perform` holds in any weather: an
operation changes the sessions and the codes at most.
-/

set_option autoImplicit false

namespace Gatekeeper

/-- No look-up for a row is blind. Calls may fail or be slow. -/
def Weather.Clear (weather : Weather) : Prop :=
  ∀ number call, (weather number call).disturbance ≠ .blindness

/-- The calls with a reason to fail fail, and the others are answered. -/
def Weather.failing (failures : Nat → Option String) : Weather := fun number _ =>
  match failures number with
  | some reason => { disturbance := .failure reason }
  | none => {}

theorem Weather.clear_failing (failures : Nat → Option String) :
    (Weather.failing failures).Clear := by
  intro number call
  unfold failing
  split <;> exact nofun

/-- Every call is answered, after a delay. -/
def Weather.slow (delays : Nat → Nat) : Weather := fun number _ => { delay := delays number }

theorem Weather.clear_fair : Weather.fair.Clear := fun _ _ => nofun

/-- A call that is answered in clear weather has the answer of the tables. -/
theorem Call.run_of_attempt {weather : Weather} (hclear : weather.Clear) {limit : Option Nat}
    {call : Call} {progress after : Progress} {db db' : Database} {answer : call.Answer}
    (h : call.attempt weather limit progress db = .ok (answer, after, db')) :
    call.run db = .ok (answer, db') := by
  unfold Call.attempt at h
  dsimp only at h
  split at h
  · cases h
  split at h
  next =>
    split at h
    next hrun =>
      rw [hrun]
      cases h
      rfl
    next => cases h
    next => cases h
  next => cases h
  next hblind => exact absurd hblind (hclear _ _)

/-- In fair weather a call is answered as it is by itself. -/
theorem Call.attempt_fair {c : Call} {answer : c.Answer} {db db' : Database}
    (h : c.run db = .ok (answer, db')) :
    c.attempt .fair none {} db = .ok (answer, ⟨1, 0⟩, db') := by
  unfold attempt
  rw [h]
  rfl

/-- A call that is answered is a step that is taken. -/
theorem Step.run_call {c : Call} {answer : c.Answer} {server : Server} {database : Database}
    (h : c.run server.database = .ok (answer, database)) :
    (Step.call c).run .fair none {} server = .ok (answer, ⟨1, 0⟩, { server with database }) := by
  simp only [Step.run, Call.attempt_fair h]
  rfl

/-- A step that is answered leads to `next`, and one that stops the
operation leads to `fail`. A call to the database may do either, as it
changes nothing when it fails. -/
def Step.Ensures : (step : Step) → Server → (step.Answer → Server → Prop) → (Stop → Prop) → Prop
  | .call c, server, next, fail =>
    (∀ why, fail why) ∧ ∀ answer database, c.run server.database = .ok (answer, database) →
      next answer { server with database }
  | .lookUp token, server, next, _ =>
    next (server.cache.peek token) { server with cache := (server.cache.get token).2 }
  | .peek token, server, next, _ => next (server.cache.peek token) server
  | .remember entry, server, next, _ => next () { server with cache := server.cache.put entry }
  | .forget token, server, next, _ =>
    next (server.cache.peek token).isSome { server with cache := server.cache.erase token }
  | .listStale time, server, next, _ => next (server.cache.staleTokens time) server
  | .readClock, server, next, fail =>
    (∀ now, server.now? = some now → next now server) ∧
      (server.now? = none → fail (.overflow .clock))
  | .drawId, server, next, _ =>
    next (server.idsDrawn + 1) { server with idsDrawn := server.idsDrawn + 1 }
  | .lock _, server, next, _ => next () server
  | .unlock _, server, next, _ => next () server

/-- What is ensured of an answered step may be weakened. -/
theorem Step.Ensures.mono {step : Step} {server : Server}
    {next next' : step.Answer → Server → Prop} {fail fail' : Stop → Prop}
    (h : step.Ensures server next fail)
    (hnext : ∀ answer after, next answer after → next' answer after)
    (hfail : ∀ why, fail why → fail' why) : step.Ensures server next' fail' := by
  cases step with
  | call c => exact ⟨fun why => hfail why (h.1 why), fun a db hrun => hnext _ _ (h.2 a db hrun)⟩
  | readClock =>
    exact ⟨fun now hnow => hnext _ _ (h.1 now hnow), fun hnone => hfail _ (h.2 hnone)⟩
  | lookUp | peek | remember | forget | listStale | drawId | lock | unlock => exact hnext _ _ h

/-- What is ensured of an answered step one by one is ensured together. -/
theorem Step.Ensures.and {step : Step} {server : Server}
    {next next' : step.Answer → Server → Prop} {fail fail' : Stop → Prop}
    (h : step.Ensures server next fail) (h' : step.Ensures server next' fail') :
    step.Ensures server (fun answer after => next answer after ∧ next' answer after)
      (fun why => fail why ∧ fail' why) := by
  cases step with
  | call c =>
    exact ⟨fun why => ⟨h.1 why, h'.1 why⟩, fun a db hrun => ⟨h.2 a db hrun, h'.2 a db hrun⟩⟩
  | readClock =>
    exact ⟨fun now hnow => ⟨h.1 now hnow, h'.1 now hnow⟩, fun hnone => ⟨h.2 hnone, h'.2 hnone⟩⟩
  | lookUp | peek | remember | forget | listStale | drawId | lock | unlock => exact ⟨h, h'⟩

/-- A step that is run and answered leads to where it is said to lead. -/
theorem Step.Ensures.answered {step : Step} {server after : Server}
    {next : step.Answer → Server → Prop} {fail : Stop → Prop}
    (h : step.Ensures server next fail) {weather : Weather} (hclear : weather.Clear)
    {limit : Option Nat} {progress progress' : Progress} {answer : step.Answer}
    (hrun : step.run weather limit progress server = .ok (answer, progress', after)) :
    next answer after := by
  cases step with
  | call c =>
    simp only [Step.run, bind, Except.bind] at hrun
    cases hanswer : c.attempt weather limit progress server.database with
    | error why =>
      rw [hanswer] at hrun
      cases hrun
    | ok answered =>
      rw [hanswer] at hrun
      cases hrun
      exact h.2 _ _ (Call.run_of_attempt hclear hanswer)
  | lookUp token =>
    have heq : (server.cache.get token).1 = answer ∧
        { server with cache := (server.cache.get token).2 } = after := by
      cases hrun
      exact ⟨rfl, rfl⟩
    rw [← heq.1, ← heq.2, SessionCache.get_fst]
    exact h
  | readClock =>
    cases hnow : server.now? with
    | some now =>
      simp only [Step.run, hnow] at hrun
      cases hrun
      exact h.1 _ hnow
    | none =>
      simp only [Step.run, hnow] at hrun
      cases hrun
  | peek | remember | forget | listStale | drawId | lock | unlock =>
    cases hrun
    exact h

/-- How an operation stops that does not go on after a step without answer. -/
def Halt.stop : Halt → Stop
  | failed error _ => .refused (.ofStore error)
  | stopped why => why

/-- A step that is run and not answered leads to its failure. -/
theorem Step.Ensures.halted {step : Step} {server : Server}
    {next : step.Answer → Server → Prop} {fail : Stop → Prop}
    (h : step.Ensures server next fail) {weather : Weather} {limit : Option Nat}
    {progress : Progress} {halt : Halt}
    (hrun : step.run weather limit progress server = .error halt) : fail halt.stop := by
  cases step with
  | call c => exact h.1 halt.stop
  | readClock =>
    cases hnow : server.now? with
    | some now =>
      simp only [Step.run, hnow] at hrun
      cases hrun
    | none =>
      simp only [Step.run, hnow] at hrun
      cases hrun
      exact h.2 hnow
  | lookUp | peek | remember | forget | listStale | drawId | lock | unlock => cases hrun

namespace Flow

variable {α β : Type}

/-! ### Operations that pass every error on -/

/-- When a call of the flow fails, the flow stops with the error. -/
def FailStop : Flow α → Prop
  | done _ | stop _ => True
  | step _ next failed =>
    (∀ answer, (next answer).FailStop) ∧ ∀ error, failed error = refuse (.ofStore error)

namespace FailStop

theorem bind {flow : Flow α} {f : α → Flow β} (h : flow.FailStop) (hnext : ∀ a, (f a).FailStop) :
    (flow >>= f).FailStop := by
  show (flow.bind f).FailStop
  induction flow with
  | done a => exact hnext a
  | stop => trivial
  | step s next failed ih _ =>
    refine ⟨fun answer => ih answer (h.1 answer), fun error => ?_⟩
    show (failed error).bind f = refuse (.ofStore error)
    rw [h.2 error]
    rfl

theorem locked {token : String} {flow : Flow α} (h : flow.FailStop) :
    (Flow.locked token flow).FailStop :=
  ⟨fun _ => h.bind fun _ => ⟨fun _ => trivial, fun _ => rfl⟩, fun _ => rfl⟩

@[simp] theorem of_map {flow : Flow α} (f : α → β) (h : flow.FailStop) : (f <$> flow).FailStop :=
  h.bind fun _ => trivial

@[simp] theorem of_pure (a : α) : (pure a : Flow α).FailStop := trivial

@[simp] theorem of_refuse (error : AuthError) : (refuse error : Flow α).FailStop := trivial

@[simp] theorem of_require (error : AuthError) (found : Option α) :
    (require error found).FailStop := by
  cases found <;> trivial

@[simp] theorem of_inCalendar (time : Option Instant) : (Flow.inCalendar time).FailStop := by
  cases time <;> trivial

-- The type of an answer depends on the step, so the lemmas about a single
-- step are not to be looked up by it.
@[simp] theorem of_take (s : Step) : @FailStop (no_index s.Answer) (take s) :=
  ⟨fun _ => trivial, fun _ => rfl⟩

/-- A single call passes its error on. -/
@[simp] theorem of_call (c : Call) : @FailStop (no_index c.Answer) (Flow.call c) :=
  ⟨fun _ => trivial, fun _ => rfl⟩

@[simp] theorem take_bind_iff {s : Step} {f : s.Answer → Flow α} :
    (@Bind.bind Flow _ (no_index s.Answer) α (take s) f).FailStop ↔ ∀ answer, (f answer).FailStop :=
  and_iff_left fun _ => rfl

@[simp] theorem call_bind_iff {c : Call} {f : c.Answer → Flow α} :
    (@Bind.bind Flow _ (no_index c.Answer) α (Flow.call c) f).FailStop ↔
      ∀ answer, (f answer).FailStop :=
  and_iff_left fun _ => rfl

@[simp] theorem now_bind_iff {f : Instant → Flow α} :
    (Flow.now >>= f).FailStop ↔ ∀ now, (f now).FailStop :=
  and_iff_left fun _ => rfl

/-- A step without answer stops the flow, whether it failed or not. -/
theorem run_of_halt {s : Step} {next : s.Answer → Flow α} {failed : StoreError → Flow α}
    (h : (Flow.step s next failed).FailStop) {weather : Weather} {limit : Option Nat}
    {progress : Progress} {server : Server} {halt : Halt}
    (hrun : s.run weather limit progress server = .error halt) :
    (Flow.step s next failed).run weather limit progress server = (.error halt.stop, server) := by
  unfold Flow.run
  rw [hrun]
  cases halt with
  | failed error progress =>
    dsimp only
    rw [h.2 error]
    rfl
  | stopped why => rfl

end FailStop

/-! ### How an operation ends -/

/-- However the calls of the flow fare, its end and the state after it
satisfy `post`. -/
def Ensures (post : Except Stop α → Server → Prop) : Flow α → Server → Prop
  | done a, server => post (.ok a) server
  | stop why, server => post (.error why) server
  | step s next _, server =>
    s.Ensures server (fun answer after => (next answer).Ensures post after)
      fun why => post (.error why) server

/-- What comes after a part of an operation has to be ensured from where
the part ends. -/
theorem ensures_bind {post : Except Stop β → Server → Prop} (flow : Flow α) (f : α → Flow β)
    (server : Server) :
    (flow.bind f).Ensures post server ↔
      flow.Ensures (fun end? after =>
        match end? with
        | .ok a => (f a).Ensures post after
        | .error why => post (.error why) after) server := by
  induction flow generalizing server with
  | done => rfl
  | stop => rfl
  | step s next failed ih _ =>
    constructor
    · exact fun h => h.mono (fun answer after => (ih answer after).1) fun _ => id
    · exact fun h => h.mono (fun answer after => (ih answer after).2) fun _ => id

/-- What is ensured may be weakened. -/
theorem Ensures.mono {post post' : Except Stop α → Server → Prop} {flow : Flow α}
    {server : Server} (h : flow.Ensures post server)
    (himp : ∀ end? after, post end? after → post' end? after) : flow.Ensures post' server := by
  induction flow generalizing server with
  | done => exact himp _ _ h
  | stop => exact himp _ _ h
  | step s next failed ih _ =>
    exact Step.Ensures.mono h (fun answer after hnext => ih answer hnext) fun why => himp _ _

/-- The value of a flow may be turned into another one. -/
theorem Ensures.map {post : Except Stop β → Server → Prop} {flow : Flow α}
    {server : Server} (f : α → β)
    (h : flow.Ensures (fun end? after => post (end?.map f) after) server) :
    (do return f (← flow)).Ensures post server := by
  show (flow.bind fun a => .done (f a)).Ensures post server
  rw [ensures_bind]
  refine h.mono ?_
  intro end? after hpost
  cases end? with
  | ok a => exact hpost
  | error why => exact hpost

/-- An operation under a lock ensures what it ensures without. -/
theorem ensures_locked {post : Except Stop α → Server → Prop} {token : String}
    {flow : Flow α} {server : Server} (h : flow.Ensures post server) :
    (locked token flow).Ensures post server := by
  show (flow.bind fun a => (take (.unlock token)).bind fun _ => .done a).Ensures post server
  rw [ensures_bind]
  refine h.mono ?_
  intro end? after hpost
  cases end? with
  | ok a => exact hpost
  | error why => exact hpost

/-- What is ensured of a flow holds when it is run, however far the operation
has come by then. -/
theorem Ensures.run {post : Except Stop α → Server → Prop} {flow : Flow α} {server : Server}
    (h : flow.Ensures post server) (hfail : flow.FailStop) {weather : Weather}
    (hclear : weather.Clear) (limit : Option Nat) (progress : Progress) :
    post ((flow.run weather limit progress server).1.map (·.1))
      (flow.run weather limit progress server).2 := by
  induction flow generalizing progress server with
  | done | stop => exact h
  | step s next failed ih _ =>
    cases hanswer : s.run weather limit progress server with
    | ok answered =>
      unfold Flow.run
      rw [hanswer]
      exact ih _ (Step.Ensures.answered h hclear hanswer) (hfail.1 _) _
    | error halt =>
      rw [hfail.run_of_halt hanswer]
      exact Step.Ensures.halted h hanswer

/-- What is ensured of a flow holds when it is performed. As the ids of a
stopped operation are given back, `post` must not count them. -/
theorem Ensures.perform {post : Except Stop α → Server → Prop} {flow : Flow α} {server : Server}
    (h : flow.Ensures post server) (hfail : flow.FailStop)
    (hids : ∀ why after idsDrawn, post (.error why) after →
      post (.error why) { after with idsDrawn })
    {weather : Weather} (hclear : weather.Clear) (limit : Option Nat) :
    post (server.perform weather limit flow).1 (server.perform weather limit flow).2 := by
  have hend := h.run hfail hclear limit {}
  unfold Server.perform
  split
  next heq => rw [heq] at hend; exact hend
  next heq => rw [heq] at hend; exact hids _ _ _ hend

/-! ### What is answered on the way -/

/-- However the calls of the flow fare, every answer that a step gets
satisfies `p`, and the end and the state after it satisfy `post`. -/
def Observes (p : (s : Step) → s.Answer → Prop) (post : Except Stop α → Server → Prop) :
    Flow α → Server → Prop
  | done a, server => post (.ok a) server
  | stop why, server => post (.error why) server
  | step s next _, server =>
    s.Ensures server (fun answer after => p s answer ∧ (next answer).Observes p post after)
      fun why => post (.error why) server

/-- The steps that are answered when a flow runs, with their answers. -/
def answered (weather : Weather) (limit : Option Nat) :
    Flow α → Progress → Server → List ((s : Step) × s.Answer)
  | done _, _, _ => []
  | stop _, _, _ => []
  | step s next failed, progress, server =>
    match s.run weather limit progress server with
    | .ok (answer, progress, server) =>
      ⟨s, answer⟩ :: (next answer).answered weather limit progress server
    | .error (.failed error progress) => (failed error).answered weather limit progress server
    | .error (.stopped _) => []

/-- A step without answer is the last one of a flow that passes errors on. -/
theorem FailStop.answered_of_halt {s : Step} {next : s.Answer → Flow α}
    {failed : StoreError → Flow α} (h : (Flow.step s next failed).FailStop) {weather : Weather}
    {limit : Option Nat} {progress : Progress} {server : Server} {halt : Halt}
    (hrun : s.run weather limit progress server = .error halt) :
    (Flow.step s next failed).answered weather limit progress server = [] := by
  unfold answered
  rw [hrun]
  cases halt with
  | failed error progress =>
    dsimp only
    rw [h.2 error]
    rfl
  | stopped why => rfl

namespace Observes

variable {p : (s : Step) → s.Answer → Prop} {server : Server}

/-- What is observed of a part of a flow and of what comes after it is
observed of the flow. -/
theorem bind {post : Except Stop β → Server → Prop} {flow : Flow α} {f : α → Flow β}
    (h : flow.Observes p (fun end? after =>
      match end? with
      | .ok a => (f a).Observes p post after
      | .error why => post (.error why) after) server) : (flow.bind f).Observes p post server := by
  induction flow generalizing server with
  | done | stop => exact h
  | step s next failed ih _ =>
    exact Step.Ensures.mono h (fun answer after hnext => ⟨hnext.1, ih answer hnext.2⟩) fun _ => id

/-- What is observed of the end may be weakened. -/
theorem mono {post post' : Except Stop α → Server → Prop} {flow : Flow α}
    (h : flow.Observes p post server) (himp : ∀ end? after, post end? after → post' end? after) :
    flow.Observes p post' server := by
  induction flow generalizing server with
  | done | stop => exact himp _ _ h
  | step s next failed ih _ =>
    exact Step.Ensures.mono h (fun answer after hnext => ⟨hnext.1, ih answer hnext.2⟩)
      fun why => himp _ _

/-- An operation under a lock brings about what it does without. -/
theorem locked {post : Except Stop α → Server → Prop} {token : String} {flow : Flow α}
    (h : flow.Observes p post server) (hlock : p (.lock token) ())
    (hunlock : p (.unlock token) ()) :
    (locked token flow).Observes p post server := by
  refine ⟨hlock, ?_⟩
  show (flow.bind fun a => (take (.unlock token)).bind fun _ => .done a).Observes p post server
  refine bind (h.mono ?_)
  intro end? after hpost
  cases end? with
  | ok a => exact ⟨hunlock, hpost⟩
  | error why => exact hpost

/-- What is observed of a flow is ensured. -/
theorem ensures {post : Except Stop α → Server → Prop} {flow : Flow α}
    (h : flow.Observes p post server) : flow.Ensures post server := by
  induction flow generalizing server with
  | done | stop => exact h
  | step s next failed ih _ =>
    exact Step.Ensures.mono h (fun answer after hnext => ih answer hnext.2) fun _ => id

/-- Every answer that a run lists is as was observed. -/
theorem of_mem_answered {post : Except Stop α → Server → Prop} {flow : Flow α}
    (h : flow.Observes p post server) (hfail : flow.FailStop) {weather : Weather}
    (hclear : weather.Clear) {limit : Option Nat} {progress : Progress} {s : Step}
    {answer : s.Answer}
    (hmem : ⟨s, answer⟩ ∈ flow.answered weather limit progress server) : p s answer := by
  induction flow generalizing progress server with
  | done | stop => cases hmem
  | step first next failed ih _ =>
    cases hanswer : first.run weather limit progress server with
    | ok reached =>
      unfold answered at hmem
      rw [hanswer] at hmem
      obtain ⟨hfirst, hnext⟩ := Step.Ensures.answered h hclear hanswer
      rcases List.mem_cons.1 hmem with heq | hmem
      · cases heq
        exact hfirst
      · exact ih _ hnext (hfail.1 _) hmem
    | error halt =>
      rw [hfail.answered_of_halt hanswer] at hmem
      cases hmem

end Observes

/-! ### What steps a flow takes -/

/-- Every step that the flow may come to satisfies `p`, whatever the answers
are, as long as no call fails. -/
def Takes (p : Step → Prop) : Flow α → Prop
  | done _ | stop _ => True
  | step s next _ => p s ∧ ∀ answer, (next answer).Takes p

namespace Takes

variable {p : Step → Prop}

theorem mono {p' : Step → Prop} {flow : Flow α} (h : flow.Takes p) (himp : ∀ s, p s → p' s) :
    flow.Takes p' := by
  induction flow with
  | done | stop => trivial
  | step s next failed ih _ => exact ⟨himp s h.1, fun answer => ih answer (h.2 answer)⟩

theorem bind {flow : Flow α} {f : α → Flow β} (h : flow.Takes p) (hnext : ∀ a, (f a).Takes p) :
    (flow >>= f).Takes p := by
  show (flow.bind f).Takes p
  induction flow with
  | done a => exact hnext a
  | stop => trivial
  | step s next failed ih _ => exact ⟨h.1, fun answer => ih answer (h.2 answer)⟩

theorem locked {token : String} {flow : Flow α} (hlock : p (.lock token))
    (hunlock : p (.unlock token)) (h : flow.Takes p) : (Flow.locked token flow).Takes p :=
  ⟨hlock, fun _ => h.bind fun _ => ⟨hunlock, fun _ => trivial⟩⟩

@[simp] theorem of_pure (a : α) : (pure a : Flow α).Takes p := trivial

@[simp] theorem of_refuse (error : AuthError) : (refuse error : Flow α).Takes p := trivial

@[simp] theorem of_require (error : AuthError) (found : Option α) :
    (require error found).Takes p := by
  cases found <;> trivial

@[simp] theorem of_inCalendar (time : Option Instant) : (Flow.inCalendar time).Takes p := by
  cases time <;> trivial

-- The type of an answer depends on the step, so the lemmas about a single
-- step are not to be looked up by it.
@[simp] theorem take_iff {s : Step} : @Takes (no_index s.Answer) p (take s) ↔ p s :=
  ⟨fun h => h.1, fun h => ⟨h, fun _ => trivial⟩⟩

@[simp] theorem call_iff {c : Call} :
    @Takes (no_index c.Answer) p (Flow.call c) ↔ p (.call c) := take_iff

@[simp] theorem take_bind_iff {s : Step} {f : s.Answer → Flow α} :
    (@Bind.bind Flow _ (no_index s.Answer) α (take s) f).Takes p ↔
      p s ∧ ∀ answer, (f answer).Takes p := Iff.rfl

@[simp] theorem call_bind_iff {c : Call} {f : c.Answer → Flow α} :
    (@Bind.bind Flow _ (no_index c.Answer) α (Flow.call c) f).Takes p ↔
      p (.call c) ∧ ∀ answer, (f answer).Takes p := Iff.rfl

@[simp] theorem now_bind_iff {f : Instant → Flow α} :
    (Flow.now >>= f).Takes p ↔ p .readClock ∧ ∀ now, (f now).Takes p := Iff.rfl

@[simp] theorem map_iff {flow : Flow α} {f : α → β} : (f <$> flow).Takes p ↔ flow.Takes p := by
  show (flow.bind fun a => .done (f a)).Takes p ↔ flow.Takes p
  induction flow with
  | done | stop => rfl
  | step s next failed ih _ => exact and_congr_right fun _ => forall_congr' ih

end Takes

/-! ### Operations that only look -/

/-- When every call is answered, the flow comes to this end, and the
server stays as it is. -/
def Answers (flow : Flow α) (server : Server) (end? : Except Stop α) : Prop :=
  ∀ delays progress, ∃ after,
    flow.run (.slow delays) none progress server = (end?.map (·, after), server)

namespace Answers

variable {server : Server}

theorem done (a : α) : (Flow.done a).Answers server (.ok a) := fun _ progress => ⟨progress, rfl⟩

theorem stop (why : Stop) : (Flow.stop why : Flow α).Answers server (.error why) :=
  fun _ progress => ⟨progress, rfl⟩

/-- A call is answered from the tables. -/
theorem call {c : Call} {answer : c.Answer}
    (h : c.run server.database = .ok (answer, server.database)) :
    (Flow.call c).Answers server (.ok answer) := by
  intro delays progress
  refine ⟨⟨progress.calls + 1, progress.waited + delays progress.calls⟩, ?_⟩
  have hattempt : c.attempt (.slow delays) none progress server.database =
      .ok (answer, ⟨progress.calls + 1, progress.waited + delays progress.calls⟩,
        server.database) := by
    unfold Call.attempt
    rw [h]
    rfl
  simp only [call_eq_take, take, run, Step.run, hattempt]
  rfl

/-- A flow goes on from the answer of its first part. -/
theorem bind {flow : Flow α} {f : α → Flow β} {a : α} {end? : Except Stop β}
    (h : flow.Answers server (.ok a)) (hnext : (f a).Answers server end?) :
    (flow.bind f).Answers server end? := by
  intro delays progress
  obtain ⟨after, hrun⟩ := h delays progress
  obtain ⟨last, hlast⟩ := hnext delays after
  refine ⟨last, ?_⟩
  rw [run_bind, hrun]
  exact hlast

/-- A flow stops with its first part. -/
theorem bind_stop {flow : Flow α} {f : α → Flow β} {why : Stop}
    (h : flow.Answers server (.error why)) : (flow.bind f).Answers server (.error why) := by
  intro delays progress
  obtain ⟨after, hrun⟩ := h delays progress
  refine ⟨after, ?_⟩
  rw [run_bind, hrun]
  rfl

/-- The end that a flow comes to is the one that it is performed with. -/
theorem perform {flow : Flow α} {end? : Except Stop α} (h : flow.Answers server end?)
    (delays : Nat → Nat) : (server.perform (.slow delays) none flow).1 = end? := by
  obtain ⟨after, hrun⟩ := h delays {}
  unfold Server.perform
  rw [hrun]
  cases end? with
  | ok a => rfl
  | error why => rfl

end Answers

/-- When every call is answered, the check passes if and only if `p`. -/
def PassesIff (p : Prop) (check : Flow Unit) (server : Server) : Prop :=
  ∃ end?, check.Answers server end? ∧ (end? = .ok () ↔ p)

namespace PassesIff

variable {p : Prop} {server : Server}

theorem done (hp : p) : (Flow.done ()).PassesIff p server :=
  ⟨.ok (), .done (), fun _ => hp, fun _ => rfl⟩

/-- A check that stops does not pass. -/
theorem of_stopped {check : Flow Unit} {why : Stop} (h : check.Answers server (.error why))
    (hnot : ¬ p) : check.PassesIff p server :=
  ⟨.error why, h, (fun heq => nomatch heq), fun hp => absurd hp hnot⟩

/-- A check goes on from the answer of its first part. -/
theorem bind {flow : Flow α} {f : α → Flow Unit} {a : α} (h : flow.Answers server (.ok a))
    (hnext : (f a).PassesIff p server) : (flow.bind f).PassesIff p server := by
  obtain ⟨end?, hend, hiff⟩ := hnext
  exact ⟨end?, h.bind hend, hiff⟩

/-- A condition is checked. -/
theorem guard {c : Bool} (hc : c = true ↔ p) (error : AuthError) :
    PassesIff p (if c = true then Flow.done () else refuse error) server := by
  split
  next htrue => exact .done (hc.1 htrue)
  next hfalse => exact .of_stopped (.stop _) fun hp => hfalse (hc.2 hp)

theorem perform {check : Flow Unit} (h : check.PassesIff p server) (delays : Nat → Nat) :
    (server.perform (.slow delays) none check).1 = .ok () ↔ p := by
  obtain ⟨end?, hend, hiff⟩ := h
  rw [hend.perform delays, hiff]

end PassesIff

end Flow

/-! ### What no operation changes -/

/-- An operation that stops gives the ids back that it drew. -/
theorem Server.idsDrawn_of_stopped {α : Type} {weather : Weather} {limit : Option Nat}
    {flow : Flow α} {server after : Server} {why : Stop}
    (h : server.perform weather limit flow = (.error why, after)) :
    after.idsDrawn = server.idsDrawn := by
  unfold perform at h
  split at h
  · cases h
  · cases h
    rfl

/-- A call changes the sessions or the codes at most, whatever becomes of
it. -/
theorem Call.frame_of_attempt {weather : Weather} {limit : Option Nat} {call : Call}
    {progress after : Progress} {db db' : Database} {answer : call.Answer}
    (h : call.attempt weather limit progress db = .ok (answer, after, db')) :
    ∃ sessions codes, db' = { db with sessions, codes } := by
  unfold attempt at h
  dsimp only at h
  split at h
  · cases h
  split at h
  next =>
    -- A call that is made changes no more than it does by itself.
    split at h
    next hcall =>
      cases h
      exact frame_of_run hcall
    next => cases h
    next => cases h
  next => cases h
  next =>
    split at h
    · -- A blind look-up has touched nothing.
      cases h
      exact ⟨db.sessions, db.codes, rfl⟩
    · split at h
      next hcall =>
        cases h
        exact frame_of_run hcall
      next => cases h
      next => cases h

theorem Step.frame_of_run {weather : Weather} {limit : Option Nat} {step : Step}
    {progress progress' : Progress} {server after : Server} {answer : step.Answer}
    (h : step.run weather limit progress server = .ok (answer, progress', after)) :
    ∃ sessions codes, after.database = { server.database with sessions, codes } := by
  cases step with
  | call c =>
    simp only [run, bind, Except.bind] at h
    cases hanswer : c.attempt weather limit progress server.database with
    | error why =>
      rw [hanswer] at h
      cases h
    | ok answered =>
      rw [hanswer] at h
      cases h
      exact Call.frame_of_attempt hanswer
  | readClock =>
    simp only [run] at h
    split at h
    · cases h
      exact ⟨_, _, rfl⟩
    · cases h
  | lookUp | peek | remember | forget | listStale | drawId | lock | unlock =>
    cases h
    exact ⟨_, _, rfl⟩

/-- An operation changes the sessions and the codes at most, in whatever
weather. -/
theorem Server.frame_of_perform {α : Type} (weather : Weather) (limit : Option Nat)
    (flow : Flow α) (server : Server) :
    ∃ sessions codes,
      (server.perform weather limit flow).2.database =
        { server.database with sessions, codes } := by
  have hrun (progress : Progress) : ∃ sessions codes,
      (flow.run weather limit progress server).2.database =
        { server.database with sessions, codes } := by
    induction flow generalizing progress server with
    | done | stop => exact ⟨_, _, rfl⟩
    | step s next failed ih ihfailed =>
      unfold Flow.run
      split
      next answer progress' after hstep =>
        obtain ⟨sessions, codes, hafter⟩ := Step.frame_of_run hstep
        obtain ⟨sessions', codes', hend⟩ := ih answer after progress'
        exact ⟨sessions', codes', by rw [hend, hafter]⟩
      next => exact ihfailed _ _ _
      next => exact ⟨_, _, rfl⟩
  obtain ⟨sessions, codes, hend⟩ := hrun {}
  unfold perform
  split
  next heq =>
    rw [heq] at hend
    exact ⟨sessions, codes, hend⟩
  next heq =>
    rw [heq] at hend
    exact ⟨sessions, codes, hend⟩

theorem Step.clock_of_run {weather : Weather} {limit : Option Nat} {step : Step}
    {progress progress' : Progress} {server after : Server} {answer : step.Answer}
    (h : step.run weather limit progress server = .ok (answer, progress', after)) :
    after.clock = server.clock := by
  cases step with
  | call c =>
    simp only [run] at h
    cases hanswer : c.attempt weather limit progress server.database with
    | error why =>
      rw [hanswer] at h
      cases h
    | ok answered =>
      rw [hanswer] at h
      cases h
      rfl
  | readClock =>
    simp only [run] at h
    split at h <;> cases h
    rfl
  | lookUp | peek | remember | forget | listStale | drawId | lock | unlock =>
    cases h
    rfl

/-- No operation sets the clock. -/
theorem Server.clock_perform {α : Type} (weather : Weather) (limit : Option Nat) (flow : Flow α)
    (server : Server) : (server.perform weather limit flow).2.clock = server.clock := by
  have hrun (progress : Progress) :
      (flow.run weather limit progress server).2.clock = server.clock := by
    induction flow generalizing progress server with
    | done | stop => rfl
    | step s next failed ih ihfailed =>
      unfold Flow.run
      split
      next hstep => rw [ih, Step.clock_of_run hstep]
      next => exact ihfailed _ _ _
      next => rfl
  have hend := hrun {}
  unfold perform
  split <;> simp_all

end Gatekeeper

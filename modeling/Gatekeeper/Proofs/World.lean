import Gatekeeper.Proofs.Flow

/-!
# `Gatekeeper.Proofs.World`: operations that interleave

A `World` is a server with the operations under way on it. `Moves` lets
one of them take its next step, in any order: requests arrive, a task
takes a step, a task is left where it stands, the process ends and begins
again. A task that waits for a lock has to let the others go first, and
locks are shared out over stripes, so a token may have to wait for
another one. `Reaches` says what worlds come of any number of moves.

A call to the database that fails changes nothing, and its task goes on
with the error. As every operation passes it on, that is its end. A caller
that goes away leaves its task where it stands.

To prove something of every reachable world, it takes an invariant of the
world and, for each task, something that its rest will never do whatever
the answers are. The latter is `Flow.Follows`: the rest of the flow keeps
to a `Discipline`, which has the task in one of several modes. Disciplines
are of use for an operation that runs by itself too (`Follows.ensures`).
-/

set_option autoImplicit false

namespace Gatekeeper

/-- How a flow without further steps ends. -/
def Flow.end? {α : Type} : Flow α → Option (Except Stop α)
  | done a => some (.ok a)
  | stop why => some (.error why)
  | step .. => none

/-- The tokens whose locks an operation holds after a step. -/
def Step.heldAfter (held : List String) : Step → List String
  | .lock token => token :: held
  | .unlock token => held.filter (· != token)
  | _ => held

variable {ρ α : Type}

/-- An operation under way. -/
structure Task (ρ α : Type) where
  request : ρ
  /-- What it has still to do. -/
  rest : Flow α
  /-- The tokens whose locks it holds. -/
  held : List String

/-- Something that happened to a task, by its number. -/
inductive Happening (ρ α : Type) where
  | arrived (task : Nat) (request : ρ)
  /-- A step was answered. If it was the last one, the task came to its end
  with it. -/
  | took (task : Nat) (request : ρ) (step : Step) (answer : step.Answer)
      (end? : Option (Except Stop α))
  /-- A call failed, and the task went on with the error, or came to its end. -/
  | failed (task : Nat) (request : ρ) (call : Call) (error : StoreError)
      (end? : Option (Except Stop α))
  | left (task : Nat) (request : ρ)

/-- A step that was taken, with its answer. -/
abbrev Taken : Type := (step : Step) × step.Answer

/-- The steps that the operation under way in a place has taken, latest
first. A call that failed is not among them. -/
def stepsOf (i : Nat) : List (Happening ρ α) → List Taken
  | [] => []
  | .took j _ step answer end? :: past =>
    if j = i then (if end?.isSome then [] else ⟨step, answer⟩ :: stepsOf i past)
    else stepsOf i past
  | .failed j _ _ _ end? :: past =>
    if j = i ∧ end?.isSome then [] else stepsOf i past
  | .arrived j _ :: past | .left j _ :: past => if j = i then [] else stepsOf i past

/-- A task comes, or it goes with the error of a call, or it goes anyway. It has
taken no step with that. -/
inductive Happening.Idle (i : Nat) (request : ρ) : Happening ρ α → Prop
  | arrived : Idle i request (.arrived i request)
  | failed (call : Call) (error : StoreError) :
      Idle i request (.failed i request call error (some (.error (.refused (.ofStore error)))))
  | left : Idle i request (.left i request)

/-- A server and the operations under way on it. -/
structure World (ρ α : Type) where
  server : Server
  /-- The tasks, by number. -/
  tasks : Nat → Option (Task ρ α)
  /-- What happened, latest first. -/
  past : List (Happening ρ α)

namespace World

/-- No operation is under way. -/
def start (server : Server) : World ρ α := ⟨server, fun _ => none, []⟩

/-- The tasks with another one, or none, in a place. -/
def withTask (w : World ρ α) (i : Nat) (task : Option (Task ρ α)) : Nat → Option (Task ρ α) :=
  fun j => if j = i then task else w.tasks j

/-- No task holds a lock that stands for the token. -/
def Free (stripe : String → Nat) (w : World ρ α) (token : String) : Prop :=
  ∀ i task, w.tasks i = some task → ∀ held ∈ task.held, stripe held ≠ stripe token

/-- The task goes on, unless it has come to its end. -/
def goesOn (task : Task ρ α) : Option (Task ρ α) :=
  match task.rest.end? with
  | some _ => none
  | none => some task

/-- One world comes right after another. -/
inductive Moves (stripe : String → Nat) (flowOf : ρ → Flow α) : World ρ α → World ρ α → Prop
  | arrive {w : World ρ α} (i : Nat) (request : ρ) (hfree : w.tasks i = none) :
      Moves stripe flowOf w
        ⟨w.server, w.withTask i (some ⟨request, flowOf request, []⟩), .arrived i request :: w.past⟩
  | take {w : World ρ α} {i : Nat} {request : ρ} {step : Step} {next : step.Answer → Flow α}
      {failed : StoreError → Flow α} {held : List String} {answer : step.Answer}
      {progress : Progress} {server : Server}
      (htask : w.tasks i = some ⟨request, .step step next failed, held⟩)
      (hfree : ∀ token, step = .lock token → w.Free stripe token)
      (hrun : step.run .fair none {} w.server = .ok (answer, progress, server)) :
      Moves stripe flowOf w
        ⟨server, w.withTask i (goesOn ⟨request, next answer, step.heldAfter held⟩),
          .took i request step answer (next answer).end? :: w.past⟩
  /-- A call fails. -/
  | fail {w : World ρ α} {i : Nat} {request : ρ} {call : Call} {next : call.Answer → Flow α}
      {failed : StoreError → Flow α} {held : List String} (error : StoreError)
      (htask : w.tasks i = some ⟨request, .step (.call call) next failed, held⟩) :
      Moves stripe flowOf w
        ⟨w.server, w.withTask i (goesOn ⟨request, failed error, held⟩),
          .failed i request call error (failed error).end? :: w.past⟩
  /-- The operation is abandoned, as when its caller goes away, when it runs out
  of time, or when the clock cannot be read. -/
  | leave {w : World ρ α} {i : Nat} {task : Task ρ α} (htask : w.tasks i = some task) :
      Moves stripe flowOf w ⟨w.server, w.withTask i none, .left i task.request :: w.past⟩
  /-- The process ends and begins again. -/
  | restart {w : World ρ α} (capacity : Nat) :
      Moves stripe flowOf w
        ⟨{ w.server with cache := .ofCapacity capacity }, fun _ => none, w.past⟩
  | setClock {w : World ρ α} (clock : Int) :
      Moves stripe flowOf w { w with server.clock := clock }
  /-- Somebody else writes tables other than those of the sessions and the
  codes. -/
  | edit {w : World ρ α} (database : Database)
      (hsessions : database.sessions = w.server.database.sessions)
      (hcodes : database.codes = w.server.database.codes) :
      Moves stripe flowOf w { w with server.database := database }

/-- A world comes of any number of moves from the first one. -/
inductive Reaches (stripe : String → Nat) (flowOf : ρ → Flow α) (first : World ρ α) :
    World ρ α → Prop
  | start : Reaches stripe flowOf first first
  | move {w w' : World ρ α} (h : Reaches stripe flowOf first w) (hmove : Moves stripe flowOf w w') :
      Reaches stripe flowOf first w'

/-- What holds at first and is kept by every move holds in every world that
is reached. -/
theorem Reaches.invariant {stripe : String → Nat} {flowOf : ρ → Flow α} {first w : World ρ α}
    {Inv : World ρ α → Prop} (h : Reaches stripe flowOf first w) (hfirst : Inv first)
    (hmoves : ∀ {w w'}, Inv w → Moves stripe flowOf w w' → Inv w') : Inv w := by
  induction h with
  | start => exact hfirst
  | move _ hmove ih => exact hmoves ih hmove

/-- A task takes its next step in a world that is reached. -/
theorem Reaches.take {stripe : String → Nat} {flowOf : ρ → Flow α} {first w : World ρ α}
    (h : Reaches stripe flowOf first w) (i : Nat) {request : ρ} {step : Step}
    {next : step.Answer → Flow α} {failed : StoreError → Flow α} {held : List String}
    {answer : step.Answer} {progress : Progress} {server : Server}
    (htask : w.tasks i = some ⟨request, .step step next failed, held⟩)
    (hfree : ∀ token, step = .lock token → w.Free stripe token)
    (hrun : step.run .fair none {} w.server = .ok (answer, progress, server)) :
    Reaches stripe flowOf first
      ⟨server, w.withTask i (goesOn ⟨request, next answer, step.heldAfter held⟩),
        .took i request step answer (next answer).end? :: w.past⟩ :=
  h.move (.take htask hfree hrun)

/-- Every task passes the errors of its calls on. -/
def FailStop (w : World ρ α) : Prop := ∀ i task, w.tasks i = some task → task.rest.FailStop

/-- When no task holds a lock, each of them is free. -/
theorem free_of_held {stripe : String → Nat} {w : World ρ α} (token : String)
    (h : ∀ i task, w.tasks i = some task → task.held = []) : w.Free stripe token := by
  intro i task hi held hmem
  rw [h i task hi] at hmem
  cases hmem

/-- A task under way is the one that was put in its place, or was under way
before. -/
theorem of_withTask {w : World ρ α} {i j : Nat} {task : Option (Task ρ α)} {task' : Task ρ α}
    (h : w.withTask i task j = some task') :
    (j = i ∧ task = some task') ∨ (j ≠ i ∧ w.tasks j = some task') := by
  unfold withTask at h
  split at h
  next heq => exact .inl ⟨heq, h⟩
  next hne => exact .inr ⟨hne, h⟩

/-- A task that goes leaves the others as they are. -/
theorem of_withTask_none {w : World ρ α} {i j : Nat} {task : Task ρ α}
    (h : w.withTask i none j = some task) : j ≠ i ∧ w.tasks j = some task := by
  rcases of_withTask h with ⟨-, hnone⟩ | hold
  · cases hnone
  · exact hold

/-- A task that goes on is the one that it was. -/
theorem eq_of_goesOn {task task' : Task ρ α} (h : goesOn task = some task') : task' = task := by
  unfold goesOn at h
  split at h
  · cases h
  · exact (Option.some.inj h).symm

/-- After a failed call, nothing is left to do but to stop with its error. -/
theorem FailStop.failed_eq {w : World ρ α} (h : w.FailStop) {i : Nat} {request : ρ} {step : Step}
    {next : step.Answer → Flow α} {failed : StoreError → Flow α} {held : List String}
    (htask : w.tasks i = some ⟨request, .step step next failed, held⟩) (error : StoreError) :
    failed error = .refuse (.ofStore error) := (h i _ htask).2 error

/-- If the operations pass errors on, so does every task after every move. -/
theorem FailStop.move {stripe : String → Nat} {flowOf : ρ → Flow α} {w w' : World ρ α}
    (h : w.FailStop) (hflows : ∀ request, (flowOf request).FailStop)
    (hmove : Moves stripe flowOf w w') : w'.FailStop := by
  intro j task hj
  cases hmove with
  | arrive i request hfree =>
    rcases of_withTask hj with ⟨-, hnew⟩ | ⟨-, hold⟩
    · cases hnew
      exact hflows request
    · exact h j task hold
  | @take i request step next failed held answer progress server htask hfree hrun =>
    rcases of_withTask hj with ⟨-, hgoes⟩ | ⟨-, hold⟩
    · rw [eq_of_goesOn hgoes]
      exact (h i _ htask).1 answer
    · exact h j task hold
  | @fail i request call next failed held error htask =>
    rcases of_withTask hj with ⟨-, hgoes⟩ | ⟨-, hold⟩
    -- The task with the error has come to its end.
    · rw [h.failed_eq htask error] at hgoes
      cases hgoes
    · exact h j task hold
  | leave htask => exact h j task (of_withTask_none hj).2
  | restart capacity => cases hj
  | setClock | edit => exact h j task hj

/-- So does every task in every world that is reached. -/
theorem FailStop.reaches {stripe : String → Nat} {flowOf : ρ → Flow α} {w w' : World ρ α}
    (h : w.FailStop) (hflows : ∀ request, (flowOf request).FailStop)
    (hreaches : Reaches stripe flowOf w w') : w'.FailStop :=
  hreaches.invariant h fun hw hmove => hw.move hflows hmove

/-- Who meets with a call that fails ends with its error. -/
theorem FailStop.ends {stripe : String → Nat} {flowOf : ρ → Flow α} {w w' : World ρ α}
    (h : w.FailStop) (hflows : ∀ request, (flowOf request).FailStop) (hpast : w.past = [])
    (hreaches : Reaches stripe flowOf w w') {i : Nat} {request : ρ} {call : Call}
    {error : StoreError} {ended : Option (Except Stop α)}
    (hfailed : .failed i request call error ended ∈ w'.past) :
    ended = some (.error (.refused (.ofStore error))) := by
  -- Only the move that made it tells how a failed call ended.
  induction hreaches with
  | start =>
    rw [hpast] at hfailed
    cases hfailed
  | move hreaches hmove ih =>
    cases hmove with
    | arrive | take | leave =>
      rcases List.mem_cons.1 hfailed with heq | hmem
      · cases heq
      · exact ih hmem
    | fail error htask =>
      rcases List.mem_cons.1 hfailed with heq | hmem
      · cases heq
        rw [(h.reaches hflows hreaches).failed_eq htask error]
        rfl
      · exact ih hmem
    | restart | setClock | edit => exact ih hfailed

/-- At first no task is under way. -/
theorem failStop_start (server : Server) : (start server : World ρ α).FailStop := nofun

/-- What holds at first and is kept by every move of operations that pass errors
on holds in every world that is reached. -/
theorem Reaches.invariant_of_failStop {stripe : String → Nat} {flowOf : ρ → Flow α}
    {first w : World ρ α} {Inv : World ρ α → Prop} (h : Reaches stripe flowOf first w)
    (hflows : ∀ request, (flowOf request).FailStop) (hfailStop : first.FailStop)
    (hfirst : Inv first)
    (hmoves : ∀ {w w'}, w.FailStop → Inv w → Moves stripe flowOf w w' → Inv w') : Inv w := by
  induction h with
  | start => exact hfirst
  | move hreaches hmove ih => exact hmoves (hfailStop.reaches hflows hreaches) ih hmove

end World

/-! ### Disciplines -/

/-- What operations keep to. It is told in modes that an operation is in. -/
structure Discipline (μ : Type) where
  /-- The steps that may be taken in a mode. -/
  allows : μ → Step → Prop
  /-- The modes that a step may lead to when it gets an answer. Without any,
  the answer is not expected. -/
  leads : μ → (step : Step) → step.Answer → μ → Prop

/-- The flow keeps to the discipline from a mode on, as long as no call
fails, and its end satisfies `post` in the mode that it is then in. -/
def Flow.Follows {μ : Type} (d : Discipline μ) (post : μ → Except Stop α → Prop) :
    μ → Flow α → Prop
  | mode, done a => post mode (.ok a)
  | mode, stop why => post mode (.error why)
  | mode, step s next _ =>
    d.allows mode s ∧ ∀ answer mode', d.leads mode s answer mode' →
      (next answer).Follows d post mode'

namespace Flow.Follows

variable {β μ : Type} {d : Discipline μ}

/-- What comes after a part of an operation has to keep to the discipline
from the mode in which the part ends. -/
theorem bind {post : μ → Except Stop β → Prop} {flow : Flow α} {f : α → Flow β} {mode : μ}
    (h : flow.Follows d (fun mode end? =>
      match end? with
      | .ok a => (f a).Follows d post mode
      | .error why => post mode (.error why)) mode) : (flow.bind f).Follows d post mode := by
  induction flow generalizing mode with
  | done => exact h
  | stop => exact h
  | step s next failed ih _ =>
    exact ⟨h.1, fun answer mode' hleads => ih answer (h.2 answer mode' hleads)⟩

/-- Less may be asked of the end. -/
theorem mono {post post' : μ → Except Stop α → Prop} {flow : Flow α} {mode : μ}
    (h : flow.Follows d post mode) (himp : ∀ mode end?, post mode end? → post' mode end?) :
    flow.Follows d post' mode := by
  induction flow generalizing mode with
  | done => exact himp _ _ h
  | stop => exact himp _ _ h
  | step s next failed ih _ =>
    exact ⟨h.1, fun answer mode' hleads => ih answer (h.2 answer mode' hleads)⟩

/-- An invariant that is kept by every step that the discipline allows holds
at the end of a flow that keeps to the discipline. If a step fails, the
flow is in a mode in which steps may fail. -/
theorem ensures {Inv : μ → Server → Prop} {mayFail : μ → Prop}
    (hstep : ∀ {mode step server}, Inv mode server → d.allows mode step →
      step.Ensures server
        (fun answer after => ∃ mode', d.leads mode step answer mode' ∧ Inv mode' after)
        fun _ => mayFail mode)
    {post : μ → Except Stop α → Prop} (hfail : ∀ mode why, mayFail mode → post mode (.error why))
    {flow : Flow α} {mode : μ} (h : flow.Follows d post mode) {server : Server}
    (hinv : Inv mode server) :
    flow.Ensures (fun end? after => ∃ mode', Inv mode' after ∧ post mode' end?) server := by
  induction flow generalizing mode server with
  | done | stop => exact ⟨mode, hinv, h⟩
  | step s next failed ih _ =>
    refine (hstep hinv h.1).mono ?_ fun why hmay => ⟨mode, hinv, hfail mode why hmay⟩
    rintro answer after ⟨mode', hleads, hinv'⟩
    exact ih answer (h.2 answer mode' hleads) hinv'

/-- A flow that has come to its end does so as is asked. -/
theorem of_end {post : μ → Except Stop α → Prop} {flow : Flow α} {mode : μ}
    (h : flow.Follows d post mode) {end? : Except Stop α} (hend : flow.end? = some end?) :
    post mode end? := by
  cases flow with
  | done a => cases hend; exact h
  | stop why => cases hend; exact h
  | step => cases hend

end Flow.Follows

end Gatekeeper

import Gatekeeper.Flow

/-!
# `Gatekeeper.Server`: running operations

The state of the server is its database, its session cache, its clock and the number of ids
it has given out. `Server.perform` runs an operation on it, and `Flow.run_bind` says that the
parts of an operation run one after the other.

While an operation runs, the database may be slow, or fail without changing anything. The
`Weather` says which of its calls are disturbed and how. An operation is told the error of a call
that fails, and goes on from there. It may have a limit for the time that its calls take
together; the first call that would exceed it is not made, and the operation is refused, whatever
it would have done next. Waiting does not move the clock.

The clock may be set to any time. While it stands before 1970 or after the calendar, it cannot
be read, and an operation that reads it stops.
-/

set_option autoImplicit false

namespace Gatekeeper

/-- What becomes of a call to the database. -/
inductive Disturbance where
  /-- The call is answered. -/
  | none
  /-- The call fails with an error. -/
  | fault (error : StoreError)
  /-- A call that looks for a row finds none. -/
  | blindness
  deriving DecidableEq, Repr

/-- The call fails, as the store cannot be reached for a reason. -/
def Disturbance.failure (reason : String) : Disturbance := fault (.unreachable reason)

/-- How a call to the database is disturbed, and how long it takes in milliseconds. -/
structure Disruption where
  delay : Nat := 0
  disturbance : Disturbance := .none
  deriving DecidableEq, Repr

/-- How the calls of an operation are disrupted, by their number, from 0, and the call. -/
abbrev Weather : Type := Nat → Call → Disruption

/-- No call is disrupted. -/
def Weather.fair : Weather := fun _ _ => {}

/-- The answer to a call that looks for a row and finds none. -/
def Call.nothing? : (call : Call) → Option call.Answer
  | findSession _ | findCode _ | findUser _ | findUserByAddress _ | findWorkspace _
  | findPermissions _ | findResourceOwner _ | findDapp _ => some none
  | _ => none

/-- The state of the server. -/
structure Server where
  database : Database
  cache : SessionCache
  /-- What the clock counts, in nanoseconds since 1970-01-01T00:00:00Z. -/
  clock : Int
  /-- How many ids have been given out. -/
  idsDrawn : Nat

/-- The instant that the clock shows. -/
def Server.now? (server : Server) : Option Instant := Instant.ofClock? server.clock

/-- How far an operation has come. -/
structure Progress where
  /-- The number of calls made to the database. -/
  calls : Nat := 0
  /-- The time that they took, in milliseconds. -/
  waited : Nat := 0

/-- Why a step is not answered. -/
inductive Halt where
  /-- It failed, and the operation goes on from there with the error. -/
  | failed (error : StoreError) (progress : Progress)
  /-- It ends the operation. -/
  | stopped (why : Stop)

/-- The answer to a call, if weather and limit let it be made. -/
def Call.attempt (weather : Weather) (limit : Option Nat) (call : Call) (progress : Progress)
    (db : Database) : Except Halt (call.Answer × Progress × Database) :=
  let disruption := weather progress.calls call
  let progress := ⟨progress.calls + 1, progress.waited + disruption.delay⟩
  let run : Except Halt (call.Answer × Progress × Database) :=
    match call.run db with
    | .ok (answer, db) => .ok (answer, progress, db)
    | .error (.store e) => .error (.failed e progress)
    | .error (.overflow cause) => .error (.stopped (.overflow cause))
  if limit.any (· < progress.waited) then .error (.stopped (.refused .deadlineExceeded))
  else match disruption.disturbance with
    | .none => run
    | .fault error => .error (.failed error progress)
    | .blindness =>
      match call.nothing? with
      | some answer => .ok (answer, progress, db)
      | none => run

/-- The answer to a step, and the state after it. -/
def Step.run (weather : Weather) (limit : Option Nat) :
    (step : Step) → Progress → Server → Except Halt (step.Answer × Progress × Server)
  | .call c, progress, server => do
    let (answer, progress, database) ← c.attempt weather limit progress server.database
    return (answer, progress, { server with database })
  | .lookUp token, progress, server =>
    let (entry, cache) := server.cache.get token
    .ok (entry, progress, { server with cache })
  | .peek token, progress, server => .ok (server.cache.peek token, progress, server)
  | .remember entry, progress, server =>
    .ok ((), progress, { server with cache := server.cache.put entry })
  | .forget token, progress, server =>
    .ok ((server.cache.peek token).isSome, progress,
      { server with cache := server.cache.erase token })
  | .listStale time, progress, server => .ok (server.cache.staleTokens time, progress, server)
  | .readClock, progress, server =>
    match server.now? with
    | some now => .ok (now, progress, server)
    | none => .error (.stopped (.overflow .clock))
  | .drawId, progress, server =>
    .ok (server.idsDrawn + 1, progress, { server with idsDrawn := server.idsDrawn + 1 })
  | .lock _, progress, server => .ok ((), progress, server)
  | .unlock _, progress, server => .ok ((), progress, server)

/-- The end of a flow that runs by itself, how far it came, and the state after it. -/
def Flow.run {α : Type} (weather : Weather) (limit : Option Nat) :
    Flow α → Progress → Server → Except Stop (α × Progress) × Server
  | done a, progress, server => (.ok (a, progress), server)
  | stop why, _, server => (.error why, server)
  | step s next failed, progress, server =>
    match s.run weather limit progress server with
    | .ok (answer, progress, server) => (next answer).run weather limit progress server
    | .error (.failed error progress) => (failed error).run weather limit progress server
    | .error (.stopped why) => (.error why, server)

/-- Two flows one after the other run one after the other, and the second goes on with the
state and the progress of the first. -/
theorem Flow.run_bind {α β : Type} (weather : Weather) (limit : Option Nat) (flow : Flow α)
    (f : α → Flow β) (progress : Progress) (server : Server) :
    (flow.bind f).run weather limit progress server =
      match flow.run weather limit progress server with
      | (.ok (a, progress), server) => (f a).run weather limit progress server
      | (.error why, server) => (.error why, server) := by
  induction flow generalizing progress server with
  | done a => rfl
  | stop why => rfl
  | step s next failed ih ihfailed =>
    simp only [Flow.bind, Flow.run]
    cases s.run weather limit progress server with
    | ok answered => exact ih _ _ _
    | error halt =>
      cases halt with
      | failed error progress => exact ihfailed _ _ _
      | stopped why => rfl

/-- Runs an operation to its end. One that stops shows no ids, so it gives those that it drew
back. -/
def Server.perform {α : Type} (weather : Weather) (limit : Option Nat) (flow : Flow α)
    (server : Server) : Except Stop α × Server :=
  match flow.run weather limit {} server with
  | (.ok (a, _), after) => (.ok a, after)
  | (.error why, after) => (.error why, { after with idsDrawn := server.idsDrawn })

/-- The server as its process begins, unless there can be no room for its cache. -/
def Server.start? (database : Database) (cacheCapacity : Nat) (clock : Int) : Option Server := do
  return { database, cache := ← SessionCache.ofCapacity? cacheCapacity, clock, idsDrawn := 0 }

/-- The server after its process has ended and begun again: what is in memory is lost. -/
def Server.restart? (server : Server) (cacheCapacity : Nat) : Option Server := do
  return { server with cache := ← SessionCache.ofCapacity? cacheCapacity }

/-- The server some time later, or earlier. -/
def Server.advance (server : Server) (span : Duration) : Server :=
  { server with clock := server.clock + span }

end Gatekeeper

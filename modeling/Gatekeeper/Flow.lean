import Gatekeeper.Database
import Gatekeeper.Session.Cache

/-!
# `Gatekeeper.Flow`: operations as sequences of steps

An operation of the server is a sequence of steps, each of them atomic: an access to the
session cache, one call to the database, a look at the clock. What comes next depends on the
answers, and on whether a call is answered at all: one that fails gives an error, and it is up
to the operation what to do about it. A `Flow` is such a sequence as data, so the same operation
can be run by itself, run while the database is slow or failing, abandoned between two steps, or
interleaved with other operations.

A flow ends with a value, or it stops: with a refusal, or by an overflow.

The steps of an operation on a session lie between `lock` and `unlock` of its token. Who
stops or is abandoned gives back every lock.
-/

set_option autoImplicit false

namespace Gatekeeper

/-- Why an operation stops. -/
inductive Stop where
  | refused (error : AuthError)
  | overflow (cause : Overflow)
  deriving DecidableEq, Repr

/-- An atomic step of an operation. -/
inductive Step where
  /-- A call to the database. -/
  | call (call : Call)
  /-- Looks a token up in the cache and makes it the most recently used. -/
  | lookUp (token : String)
  /-- Looks a token up in the cache. -/
  | peek (token : String)
  /-- Puts an entry into the cache. -/
  | remember (entry : CachedSession)
  /-- Takes a token out of the cache, and says whether it was there. -/
  | forget (token : String)
  /-- Lists the tokens in the cache that a sweep has to look at. -/
  | listStale (time : Timestamp)
  /-- Reads the clock. -/
  | readClock
  /-- Draws a number that no other draw gives. -/
  | drawId
  /-- Waits until no other operation is at work on the token. -/
  | lock (token : String)
  /-- Lets other operations work on the token. -/
  | unlock (token : String)

/-- What a step is answered with. -/
abbrev Step.Answer : Step → Type
  | call c => c.Answer
  | lookUp _ => Option CachedSession
  | peek _ => Option CachedSession
  | remember _ => Unit
  | forget _ => Bool
  | listStale _ => List String
  | readClock => Instant
  | drawId => Nat
  | lock _ => Unit
  | unlock _ => Unit

/-- An operation that gives an `α`. -/
inductive Flow (α : Type) : Type where
  | done (a : α)
  | stop (why : Stop)
  /-- A step, and what comes next, by the answer, or else by the error with which it failed.
  Only calls to the database fail. -/
  | step (step : Step) (next : step.Answer → Flow α) (failed : StoreError → Flow α)

namespace Flow

variable {α β : Type}

/-- One flow, then another one that depends on its value. -/
def bind : Flow α → (α → Flow β) → Flow β
  | done a, f => f a
  | stop why, _ => stop why
  | step s next failed, f =>
    step s (fun answer => (next answer).bind f) fun error => (failed error).bind f

instance : Monad Flow where
  pure := done
  bind := bind

theorem bind_done (flow : Flow α) : flow.bind done = flow := by
  induction flow with
  | done => rfl
  | stop => rfl
  | step s next failed ih ihfailed => simp [bind, ih, ihfailed]

theorem bind_assoc {γ : Type} (flow : Flow α) (f : α → Flow β) (g : β → Flow γ) :
    (flow.bind f).bind g = flow.bind fun a => (f a).bind g := by
  induction flow with
  | done => rfl
  | stop => rfl
  | step s next failed ih ihfailed => simp [bind, ih, ihfailed]

instance : LawfulMonad Flow := LawfulMonad.mk' Flow
  (fun flow => bind_done flow)
  (fun _ _ => rfl)
  bind_assoc

/-- Stops with a refusal. -/
def refuse (error : AuthError) : Flow α := stop (.refused error)

/-- A single step, which is refused if it fails. -/
def take (s : Step) : Flow s.Answer := step s done fun error => refuse (.ofStore error)

/-- A single call to the database, which may fail. -/
def attempt (c : Call) : Flow (Except StoreError c.Answer) :=
  step (.call c) (fun answer => done (.ok answer)) fun error => done (.error error)

/-- A single call to the database. If it fails, its error is passed on as a refusal. -/
def call (c : Call) : Flow c.Answer := do
  match ← attempt c with
  | .ok answer => return answer
  | .error error => refuse (.ofStore error)

/-- Such a call is a single step that is refused if it fails. -/
theorem call_eq_take (c : Call) : call c = take (.call c) := rfl

/-- The value, or a refusal if there is none. -/
def require (error : AuthError) : Option α → Flow α
  | some a => done a
  | none => refuse error

/-- The instant, or a stop if the calendar has none. -/
def inCalendar : Option Instant → Flow Instant
  | some t => done t
  | none => stop (.overflow .time)

/-- The instant that the clock shows. -/
def now : Flow Instant := take .readClock

/-- A flow during which no other operation works on the token. -/
def locked (token : String) (flow : Flow α) : Flow α := do
  take (.lock token)
  let a ← flow
  take (.unlock token)
  return a

end Flow

end Gatekeeper

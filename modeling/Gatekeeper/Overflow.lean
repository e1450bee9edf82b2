/-!
# `Gatekeeper.Overflow`: what can leave its range

Times lie in a calendar with a first and a last year, the clock counts from 1970 on, and a
recover code counts its uses in 32 bits. An operation that would leave one of these ranges
stops without an answer.
-/

set_option autoImplicit false

namespace Gatekeeper

/-- What would leave its range. -/
inductive Overflow where
  /-- A time would lie before or after the calendar. -/
  | time
  /-- The clock stands before 1970 or after the calendar. -/
  | clock
  /-- A recover code would be used more often than it can count. -/
  | uses
  deriving DecidableEq, Repr

end Gatekeeper

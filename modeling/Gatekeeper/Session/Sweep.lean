import Gatekeeper.Session.Store

/-!
# `Gatekeeper.Session.Sweep`: removing expired sessions

A sweep goes through the cache first: expired entries are removed with their rows, and
renewals that the rows do not have yet are written to them. Only then are the expired rows
deleted, so a session that lives on in the cache keeps its row.
-/

set_option autoImplicit false

namespace Gatekeeper

/-- What a sweep did. -/
structure SweepReport where
  /-- The number of expired entries taken out of the cache. -/
  cachedRemoved : Nat := 0
  /-- The number of rows deleted. -/
  durablePurged : Nat := 0
  /-- The number of renewals written to rows. -/
  flushed : Nat := 0
  deriving DecidableEq, Repr

namespace SessionStore

open Gatekeeper.Flow (call take locked)

/-- Sweeps one token of the cache. -/
def sweepToken (time : Timestamp) (token : String) (report : SweepReport) : Flow SweepReport :=
  locked token do
    match ← take (.peek token) with
    | none => return report
    | some entry =>
      if entry.session.isExpired time then
        let _ ← take (.forget token)
        let report := { report with cachedRemoved := report.cachedRemoved + 1 }
        if ← call (.deleteSession token) then
          return { report with durablePurged := report.durablePurged + 1 }
        else return report
      else if entry.isPending then
        if ← call (.updateSession entry.session) then
          take (.remember (.persisted entry.session))
          return { report with flushed := report.flushed + 1 }
        else
          let _ ← take (.forget token)
          return report
      else return report

/-- Sweeps the tokens of the cache one after the other. -/
def sweepTokens (time : Timestamp) : List String → SweepReport → Flow SweepReport
  | [], report => return report
  | token :: tokens, report => do sweepTokens time tokens (← sweepToken time token report)

/-- Removes every session that is expired at a time. -/
def sweep (time : Timestamp) : Flow SweepReport := do
  let tokens ← take (.listStale time)
  let report ← sweepTokens time tokens {}
  let purged ← call (.deleteExpiredSessions time)
  return { report with durablePurged := report.durablePurged + purged }

end SessionStore

end Gatekeeper

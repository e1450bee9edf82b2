import Gatekeeper.Flow

/-!
# `Gatekeeper.Session.Store`: sessions in memory and on disk

Sessions are kept in the cache and in the durable table. Each look-up of a live session
renews it: it then lives for the full span from now on, so a client that comes back within the
span never loses it. The renewal goes to the cache at once, and to the durable row only when
the row lags behind by more than half of the span.

Every operation on a token works under its lock. That is why a sign-out cannot be undone by a
renewal that read the session before.
-/

set_option autoImplicit false

namespace Gatekeeper.SessionStore

open Gatekeeper.Flow (call take locked)

/-- Writes a session to its row, then to the cache. -/
def add (session : Session) : Flow Unit :=
  locked session.token do
    call (.upsertSession session)
    take (.remember (.persisted session))

/-- The entry with its expiry moved to `renewedUntil`, unless it is later already. -/
def renewed (entry : CachedSession) (renewedUntil : Timestamp) : CachedSession :=
  if entry.session.expiresAt < renewedUntil then
    { entry with session := { entry.session with expiresAt := renewedUntil } }
  else entry

/-- Whether the row of an entry lags behind by more than half of the span that sessions
live. -/
def isOverdue (ttl : Duration) (entry : CachedSession) : Bool :=
  ttl.half < entry.session.expiresAt.since entry.persistedUntil

/-- The session of a token, from the cache or else from its row. A live session comes back
renewed, an expired one as it is. -/
def get (ttl : Duration) (token : String) : Flow (Option Session) :=
  locked token do
    let cached ← take (.lookUp token)
    let entry ← match cached with
      | some entry => pure (some entry)
      | none => do
        let session ← call (.findSession token)
        pure (session.map .persisted)
    match entry with
    | none => return none
    | some entry => do
      let now ← Flow.now
      if entry.session.isExpired now then return some entry.session
      else
        let entry := renewed entry (← Flow.inCalendar (now.add? ttl))
        if isOverdue ttl entry then
          -- The row is gone if somebody else removed it.
          if ← call (.updateSession entry.session) then
            take (.remember (.persisted entry.session))
            return some entry.session
          else
            let _ ← take (.forget token)
            return none
        else
          take (.remember entry)
          return some entry.session

/-- Takes a token out of the cache and deletes its row, and says whether it was anywhere. -/
def remove (token : String) : Flow Bool :=
  locked token do
    let cached ← take (.forget token)
    let durable ← call (.deleteSession token)
    return cached || durable

end Gatekeeper.SessionStore

import Gatekeeper.Session.Basic

/-!
# `Gatekeeper.Session.Cache`: the sessions in memory

The cache keeps the sessions that were used last, up to its capacity, most recently used
first. Each entry remembers the expiry that its durable row had when it was last written. An
expiry that is later than that one is a renewal that the row does not have yet.
-/

set_option autoImplicit false

namespace Gatekeeper

/-- A session in memory. -/
structure CachedSession where
  session : Session
  /-- The expiry that the durable row has. -/
  persistedUntil : Timestamp
  deriving DecidableEq, Inhabited

namespace CachedSession

/-- The entry for a session that is like its durable row. -/
def persisted (session : Session) : CachedSession := ⟨session, session.expiresAt⟩

/-- Whether the durable row expires before the entry. -/
def isPending (entry : CachedSession) : Bool := entry.persistedUntil < entry.session.expiresAt

/-- Whether a sweep has to look at the entry: it is expired, or its row lags behind. -/
def isStale (entry : CachedSession) (time : Timestamp) : Bool :=
  entry.session.isExpired time || entry.isPending

end CachedSession

/-- The sessions in memory. -/
structure SessionCache where
  /-- How many entries are kept. -/
  capacity : Nat
  /-- The entries by token, most recently used first. -/
  entries : List (String × CachedSession)
  deriving DecidableEq

namespace SessionCache

/-- The empty cache. It has room for one session at least. -/
def ofCapacity (capacity : Nat) : SessionCache := ⟨max capacity 1, []⟩

/-- The largest capacity for which there can be room. The room is set aside at once: a power of
two of places, one in eight of them free, each of them 17 bytes. Of such numbers of places,
`2 ^ 58` is the last that stays below `2 ^ 63` bytes, where the addresses end. -/
def maxCapacity : Nat := 252201579132747776

/-- The empty cache, unless there can be no room for it. -/
def ofCapacity? (capacity : Nat) : Option SessionCache :=
  if capacity ≤ maxCapacity then some (.ofCapacity capacity) else none

example : maxCapacity * 8 = Nat.pow 2 58 * 7 := by decide +kernel

/-- The entry under a token. -/
def peek (c : SessionCache) (token : String) : Option CachedSession := c.entries.lookup token

/-- The cache without the entry under a token. -/
def erase (c : SessionCache) (token : String) : SessionCache :=
  { c with entries := c.entries.filter fun entry => entry.1 != token }

/-- The entry under a token, and the cache in which it is the most recently used. -/
def get (c : SessionCache) (token : String) : Option CachedSession × SessionCache :=
  match c.peek token with
  | some entry => (some entry, { c with entries := (token, entry) :: (c.erase token).entries })
  | none => (none, c)

/-- The cache with an entry as the most recently used, and without the least recently used
one if there is no room. -/
def put (c : SessionCache) (entry : CachedSession) : SessionCache :=
  let token := entry.session.token
  { c with entries := ((token, entry) :: (c.erase token).entries).take c.capacity }

/-- The number of entries. -/
def size (c : SessionCache) : Nat := c.entries.length

/-- Whether there are no entries. -/
def isEmpty (c : SessionCache) : Bool := c.entries.isEmpty

/-- The tokens whose entries a sweep has to look at, most recently used first. -/
def staleTokens (c : SessionCache) (time : Timestamp) : List String :=
  (c.entries.filter fun entry => entry.2.isStale time).map (·.1)

end SessionCache

end Gatekeeper

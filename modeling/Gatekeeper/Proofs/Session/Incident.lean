import Gatekeeper.Proofs.Flow
import Gatekeeper.Session.Sweep

/-!
# `Gatekeeper.Proofs.Session.Incident`: what happens to the session store

An `Incident` is anything that happens to the store: an operation, of whose
calls to the database any may fail, an eviction, the end of the process, a
clock that is set. Sweeps may be told any time. `afterIncidents` is the
server after many of them.

An `Event` is an incident that comes while the clock goes on: it is not set
back, and a sweep is told the time that it shows. So an event is an
incident that depends on the server (`Event.incident?`), and there is one
definition of what each of them does.
-/

set_option autoImplicit false

namespace Gatekeeper.SessionStore

/-- Something that happens to the store, at any time. -/
inductive Incident where
  | add (failures : Nat → Option String) (session : Session)
  | get (failures : Nat → Option String) (token : String)
  | remove (failures : Nat → Option String) (token : String)
  /-- A sweep that is told a time. -/
  | sweep (failures : Nat → Option String) (time : Timestamp)
  /-- The cache drops an entry. -/
  | evict (token : String)
  /-- The process ends and begins again. -/
  | restart (capacity : Nat)
  | setClock (clock : Int)

/-- The server after something happened. -/
def afterIncident (ttl : Duration) (server : Server) : Incident → Server
  | .add failures session => (server.perform (.failing failures) none (SessionStore.add session)).2
  | .get failures token => (server.perform (.failing failures) none (SessionStore.get ttl token)).2
  | .remove failures token =>
    (server.perform (.failing failures) none (SessionStore.remove token)).2
  | .sweep failures time => (server.perform (.failing failures) none (SessionStore.sweep time)).2
  | .evict token => { server with cache := server.cache.erase token }
  | .restart capacity => { server with cache := .ofCapacity capacity }
  | .setClock clock => { server with clock }

/-- The server after many things happened, one after the other. -/
def afterIncidents (ttl : Duration) (server : Server) (incidents : List Incident) : Server :=
  incidents.foldl (afterIncident ttl) server

/-- Something that happens to the store while the clock goes on. -/
inductive Event where
  | add (failures : Nat → Option String) (session : Session)
  | get (failures : Nat → Option String) (token : String)
  | remove (failures : Nat → Option String) (token : String)
  /-- A sweep at the time of the clock. -/
  | sweep (failures : Nat → Option String)
  /-- The cache drops an entry. -/
  | evict (token : String)
  /-- The process ends and begins again. -/
  | restart (capacity : Nat)
  | wait (nanos : Nat)

/-- The incident that an event is. There is no sweep while the clock cannot be
read. -/
def Event.incident? (server : Server) : Event → Option Incident
  | add failures session => some (.add failures session)
  | get failures token => some (.get failures token)
  | remove failures token => some (.remove failures token)
  | sweep failures => server.now?.map fun now => .sweep failures now
  | evict token => some (.evict token)
  | restart capacity => some (.restart capacity)
  | wait nanos => some (.setClock (server.clock + nanos))

/-- The server after an event. -/
def afterEvent (ttl : Duration) (server : Server) (event : Event) : Server :=
  match event.incident? server with
  | some incident => afterIncident ttl server incident
  | none => server

end Gatekeeper.SessionStore

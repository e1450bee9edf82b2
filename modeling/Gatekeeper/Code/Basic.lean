import Gatekeeper.Json.Record
import Gatekeeper.Network

/-!
# `Gatekeeper.Code.Basic`: recover codes

A recover code stands in for a password. A sign-in challenge is signed by the user and
exchanged for a session, once. A one-time code is presented with a request in place of a
session token, up to a number of times.

A code is usable before it expires, until it is used up. Its uses are counted in 32 bits.
-/

set_option autoImplicit false

namespace Gatekeeper

/-- What a recover code is good for. -/
inductive CodeKind where
  /-- A challenge to sign. -/
  | challenge
  /-- A credential for a few requests. -/
  | oneTime
  deriving DecidableEq, Repr, Inhabited

namespace CodeKind

/-- The written name of a kind. -/
def name : CodeKind → String
  | challenge => "AUTH"
  | oneTime => "AUTH_ONCE"

/-- The kinds by their written names. -/
def byName : List (String × CodeKind) := [challenge, oneTime].map fun k => (k.name, k)

/-- A kind is written by its name. -/
def form : Json.Form CodeKind := .variant byName name

end CodeKind

/-- A recover code as it is stored. -/
structure RecoverCode where
  id : String
  /-- What is signed or presented. -/
  code : String
  ownerId : String
  origin : String
  kind : CodeKind
  /-- The time from which on the code is expired. -/
  validAt : Timestamp
  /-- Whether the code is used up. -/
  used : Bool
  /-- How often the code has been used. -/
  usesCount : UInt32
  network : Network
  metadata : Json.Value
  createdAt : Timestamp
  deriving Inhabited

namespace RecoverCode

/-- A code is an object of its parts. -/
def form : Json.Form RecoverCode :=
  .record "RecoverCode"
    (.cons (.required "id" .text) <|
     .cons (.required "code" .text) <|
     .cons (.required "owner_id" .text) <|
     .cons (.required "origin" .text) <|
     .cons (.required "kind" CodeKind.form) <|
     .cons (.required "valid_at" .timestamp) <|
     .cons (.required "used" .boolean) <|
     .cons (.required "uses_count" .word32) <|
     .cons (.required "network" Network.form) <|
     .cons (.required "metadata" .free) <|
     .cons (.required "created_at" .timestamp) .nil)
    (fun (id, code, ownerId, origin, kind, validAt, used, usesCount, network, metadata,
        createdAt, ()) =>
      ⟨id, code, ownerId, origin, kind, validAt, used, usesCount, network, metadata, createdAt⟩)
    (fun c => (c.id, c.code, c.ownerId, c.origin, c.kind, c.validAt, c.used, c.usesCount,
      c.network, c.metadata, c.createdAt, ()))

/-- Whether the code can be used at a time. It cannot at the very time it expires. -/
def isUsable (c : RecoverCode) (time : Timestamp) : Bool := time < c.validAt && !c.used

/-- The code after one more use, if it can be counted. It is used up when it has been used
`maxUses` times. -/
def recordUse? (c : RecoverCode) (maxUses : UInt32) : Option RecoverCode :=
  if c.usesCount.toNat + 1 < UInt32.size then
    some { c with usesCount := c.usesCount + 1, used := c.used || maxUses ≤ c.usesCount + 1 }
  else none

end RecoverCode

end Gatekeeper

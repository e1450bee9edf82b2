import Gatekeeper.Network
import Gatekeeper.User
import Gatekeeper.Workspace

/-!
# `Gatekeeper.Session.Basic`: bearer sessions

A session is what a user gets for signing in. Whoever presents its token is taken for the
user until the session expires.
-/

set_option autoImplicit false

namespace Gatekeeper

/-- A bearer session. -/
structure Session where
  id : String
  /-- What a request presents to be taken for the user. -/
  token : String
  user : UserSnapshot
  workspace : WorkspaceRef
  network : Network
  issuedAt : Timestamp
  expiresAt : Timestamp
  deriving DecidableEq, Inhabited

namespace Session

/-- A session is an object of its parts. -/
def form : Json.Form Session :=
  .record "Session"
    (.cons (.required "id" .text) <|
     .cons (.required "token" .text) <|
     .cons (.required "user" UserSnapshot.form) <|
     .cons (.required "workspace" WorkspaceRef.form) <|
     .cons (.required "network" Network.form) <|
     .cons (.required "issued_at" .timestamp) <|
     .cons (.required "expires_at" .timestamp) .nil)
    (fun (id, token, user, workspace, network, issuedAt, expiresAt, ()) =>
      ⟨id, token, user, workspace, network, issuedAt, expiresAt⟩)
    (fun s => (s.id, s.token, s.user, s.workspace, s.network, s.issuedAt, s.expiresAt, ()))

/-- Whether the session is over at a time. It is over at the very time it expires. -/
def isExpired (s : Session) (time : Timestamp) : Bool := s.expiresAt ≤ time

end Session

end Gatekeeper

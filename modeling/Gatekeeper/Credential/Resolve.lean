import Gatekeeper.Code.Store
import Gatekeeper.Credential.Route
import Gatekeeper.Session.Store

/-!
# `Gatekeeper.Credential.Resolve`: from credentials to identities

There is one way to resolve each kind of credential. A session token stands for the user and
the workspace that its session names. A recover code stands for its owner, in the workspace
that is the owner's own; a code for some routes is used up by a request to another route all
the same. A connector credential stands for the user that the dapp is bound to, in no
workspace.
-/

set_option autoImplicit false

namespace Gatekeeper.Credential

open Gatekeeper.Flow (call)

/-- The identity of a session token. An expired session is removed. -/
def resolveBearer (ttl : Duration) (token : String) : Flow Identity := do
  let session ← Flow.require .unknownSession (← SessionStore.get ttl token)
  if session.isExpired (← Flow.now) then
    let _ ← SessionStore.remove token
    Flow.refuse .expiredSession
  else
    return ⟨session.user, some session.workspace, session.network, none⟩

/-- The identity of a recover code, which is used once more. -/
def resolveCode (maxUses : UInt32) (raw : String) : Flow Identity := do
  let code ← CodeStore.consumeOnce maxUses raw
  let owner ← Flow.require .invalidCredentials (← call (.findUser code.ownerId))
  let workspace ← call (.findWorkspace owner.defaultWorkspaceId)
  return ⟨owner.snapshot, workspace.map (·.toRef), code.network, none⟩

/-- The identity of a recover code for some routes, which is used once more. -/
def resolveCli (maxUses : UInt32) (routes : List CliRoute) (raw : String)
    (context : RequestContext) : Flow Identity := do
  let identity ← resolveCode maxUses raw
  if routes.any (·.admits context) then return identity
  else Flow.refuse .routeNotAvailable

/-- The identity of a connector credential. -/
def resolveConnector (raw : String) : Flow Identity := do
  let sessionId := connectorSession raw
  if sessionId = "" then
    Flow.refuse (.unauthorized .missingCredentials "Missing connector session id")
  else
    let dapp ← Flow.require .invalidCredentials (← call (.findDapp sessionId))
    let user ← Flow.require .invalidCredentials (← call (.findUser dapp.userId))
    return ⟨user.snapshot, none, dapp.network, some dapp⟩

end Gatekeeper.Credential

import Gatekeeper.Network
import Gatekeeper.User
import Gatekeeper.Workspace

/-!
# `Gatekeeper.Identity`: who a request comes from

A credential resolves to an `Identity`: a user, the network the user works on, and the
workspace the credential is bound to. A credential of a dapp connector is bound to no
workspace; its identity names the dapp instead, by the `DappBinding` that ties the dapp to the
user.
-/

set_option autoImplicit false

namespace Gatekeeper

/-- The tie between the session of a dapp connector and a user. -/
structure DappBinding where
  sessionId : String
  originUrl : String
  name : String
  userId : String
  currentVaultId : Option String
  authorizedVaultIds : SortedSet String
  network : Network
  deriving DecidableEq, Inhabited

/-- A binding is an object of its parts, where the current vault may be left out. -/
def DappBinding.form : Json.Form DappBinding :=
  .record "DappSession"
    (.cons (.required "session_id" .text) <|
     .cons (.required "origin_url" .text) <|
     .cons (.required "name" .text) <|
     .cons (.required "user_id" .text) <|
     .cons (.optional "current_vault_id" .text) <|
     .cons (.required "authorized_vault_ids" .textSet) <|
     .cons (.required "network" Network.form) .nil)
    (fun (sessionId, originUrl, name, userId, currentVaultId, authorizedVaultIds, network,
        ()) =>
      ⟨sessionId, originUrl, name, userId, currentVaultId, authorizedVaultIds, network⟩)
    (fun d => (d.sessionId, d.originUrl, d.name, d.userId, d.currentVaultId,
      d.authorizedVaultIds, d.network, ()))

/-- Who a request comes from. -/
structure Identity where
  user : UserSnapshot
  /-- The workspace the credential is bound to. -/
  workspace : Option WorkspaceRef
  network : Network
  /-- The dapp, if the credential is one of a connector. -/
  dapp : Option DappBinding
  deriving DecidableEq, Inhabited

namespace Identity

/-- An identity is an object of its parts, where the dapp is left out if there is none. -/
def form : Json.Form Identity :=
  .record "Identity"
    (.cons (.required "user" UserSnapshot.form) <|
     .cons (.nullable "workspace" WorkspaceRef.form) <|
     .cons (.required "network" Network.form) <|
     .cons (.optional "dapp" DappBinding.form) .nil)
    (fun (user, workspace, network, dapp, ()) => ⟨user, workspace, network, dapp⟩)
    (fun i => (i.user, i.workspace, i.network, i.dapp, ()))

/-- The id of the user. -/
def userId (identity : Identity) : String := identity.user.id

/-- The id of the workspace the credential is bound to. -/
def workspaceId (identity : Identity) : Option String := identity.workspace.map (·.id)

end Identity

end Gatekeeper

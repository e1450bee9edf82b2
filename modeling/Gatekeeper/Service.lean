import Gatekeeper.Credential.Resolve
import Gatekeeper.Session.Sweep
import Gatekeeper.Server
import Gatekeeper.Settings

/-!
# `Gatekeeper.Service`: authentication and authorization

The operations of the service: resolving a credential to an identity, checking an identity
against a vault or a workspace, and issuing and retiring credentials.
-/

set_option autoImplicit false

namespace Gatekeeper

/-- How signatures are checked: the address that signed a digest with an encoder, if the
signature is good. -/
abbrev Verifier : Type := Encoder → String → String → Option String

/-- What the operations of the service depend on, besides the state. -/
structure Service where
  /-- How long a session lives without being used. -/
  sessionTtl : Duration
  /-- How long a recover code is valid. -/
  codeTtl : Duration
  /-- How often a one-time code can be used. -/
  maxUses : UInt32
  /-- The routes that CLI codes are good for. -/
  routes : List CliRoute
  /-- How signatures are checked, if they can be. -/
  verifier : Option Verifier

/-- The service that settings describe. -/
def Service.ofSettings (settings : Settings) (verifier : Option Verifier) : Service :=
  ⟨settings.sessionTtl, settings.codeTtl, settings.codeMaxUses, settings.cliRoutes, verifier⟩

/-- What a user sends to sign in. -/
structure SignInRequest where
  /-- The challenge that was signed. -/
  digest : String
  signature : String
  encoder : Encoder
  deriving DecidableEq, Repr

/-- A request to sign in is an object of its parts. -/
def SignInRequest.form : Json.Form SignInRequest :=
  .record "SignInRequest"
    (.cons (.required "digest" .text) <|
     .cons (.required "signature" .text) <|
     .cons (.required "encoder" Encoder.form) .nil)
    (fun (digest, signature, encoder, ()) => ⟨digest, signature, encoder⟩)
    (fun r => (r.digest, r.signature, r.encoder, ()))

/-- Whether two texts are the same up to the case of ASCII letters. -/
def sameUpToCase (a b : String) : Bool :=
  a.toList.map Char.toLower == b.toList.map Char.toLower

namespace Service

open Gatekeeper.Flow (call take)

/-! ### Who is it? -/

/-- The identity of a credential. -/
def authenticate (service : Service) (raw : String) (context : RequestContext) : Flow Identity :=
  if Text.isBlankText raw then Flow.refuse .missingCredentials
  else match CredentialKind.of raw with
    | .bearer => Credential.resolveBearer service.sessionTtl raw
    | .code => Credential.resolveCode service.maxUses raw
    | .cli => Credential.resolveCli service.maxUses service.routes raw context
    | .connector => Credential.resolveConnector raw

/-! ### May it? -/

/-- The permission table of a workspace, for a member of it. -/
def memberPermissions (identity : Identity) (workspace : String) : Flow PermissionTable := do
  if ← call (.isMember workspace identity.userId) then
    return (← call (.findPermissions workspace)).getD .empty
  else Flow.refuse .missingPermission

/-- Checks an identity against a vault: the vault has to belong to the workspace of the
identity, and its user has to be a member with one of `roles` over the vault. -/
def authorize (identity : Identity) (roles : List Role) (resource : String) : Flow Unit := do
  let owner ← Flow.require (.notFound ("Vault " ++ resource))
    (← call (.findResourceOwner resource))
  let workspace ← Flow.require .noWorkspace identity.workspaceId
  if workspace = owner.workspaceId then
    let table ← memberPermissions identity workspace
    if table.holdsOver identity.userId roles resource then return ()
    else Flow.refuse .missingPermission
  else Flow.refuse .missingPermission

/-- Checks an identity against its workspace: its user has to be a member with one of `roles`
over everything, if any role is asked for. -/
def authorizeWorkspace (identity : Identity) (roles : List Role) : Flow Unit := do
  let workspace ← Flow.require .noWorkspace identity.workspaceId
  let table ← memberPermissions identity workspace
  if roles.isEmpty || table.holdsEverywhere identity.userId roles then return ()
  else Flow.refuse .missingPermission

/-! ### Credentials come and go -/

/-- Issues a challenge for the user with an address. -/
def issueChallenge (service : Service) (address origin : String) (network : Network) :
    Flow RecoverCode := do
  let user ← Flow.require (.notFound "User") (← call (.findUserByAddress address))
  CodeStore.issue service.codeTtl
    { ownerId := user.id, origin, kind := .challenge, network, metadata := .object [],
      cli := false }

/-- A new session that begins now. -/
def startSession (ttl : Duration) (user : UserSnapshot) (workspace : WorkspaceRef)
    (network : Network) : Flow Session := do
  let now ← Flow.now
  let expiresAt ← Flow.inCalendar (now.add? ttl)
  let id ← take .drawId
  let token ← take .drawId
  return ⟨SerialId.grouped id, SerialId.grouped token, user, workspace, network, now, expiresAt⟩

/-- Exchanges a signed challenge for a session. Of several sign-ins with one challenge, the
first to use it up succeeds. -/
def signIn (service : Service) (request : SignInRequest) : Flow Session := do
  let verifier ← Flow.require (.internal "no signature verifier configured") service.verifier
  let challenge ← CodeStore.findChallenge request.digest
  let owner ← Flow.require .invalidCredentials (← call (.findUser challenge.ownerId))
  let signer ← Flow.require .invalidCredentials
    (verifier request.encoder request.digest request.signature)
  if !sameUpToCase signer owner.address then Flow.refuse .invalidCredentials
  else if request.encoder ≠ owner.accountType then
    Flow.refuse (.unauthorized .invalidEncoder "Encoder does not match the account type")
  else
    let challenge ← CodeStore.consumeChallenge request.digest
    let workspace ← Flow.require (.notFound "Workspace")
      (← call (.findWorkspace owner.defaultWorkspaceId))
    let session ← startSession service.sessionTtl owner.snapshot workspace.toRef
      challenge.network
    SessionStore.add session
    return session

/-- Retires a session token. A token that nobody has is retired already. -/
def signOut (token : String) : Flow Unit := do
  let _ ← SessionStore.remove token

/-- Issues a one-time code to an identity. -/
def requestCode (service : Service) (identity : Identity) (origin : String) (cli : Bool) :
    Flow RecoverCode :=
  CodeStore.issue service.codeTtl
    { ownerId := identity.userId, origin, kind := .oneTime, network := identity.network,
      metadata := .object [("uses", .text (if cli then cliMark else codeMark))], cli }

end Service

/-! ### The sweeper -/

/-- One round of the sweeper: expired sessions go first, then old recover codes. A round goes
on when either fails, unless by an overflow. -/
def Server.sweepRound (weather : Weather) (retention : Duration) (server : Server) :
    Except Stop Unit × Server :=
  let (swept, server) := server.perform weather none do
    SessionStore.sweep (Timestamp.ofInstant (← Flow.now))
  match swept with
  | .error (.overflow cause) => (.error (.overflow cause), server)
  | _ =>
    match server.perform weather none (CodeStore.purge retention) with
    | (.error (.overflow cause), server) => (.error (.overflow cause), server)
    | (_, server) => (.ok (), server)

/-- So many rounds of the sweeper, until one stops it. -/
def Server.sweepRounds (weather : Weather) (retention : Duration) :
    Nat → Server → Except Stop Unit × Server
  | 0, server => (.ok (), server)
  | rounds + 1, server =>
    match server.sweepRound weather retention with
    | (.ok (), server) => server.sweepRounds weather retention rounds
    | (.error why, server) => (.error why, server)

end Gatekeeper

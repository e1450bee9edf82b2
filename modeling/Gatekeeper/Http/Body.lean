import Gatekeeper.Code.Basic
import Gatekeeper.Session.Basic

/-!
# `Gatekeeper.Http.Body`: the bodies of requests and responses

The records that travel over the interface and are stored nowhere.
-/

set_option autoImplicit false

namespace Gatekeeper.Http

/-- A request for a challenge. -/
structure ChallengeRequest where
  address : String
  origin : String
  network : Network
  deriving DecidableEq, Repr

/-- A request for a challenge is an object of its parts, where the origin may be missing. -/
def ChallengeRequest.form : Json.Form ChallengeRequest :=
  .record "ChallengeRequest"
    (.cons (.required "address" .text) <|
     .cons (.withDefault "origin" .text "") <|
     .cons (.required "network" Network.form) .nil)
    (fun (address, origin, network, ()) => ⟨address, origin, network⟩)
    (fun r => (r.address, r.origin, r.network, ()))

/-- A request for a one-time code. -/
structure CodeRequest where
  origin : String
  /-- Whether the code is to be good for some routes only. -/
  cli : Bool
  deriving DecidableEq, Repr

/-- A request for a one-time code is an object of its parts, each of which may be missing. -/
def CodeRequest.form : Json.Form CodeRequest :=
  .record "CodeRequest"
    (.cons (.withDefault "origin" .text "") <|
     .cons (.withDefault "cli" .boolean false) .nil)
    (fun (origin, cli, ()) => ⟨origin, cli⟩)
    (fun r => (r.origin, r.cli, ()))

/-- What the receiver of a recover code is told. -/
structure CodeResponse where
  code : String
  kind : CodeKind
  validAt : Timestamp

/-- What the receiver of a recover code is told of it. -/
def CodeResponse.ofCode (code : RecoverCode) : CodeResponse := ⟨code.code, code.kind, code.validAt⟩

/-- What is told of a code is an object of its parts. -/
def CodeResponse.form : Json.Form CodeResponse :=
  .record "CodeResponse"
    (.cons (.required "code" .text) <|
     .cons (.required "kind" CodeKind.form) <|
     .cons (.required "valid_at" .timestamp) .nil)
    (fun (code, kind, validAt, ()) => ⟨code, kind, validAt⟩)
    (fun r => (r.code, r.kind, r.validAt, ()))

/-- What a user who signs in is told. -/
structure SignInResponse where
  token : String
  expiresAt : Timestamp
  workspace : WorkspaceRef
  network : Network
  user : UserSnapshot

/-- What a user who signs in is told of the session. -/
def SignInResponse.ofSession (s : Session) : SignInResponse :=
  ⟨s.token, s.expiresAt, s.workspace, s.network, s.user⟩

/-- What is told of a session is an object of its parts. -/
def SignInResponse.form : Json.Form SignInResponse :=
  .record "SignInResponse"
    (.cons (.required "token" .text) <|
     .cons (.required "expires_at" .timestamp) <|
     .cons (.required "workspace" WorkspaceRef.form) <|
     .cons (.required "network" Network.form) <|
     .cons (.required "user" UserSnapshot.form) .nil)
    (fun (token, expiresAt, workspace, network, user, ()) =>
      ⟨token, expiresAt, workspace, network, user⟩)
    (fun r => (r.token, r.expiresAt, r.workspace, r.network, r.user, ()))

/-- The vaults of a workspace. -/
structure VaultList where
  workspaceId : String
  vaults : List String

/-- The vaults of a workspace are an object of the workspace and their ids. -/
def VaultList.form : Json.Form VaultList :=
  .record "PredicateListResponse"
    (.cons (.required "workspace_id" .text) <|
     .cons (.required "predicates" (.list .text)) .nil)
    (fun (workspaceId, vaults, ()) => ⟨workspaceId, vaults⟩)
    (fun r => (r.workspaceId, r.vaults, ()))

/-- The access of a user to a vault. -/
structure VaultAccess where
  vault : String
  workspaceId : String
  userId : String

/-- An access is an object of its parts. -/
def VaultAccess.form : Json.Form VaultAccess :=
  .record "PredicateAccessResponse"
    (.cons (.required "predicate_id" .text) <|
     .cons (.required "workspace_id" .text) <|
     .cons (.required "user_id" .text) .nil)
    (fun (vault, workspaceId, userId, ()) => ⟨vault, workspaceId, userId⟩)
    (fun r => (r.vault, r.workspaceId, r.userId, ()))

/-- How the parts of the server are. -/
structure HealthChecks where
  service : String
  database : String
  /-- The number of durable sessions, if the database can be read. -/
  sessions : Option UInt64

/-- The parts of the server are an object, where the number may be left out. -/
def HealthChecks.form : Json.Form HealthChecks :=
  .record "HealthChecks"
    (.cons (.required "service" .text) <|
     .cons (.required "database" .text) <|
     .cons (.optional "sessions" .word64) .nil)
    (fun (service, database, sessions, ()) => ⟨service, database, sessions⟩)
    (fun r => (r.service, r.database, r.sessions, ()))

/-- How the server is. -/
structure Health where
  status : String
  checks : HealthChecks

/-- All is well, with so many durable sessions. -/
def Health.ofCount (sessions : Nat) : Health := ⟨"ok", "ok", "ok", some sessions.toUInt64⟩

/-- The health of the server is an object of its parts. -/
def Health.form : Json.Form Health :=
  .record "ReadyResponse"
    (.cons (.required "status" .text) <| .cons (.required "checks" HealthChecks.form) .nil)
    (fun (status, checks, ()) => ⟨status, checks⟩)
    (fun r => (r.status, r.checks, ()))

/-- That the server is alive. -/
structure Liveness where
  status : String

/-- That the server is alive is an object with a single member. -/
def Liveness.form : Json.Form Liveness :=
  .record "HealthResponse" (.cons (.required "status" .text) .nil)
    (fun (status, ()) => ⟨status⟩) (fun r => (r.status, ()))

end Gatekeeper.Http

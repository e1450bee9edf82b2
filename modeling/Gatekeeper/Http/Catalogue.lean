import Gatekeeper.AuthError
import Gatekeeper.Code.Basic
import Gatekeeper.User

/-!
# `Gatekeeper.Http.Catalogue`: the description of the interface

What the server publishes about its interface: each operation with its path, its body and its
responses, and each record that travels with its members.
-/

set_option autoImplicit false

namespace Gatekeeper.Http

/-- An operation of the interface. -/
structure Operation where
  path : String
  method : String
  name : String
  summary : String
  tag : String
  /-- Whether a credential is needed. -/
  secured : Bool := false
  /-- The record in the body of a request. -/
  body : Option String := none
  /-- The meaning of each status. -/
  responses : List (Nat × String)
  deriving Repr

/-- A record or a choice of names that travels over the interface. -/
inductive Schema where
  /-- A string that is one of several names. -/
  | choice (names : List String)
  /-- An object, with the members that have to be there and those that need not. -/
  | object (required optional : List String)
  deriving Repr

/-- The description of the interface. -/
structure Catalogue where
  title : String
  version : String
  tags : List (String × String)
  /-- The ways in which a credential is presented. -/
  security : List String
  operations : List Operation
  schemas : List (String × Schema)
  deriving Repr

namespace Catalogue

/-- The operations, by path. -/
def allOperations : List Operation := [
  { path := "/health", method := "get", name := "health", tag := "Health"
    summary := "Health check endpoint handler."
    responses := [(200, "Service is healthy"), (503, "Service is unhealthy")] },
  { path := "/health/live", method := "get", name := "liveness", tag := "Health"
    summary := "Liveness probe handler."
    responses := [(200, "Service is alive")] },
  { path := "/v1/auth/challenge", method := "post", name := "challenge", tag := "Auth"
    summary := "Issue a sign-in challenge for a registered address."
    body := some "ChallengeRequest"
    responses := [(201, "Challenge issued"), (404, "No user registered at this address")] },
  { path := "/v1/auth/code", method := "post", name := "request_code", tag := "Auth"
    summary := "Issue a one-time code for the caller."
    secured := true
    body := some "CodeRequest"
    responses := [(201, "Code issued"), (401, "Unauthorized")] },
  { path := "/v1/auth/me", method := "get", name := "me", tag := "Auth"
    summary := "Identity resolved from the presented credential."
    secured := true
    responses := [(200, "Resolved identity"), (401, "Unauthorized")] },
  { path := "/v1/auth/sign-in", method := "post", name := "sign_in", tag := "Auth"
    summary := "Exchange a signed challenge for a session token."
    body := some "SignInRequest"
    responses := [(200, "Signed in"), (401, "Invalid challenge, signature or encoder")] },
  { path := "/v1/auth/sign-out", method := "delete", name := "sign_out", tag := "Auth"
    summary := "Retire the presented session token."
    secured := true
    responses := [(204, "Signed out"), (401, "Missing credentials")] },
  { path := "/v1/predicate", method := "get", name := "list_predicates", tag := "Predicates"
    summary := "Vaults of the caller's workspace."
    secured := true
    responses := [(200, "Vault ids"), (401, "Unauthorized"), (403, "Missing permission")] },
  { path := "/v1/predicate/\x7bpredicate_id\x7d", method := "get", name := "get_predicate"
    tag := "Predicates"
    summary := "Check the caller's access to one vault."
    secured := true
    responses := [(200, "Access granted"), (401, "Unauthorized"), (403, "Missing permission"),
      (404, "Vault not found")] }]

/-- The records and choices, by name. -/
def allSchemas : List (String × Schema) := [
  ("ChallengeRequest", .object ["address", "network"] ["origin"]),
  ("CodeRequest", .object [] ["cli", "origin"]),
  ("CodeResponse", .object ["code", "kind", "valid_at"] []),
  ("DappSession", .object
    ["authorized_vault_ids", "name", "network", "origin_url", "session_id", "user_id"]
    ["current_vault_id"]),
  ("Encoder", .choice (Encoder.byName.map (·.1))),
  ("HealthChecks", .object ["database", "service"] ["sessions"]),
  ("HealthResponse", .object ["status"] []),
  ("Identity", .object ["network", "user"] ["dapp", "workspace"]),
  ("Network", .object ["chain_id", "url"] []),
  ("PredicateAccessResponse", .object ["predicate_id", "user_id", "workspace_id"] []),
  ("PredicateListResponse", .object ["predicates", "workspace_id"] []),
  ("ReadyResponse", .object ["checks", "status"] []),
  ("RecoverCodeKind", .choice (CodeKind.byName.map (·.1))),
  ("SignInRequest", .object ["digest", "encoder", "signature"] []),
  ("SignInResponse", .object ["expires_at", "network", "token", "user", "workspace"] []),
  ("UnauthorizedTitle", .choice (Title.byName.map (·.1))),
  ("UserSnapshot", .object
    ["account_type", "address", "avatar", "first_login", "id", "name", "notify"] []),
  ("WorkspaceRef", .object ["id", "name", "single"] [])]

/-- The published description. -/
def published : Catalogue where
  title := "vault-auth-server"
  version := "0.1.0"
  tags := [("Health", "Liveness and readiness"),
    ("Auth", "Sign-in, sign-out and credential issuance"),
    ("Predicates", "Vault access checks")]
  security := ["bearer"]
  operations := allOperations
  schemas := allSchemas

end Catalogue

end Gatekeeper.Http

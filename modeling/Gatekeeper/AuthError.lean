import Gatekeeper.Json.Record

/-!
# `Gatekeeper.AuthError`: why a request is refused

A request is refused because its sender may not make it, because something it names does not
exist, or because the server cannot tell. The first kind carries a title, the stable name of
the cause, on which clients rely. A store that fails is always the third kind.
-/

set_option autoImplicit false

namespace Gatekeeper

/-- The stable name of the cause for which a sender may not make a request. -/
inductive Title where
  | missingCredentials
  | invalidCredentials
  | invalidRecoverCode
  | sessionNotFound
  | expiredToken
  | missingPermission
  | unauthorizedResource
  | invalidPermission
  | invalidEncoder
  deriving DecidableEq, Repr

namespace Title

/-- The written name of a title. -/
def name : Title → String
  | missingCredentials => "MISSING_CREDENTIALS"
  | invalidCredentials => "INVALID_CREDENTIALS"
  | invalidRecoverCode => "INVALID_RECOVER_CODE"
  | sessionNotFound => "SESSION_NOT_FOUND"
  | expiredToken => "EXPIRED_TOKEN"
  | missingPermission => "MISSING_PERMISSION"
  | unauthorizedResource => "UNAUTHORIZED_RESOURCE"
  | invalidPermission => "INVALID_PERMISSION"
  | invalidEncoder => "INVALID_ENCODER"

/-- Every title. -/
def all : List Title :=
  [missingCredentials, invalidCredentials, invalidRecoverCode, sessionNotFound, expiredToken,
    missingPermission, unauthorizedResource, invalidPermission, invalidEncoder]

/-- The titles by their written names. -/
def byName : List (String × Title) := all.map fun title => (title.name, title)

/-- Whether the title is about a sender who is known but not allowed. -/
def isForbidden : Title → Bool
  | missingPermission | unauthorizedResource | invalidPermission => true
  | _ => false

end Title

/-- Why a request is refused. -/
inductive AuthError where
  /-- The sender may not make the request. -/
  | unauthorized (title : Title) (detail : String)
  /-- Something that the request names does not exist. -/
  | notFound (what : String)
  /-- The server cannot tell. -/
  | internal (reason : String)
  deriving DecidableEq, Repr

namespace AuthError

/-- The words for a refusal. -/
def message : AuthError → String
  | unauthorized _ detail => detail
  | notFound what => what ++ " not found"
  | internal reason => "Internal authentication error: " ++ reason

/-- The title, if the sender may not make the request. -/
def title? : AuthError → Option Title
  | unauthorized title _ => some title
  | _ => none

/-- The short name of the kind of refusal. -/
def code : AuthError → String
  | unauthorized .. => "unauthorized"
  | notFound _ => "not_found"
  | internal _ => "internal_error"

/-- The status of the response that reports the refusal. -/
def status : AuthError → Nat
  | unauthorized title _ => if title.isForbidden then 403 else 401
  | notFound _ => 404
  | internal _ => 500

/-- The body of the response that reports the refusal. -/
def body (e : AuthError) : Json.Value :=
  .object <| [("error", .text e.message), ("error_code", .text e.code)] ++
    match e.title? with
    | some title => [("title", .text title.name)]
    | none => []

/-- No credential was presented. -/
def missingCredentials : AuthError := unauthorized .missingCredentials "Missing credentials"

/-- The credential names nothing that could be trusted. -/
def invalidCredentials : AuthError := unauthorized .invalidCredentials "Invalid credentials"

/-- There is no such recover code of the right kind. -/
def unknownCode : AuthError := unauthorized .invalidRecoverCode "Invalid recover code"

/-- The recover code is expired or used up. -/
def expiredCode : AuthError := unauthorized .invalidRecoverCode "Recover code expired"

/-- There is no session with the presented token. -/
def unknownSession : AuthError := unauthorized .sessionNotFound "Session not found"

/-- The session with the presented token is over. -/
def expiredSession : AuthError := unauthorized .expiredToken "Session expired"

/-- The user lacks the permission that the request needs. -/
def missingPermission : AuthError := unauthorized .missingPermission "Missing permission"

/-- The credential is bound to no workspace. -/
def noWorkspace : AuthError :=
  unauthorized .invalidPermission "Credential is not bound to a workspace"

/-- The credential is good for other routes only. -/
def routeNotAvailable : AuthError :=
  unauthorized .unauthorizedResource "Route not available to CLI credentials"

/-- The request did not come to an end in time. -/
def deadlineExceeded : AuthError := internal "deadline exceeded"

end AuthError

/-- Why a call to the store fails. -/
inductive StoreError where
  /-- A row is not the JSON of its record. -/
  | malformedRow (failure : Json.Failure) (row : String)
  /-- The store cannot be reached. -/
  | unreachable (reason : String)
  deriving DecidableEq, Repr

/-- The words for a failed call. -/
def StoreError.message : StoreError → String
  | malformedRow failure row => "serialization error: " ++ failure.describe row.toList
  | unreachable reason => "io error: " ++ reason

/-- The refusal of a request during which a call to the store failed. -/
def AuthError.ofStore (e : StoreError) : AuthError := internal e.message

end Gatekeeper

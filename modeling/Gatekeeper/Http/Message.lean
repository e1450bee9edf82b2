import Gatekeeper.AuthError
import Gatekeeper.Credential.Kind
import Gatekeeper.Credential.Route
import Gatekeeper.Http.Target

/-!
# `Gatekeeper.Http.Message`: requests and responses

A request and a response, as far as the server looks at the one and makes the other. The body
of a response is JSON or nothing that a program would read: a request that does not fit is
rejected with words for people, of which only the content type is kept here.
-/

set_option autoImplicit false

namespace Gatekeeper.Http

/-- A request. -/
structure Request where
  method : String
  /-- What the request is sent to. -/
  target : String
  /-- The target as it was sent, if a part in front of it has been taken off since. -/
  originalTarget : Option String := none
  /-- The headers in order, with their names in lower case. -/
  headers : List (String × String) := []
  body : String := ""
  deriving Repr

namespace Request

/-- The path by which the endpoint is found. -/
def path (request : Request) : String := Target.path request.target

/-- The value of the first header with a name. -/
def header? (request : Request) (name : String) : Option String := request.headers.lookup name

/-- The credential that the request presents. -/
def credential (request : Request) : Except AuthError String :=
  presentedCredential (request.header? "authorization")

/-- What a decision may depend on. -/
def context (request : Request) : RequestContext :=
  ⟨request.method, Target.path (request.originalTarget.getD request.target)⟩

/-- The headers of a response that give back the id of the request, if it carries one. -/
def idHeaders (request : Request) : List (String × String) :=
  match request.header? "x-request-id" with
  | some id => [("x-request-id", id)]
  | none => []

end Request

/-- A response. -/
structure Response where
  status : Nat
  headers : List (String × String) := []
  /-- The body, if it is JSON. -/
  json : Option String := none
  deriving Repr

namespace Response

/-- A response with JSON as its body. -/
def ofJson (status : Nat) (json : String) : Response :=
  ⟨status, [("content-type", "application/json")], some json⟩

/-- The response that reports a refusal. -/
def ofError (e : AuthError) : Response := ofJson e.status (String.ofList e.body.write)

/-- The rejection of a request that does not fit its route. -/
def rejection (status : Nat) : Response :=
  ⟨status, [("content-type", "text/plain; charset=utf-8")], none⟩

/-- A page for people. -/
def page : Response := { status := 200, headers := [("content-type", "text/html")] }

/-- What was asked for is found at another place. -/
def seeOther (place : String) : Response := { status := 303, headers := [("location", place)] }

/-- There is nothing at the path. -/
def notFound : Response := { status := 404 }

/-- The path is not for this method, but for others. -/
def methodNotAllowed (allowed : List String) : Response :=
  { status := 405, headers := [("allow", ",".intercalate allowed)] }

/-- What a response lets pages of other origins do: anybody may read it. -/
def crossOriginHeaders : List (String × String) :=
  [("access-control-allow-origin", "*"), ("access-control-expose-headers", "*")]

/-- What a request from a page of another origin may be like: anything. -/
def preflightHeaders : List (String × String) :=
  [("access-control-allow-origin", "*"), ("access-control-allow-methods", "*"),
    ("access-control-allow-headers", "*")]

/-- The response without its body. -/
def withoutBody (response : Response) : Response := { response with json := none }

/-- The response with more headers. -/
def addHeaders (response : Response) (headers : List (String × String)) : Response :=
  { response with headers := response.headers ++ headers }

end Response

end Gatekeeper.Http

import Gatekeeper.Http.Body
import Gatekeeper.Http.Document
import Gatekeeper.Http.Endpoint
import Gatekeeper.Http.MediaType
import Gatekeeper.Http.Message
import Gatekeeper.Service

/-!
# `Gatekeeper.Http.Handler`: answering requests

A request to a protected endpoint is authenticated first, whatever else may be wrong with it,
and from then on its sender is known. Then come the method, the body or the path, and at last
the operation that the endpoint stands for, which asks for the sender again. A sender who is
known is taken as known, so the credential is resolved once. Authentication and authorization
each have the time limit of the settings for themselves.

A request only fails to be answered when an overflow stops it.
-/

set_option autoImplicit false

namespace Gatekeeper.Http

/-- What answering requests depends on, besides the state. -/
structure Site where
  service : Service
  /-- The time limit for a decision, in milliseconds. -/
  timeoutMs : Nat

/-- The site that settings describe. -/
def Site.ofSettings (settings : Settings) (verifier : Option Verifier) : Site :=
  ⟨.ofSettings settings verifier, settings.requestTimeoutMs⟩

/-! ### Answers -/

/-- The response to an operation: made of its value, or the report of its refusal. -/
def answer {α : Type} (make : α → Response) : Except Stop α × Server → Except Stop Response × Server
  | (.ok a, server) => (.ok (make a), server)
  | (.error (.refused e), server) => (.ok (.ofError e), server)
  | (.error (.overflow cause), server) => (.error (.overflow cause), server)

/-- The largest size of a body, two mebibytes. -/
def bodyLimit : Nat := 2097152

/-- What is done with the body of a request: it has to be JSON of the right form, and no longer
than the limit. -/
def withBody {α β : Type} (form : Json.Form α) (request : Request) (reject : Response → β)
    (accept : α → β) : β :=
  if !(request.header? "content-type").any MediaType.isJson then reject (.rejection 415)
  else if bodyLimit < request.body.utf8ByteSize then reject (.rejection 413)
  else match form.decode request.body with
    | .ok a => accept a
    | .error failure =>
      reject (.rejection (if failure.fault.category = .mismatch then 422 else 400))

namespace Site

variable (site : Site) (weather : Weather)

/-- Issues a challenge. -/
def challenge (request : Request) (server : Server) : Except Stop Response × Server :=
  withBody ChallengeRequest.form request (fun response => (.ok response, server)) fun body =>
    answer (fun code => .ofJson 201 (CodeResponse.form.encode (.ofCode code))) <|
      server.perform weather none
        (site.service.issueChallenge body.address body.origin body.network)

/-- Exchanges a signed challenge for a session. -/
def signIn (request : Request) (server : Server) : Except Stop Response × Server :=
  withBody SignInRequest.form request (fun response => (.ok response, server)) fun body =>
    answer (fun session => .ofJson 200 (SignInResponse.form.encode (.ofSession session))) <|
      server.perform weather none (site.service.signIn body)

/-- Retires the session token that the request presents. -/
def signOut (request : Request) (server : Server) : Except Stop Response × Server :=
  match request.credential with
  | .error e => (.ok (.ofError e), server)
  | .ok token =>
    answer (fun _ => { status := 204 }) <| server.perform weather none (Service.signOut token)

/-- The sender of a request: who is known already, or else whom the credential stands for. -/
def identify (known : Option Identity) (request : Request) (server : Server) :
    Except Stop Identity × Server :=
  match known with
  | some identity => (.ok identity, server)
  | none =>
    match request.credential with
    | .error e => (.error (.refused e), server)
    | .ok raw =>
      server.perform weather (some site.timeoutMs)
        (site.service.authenticate raw request.context)

/-- What is done for the sender of a request. A request whose sender cannot be told is refused. -/
def withSender (known : Option Identity) (request : Request) (server : Server)
    (handle : Identity → Server → Except Stop Response × Server) : Except Stop Response × Server :=
  match site.identify weather known request server with
  | (.ok identity, server) => handle identity server
  | (.error (.refused e), server) => (.ok (.ofError e), server)
  | (.error (.overflow cause), server) => (.error (.overflow cause), server)

/-- Issues a one-time code to the sender. -/
def requestCode (known : Option Identity) (request : Request) (server : Server) :
    Except Stop Response × Server :=
  site.withSender weather known request server fun identity server =>
    withBody CodeRequest.form request (fun response => (.ok response, server)) fun body =>
      answer (fun code => .ofJson 201 (CodeResponse.form.encode (.ofCode code))) <|
        server.perform weather none (site.service.requestCode identity body.origin body.cli)

/-- Tells the sender who it is. -/
def showSender (known : Option Identity) (request : Request) (server : Server) :
    Except Stop Response × Server :=
  site.withSender weather known request server fun identity server =>
    (.ok (.ofJson 200 (Identity.form.encode identity)), server)

/-- Lists the vaults of the sender's workspace, if one of the sender's roles covers all. -/
def listVaults (known : Option Identity) (request : Request) (server : Server) :
    Except Stop Response × Server :=
  site.withSender weather known request server fun identity server =>
    let (checked, server) := server.perform weather (some site.timeoutMs)
      (Service.authorizeWorkspace identity Role.all)
    let workspace := identity.workspaceId.getD ""
    answer (fun _ => .ofJson 200
      (VaultList.form.encode ⟨workspace, server.database.listResources workspace⟩))
      (checked, server)

/-- Tells whether the sender has access to a vault under any role. The path is read before the
sender is asked for. -/
def findVault (known : Option Identity) (segment : String) (request : Request) (server : Server) :
    Except Stop Response × Server :=
  match Text.percentDecode? segment.toList with
  | none => (.ok (.rejection 400), server)
  | some vault =>
    site.withSender weather known request server fun identity server =>
      answer (fun _ => .ofJson 200
        (VaultAccess.form.encode ⟨vault, identity.workspaceId.getD "", identity.userId⟩)) <|
        server.perform weather (some site.timeoutMs) (Service.authorize identity Role.all vault)

/-- The first page of the manual, the only one that there is. -/
def showPage (page : String) : Response :=
  match Text.percentDecode? page.toList with
  | none => .rejection 400
  | some page => if page = "" ∨ page = "/" ∨ page = "index.html" then .page else .notFound

/-- The answer of an endpoint that anybody may use. -/
def serveOpen (endpoint : Endpoint) (request : Request) (server : Server) :
    Except Stop Response × Server :=
  match endpoint with
  | .health =>
    (.ok (.ofJson 200 (Health.form.encode (.ofCount server.database.sessionCount))), server)
  | .liveness => (.ok (.ofJson 200 (Liveness.form.encode ⟨"ok"⟩)), server)
  | .challenge => site.challenge weather request server
  | .signIn => site.signIn weather request server
  | .signOut => signOut weather request server
  | .description =>
    (.ok (.ofJson 200 (String.ofList Catalogue.published.document.write)), server)
  | .manual => (.ok (.seeOther "/docs/"), server)
  | .manualPage page => (.ok (showPage page), server)
  | _ => (.ok .notFound, server)

/-- The answer of a protected endpoint to a request whose sender may be known. -/
def serveProtected (endpoint : Endpoint) (known : Option Identity) (request : Request)
    (server : Server) : Except Stop Response × Server :=
  match endpoint with
  | .requestCode => site.requestCode weather known request server
  | .me => site.showSender weather known request server
  | .vaults => site.listVaults weather known request server
  | .vault segment => site.findVault weather known segment request server
  | _ => (.ok .notFound, server)

/-- The answer of an endpoint, provided that it serves the method. -/
def checkMethod (endpoint : Endpoint) (request : Request) (server : Server)
    (serve : Except Stop Response × Server) : Except Stop Response × Server :=
  if endpoint.methods.contains request.method then serve
  else (.ok (.methodNotAllowed endpoint.methods), server)

/-- The answer of an endpoint. The sender of a request to a protected one is found out before
anything else, and known from then on. -/
def serve (endpoint : Endpoint) (request : Request) (server : Server) :
    Except Stop Response × Server :=
  if endpoint.isProtected then
    site.withSender weather none request server fun identity server =>
      checkMethod endpoint request server
        (site.serveProtected weather endpoint (some identity) request server)
  else
    checkMethod endpoint request server (site.serveOpen weather endpoint request server)

/-- The response as it is sent. A request from another origin is welcome, an id that it carries
is given back, and one that asks for the head only gets no more. -/
def conclude (request : Request) (served : Except Stop Response × Server) :
    Except Stop Response × Server :=
  (served.1.map fun response =>
    let response := response.addHeaders (request.idHeaders ++ Response.crossOriginHeaders)
    if request.method = "HEAD" then response.withoutBody else response, served.2)

/-- The response to a request. A question for what pages of other origins may do is answered
before anything is looked up. -/
def respond (request : Request) (server : Server) : Except Stop Response × Server :=
  if request.method = "OPTIONS" then
    (.ok { status := 200, headers := request.idHeaders ++ Response.preflightHeaders }, server)
  else conclude request <|
    match Endpoint.ofPath? request.path with
    | none => (.ok .notFound, server)
    | some endpoint => site.serve weather endpoint request server

end Site

end Gatekeeper.Http

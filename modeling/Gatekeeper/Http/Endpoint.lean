import Gatekeeper.Text.Percent
import Gatekeeper.Text.Search

/-!
# `Gatekeeper.Http.Endpoint`: what stands at a path

Every path of the interface names an endpoint or nothing at all. A vault is named by the last
part of its path, percent-encoded. An endpoint serves one method; one that serves `GET` also
serves `HEAD`, with the same response less its body.

Besides the interface itself there is its description, for programs and, as a manual, for people.
-/

set_option autoImplicit false

namespace Gatekeeper.Http

/-- What stands at a path. -/
inductive Endpoint where
  | health
  | liveness
  | challenge
  | signIn
  | signOut
  | requestCode
  | me
  | vaults
  /-- A vault, by the part of the path that names it, as it was sent. -/
  | vault (segment : String)
  /-- The description of the interface. -/
  | description
  /-- What leads to the manual. -/
  | manual
  /-- A page of the manual, by the part of the path that names it, as it was sent. -/
  | manualPage (page : String)
  deriving DecidableEq, Repr

namespace Endpoint

/-- The endpoint at a path. -/
def ofPath? (path : String) : Option Endpoint :=
  match (Text.split '/' path.toList).map String.ofList with
  | ["", "health"] => some health
  | ["", "health", "live"] => some liveness
  | ["", "v1", "auth", "challenge"] => some challenge
  | ["", "v1", "auth", "sign-in"] => some signIn
  | ["", "v1", "auth", "sign-out"] => some signOut
  | ["", "v1", "auth", "code"] => some requestCode
  | ["", "v1", "auth", "me"] => some me
  | ["", "v1", "predicate"] => some vaults
  | ["", "v1", "predicate", segment] => if segment = "" then none else some (vault segment)
  | ["", "api-doc", "openapi.json"] => some description
  | ["", "docs"] => some manual
  | "" :: "docs" :: page => some (manualPage ("/".intercalate page))
  | _ => none

/-- The methods that the endpoint serves. -/
def methods : Endpoint → List String
  | challenge | signIn | requestCode => ["POST"]
  | signOut => ["DELETE"]
  | health | liveness | me | vaults | vault _ | description | manual | manualPage _ =>
    ["GET", "HEAD"]

/-- Whether a request has to prove who it comes from before anything else. -/
def isProtected : Endpoint → Bool
  | requestCode | me | vaults | vault _ => true
  | health | liveness | challenge | signIn | signOut | description | manual | manualPage _ =>
    false

end Endpoint

end Gatekeeper.Http

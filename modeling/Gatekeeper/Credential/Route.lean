import Gatekeeper.Text.Blank
import Gatekeeper.Text.Search

/-!
# `Gatekeeper.Credential.Route`: the routes that a code is good for

A recover code for some routes is accepted only with a request that one of the allowed routes
matches. A route is written as a method, a space and a part of the path; a list of routes is
written with commas between them, and entries that are no routes are passed over.
-/

set_option autoImplicit false

namespace Gatekeeper

/-- The parts of a request on which a decision may depend. -/
structure RequestContext where
  method : String
  path : String
  deriving DecidableEq, Repr, Inhabited

/-- The form in which routes are written. -/
def RequestContext.route (context : RequestContext) : String :=
  context.method ++ " " ++ context.path

/-- An allowed route: a method and a part of the path. -/
structure CliRoute where
  method : String
  path : String
  deriving DecidableEq, Repr, Inhabited

namespace CliRoute

/-- The route that an entry stands for, if it has a space between a method and a path. -/
def parse? (entry : List Char) : Option CliRoute :=
  (Text.splitOnce ' ' (Text.trimChars entry)).map fun (method, path) =>
    ⟨String.ofList method, String.ofList (Text.trimChars path)⟩

/-- Whether the route allows a request: the method is the same, and the path has the route's
part somewhere. -/
def admits (route : CliRoute) (context : RequestContext) : Bool :=
  context.method == route.method && Text.holds route.path.toList context.path.toList

/-- The routes in a list of entries, with commas between them. -/
def parseList (text : String) : List CliRoute :=
  (Text.split ',' text.toList).filterMap fun entry =>
    let entry := Text.trimChars entry
    if entry.isEmpty then none else parse? entry

/-- The routes that are allowed unless the settings name others. -/
def defaults : List CliRoute :=
  [⟨"GET", "/predicate"⟩, ⟨"GET", "/transaction"⟩, ⟨"POST", "/transaction"⟩,
    ⟨"PUT", "/transaction/sign"⟩]

end CliRoute

end Gatekeeper

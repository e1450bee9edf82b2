/-!
# `Gatekeeper.Http.Target`: what a request is sent to

The target of a request has one of four forms: a path with a query behind it, a whole URI, the
name of a host, or an asterisk. `Target.path` is the path in it, by which an endpoint is found.
-/

set_option autoImplicit false

namespace Gatekeeper.Http.Target

/-- Whether a character ends the name of a host. -/
def endsHost (c : Char) : Bool := c == '/' || c == '?' || c == '#'

/-- Whether a character may stand in the name of a scheme. -/
def isSchemeChar (c : Char) : Bool := c.isAlphanum || c == '+' || c == '-' || c == '.' || c == '~'

/-- What follows the scheme of a whole URI and the two slashes behind it. -/
def afterScheme? (cs : List Char) : Option (List Char) :=
  match cs.dropWhile isSchemeChar with
  | ':' :: '/' :: '/' :: rest => some rest
  | _ => none

/-- The characters before the query. -/
def beforeQuery (cs : List Char) : List Char := cs.takeWhile fun c => c != '?' && c != '#'

/-- The path in a target. A whole URI without one has the path `/`, and a bare host has none. -/
def path (target : String) : String :=
  match target.toList with
  | '/' :: rest => String.ofList ('/' :: beforeQuery rest)
  | ['*'] => "*"
  | cs =>
    match afterScheme? cs with
    | some rest =>
      let found := beforeQuery (rest.dropWhile fun c => !endsHost c)
      if found.isEmpty then "/" else String.ofList found
    | none => ""

example : path "/a/b?c" = "/a/b" := by decide +kernel

example : path "http://[::1]:80/a?b" = "/a" ∧ path "http://h?/a" = "/" := by decide +kernel

example : path "a~b://h/a#b" = "/a" ∧ path "://h/a" = "/a" := by decide +kernel

example : path "h:80" = "" ∧ path "*" = "*" := by decide +kernel

end Gatekeeper.Http.Target

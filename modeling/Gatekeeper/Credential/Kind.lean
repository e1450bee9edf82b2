import Gatekeeper.AuthError
import Gatekeeper.Text.Blank
import Gatekeeper.Text.Search

/-!
# `Gatekeeper.Credential.Kind`: credentials and how they are presented

A credential is a text in the `Authorization` header, with or without `Bearer ` in front. Its
first letters tell what it is: recover codes and connector credentials begin with words of
their own, and any other text is taken for a session token.
-/

set_option autoImplicit false

namespace Gatekeeper

/-- The kinds of credentials. -/
inductive CredentialKind where
  /-- A session token. -/
  | bearer
  /-- A recover code for any route. -/
  | code
  /-- A recover code for some routes. -/
  | cli
  /-- The session of a dapp connector. -/
  | connector
  deriving DecidableEq, Repr

/-- What recover codes for some routes begin with. -/
def cliMark : String := "cli"

/-- What recover codes for any route begin with. -/
def codeMark : String := "code"

/-- What connector credentials begin with, right before the session id. -/
def connectorMark : String := "connector"

/-- Whether the text begins with a mark. Upper and lower case differ. -/
def marked (mark raw : String) : Bool := Text.startsWith mark.toList raw.toList

/-- The kind of a credential, by the first mark that it begins with. -/
def CredentialKind.of (raw : String) : CredentialKind :=
  if marked cliMark raw then .cli
  else if marked codeMark raw then .code
  else if marked connectorMark raw then .connector
  else .bearer

/-- The session id in a connector credential. -/
def connectorSession (raw : String) : String :=
  match Text.strip? connectorMark.toList raw.toList with
  | some rest => String.ofList rest
  | none => raw

/-- Whether a character of a header can be read as text. -/
def isHeaderText (c : Char) : Bool := c == '\t' || (0x20 ≤ c.toNat && c.toNat < 0x7F)

/-- The credential in the value of the first `Authorization` header. -/
def presentedCredential (header : Option String) : Except AuthError String :=
  match header with
  | none => .error .missingCredentials
  | some value =>
    if value.toList.all isHeaderText then
      let bare := (Text.strip? "Bearer ".toList value.toList).getD value.toList
      match Text.trimChars bare with
      | [] => .error .missingCredentials
      | raw => .ok (String.ofList raw)
    else
      .error (.unauthorized .invalidCredentials "Authorization header is not valid ASCII")

end Gatekeeper

import Gatekeeper.Json.Record

/-!
# `Gatekeeper.User`: users and how they sign

A `User` is the stored record of a user. A `UserSnapshot` is the part of it that sessions and
identities carry, so that nobody has to look the user up again.
-/

set_option autoImplicit false

namespace Gatekeeper

/-- How a user signs. -/
inductive Encoder where
  | fuel
  | webAuthn
  | evm
  deriving DecidableEq, Repr, Inhabited

namespace Encoder

/-- The written name of an encoder. -/
def name : Encoder → String
  | fuel => "FUEL"
  | webAuthn => "WEB_AUTHN"
  | evm => "EVM"

/-- The encoders by their written names. -/
def byName : List (String × Encoder) := [fuel, webAuthn, evm].map fun e => (e.name, e)

/-- An encoder is written by its name. -/
def form : Json.Form Encoder := .variant byName name

end Encoder

/-- The part of a user's record that sessions and identities carry. -/
structure UserSnapshot where
  id : String
  name : String
  avatar : String
  address : String
  accountType : Encoder
  notify : Bool
  firstLogin : Bool
  deriving DecidableEq, Repr, Inhabited

/-- A snapshot is an object of its parts. -/
def UserSnapshot.form : Json.Form UserSnapshot :=
  .record "UserSnapshot"
    (.cons (.required "id" .text) <|
     .cons (.required "name" .text) <|
     .cons (.required "avatar" .text) <|
     .cons (.required "address" .text) <|
     .cons (.required "account_type" Encoder.form) <|
     .cons (.required "notify" .boolean) <|
     .cons (.required "first_login" .boolean) .nil)
    (fun (id, name, avatar, address, accountType, notify, firstLogin, ()) =>
      ⟨id, name, avatar, address, accountType, notify, firstLogin⟩)
    (fun u => (u.id, u.name, u.avatar, u.address, u.accountType, u.notify, u.firstLogin, ()))

/-- The stored record of a user. -/
structure User where
  id : String
  name : String
  avatar : String
  /-- The address the user signs with. Look-ups do not tell its lower case from its upper. -/
  address : String
  accountType : Encoder
  notify : Bool
  firstLogin : Bool
  /-- The workspace of the user, for credentials that carry none. -/
  defaultWorkspaceId : String
  createdAt : Timestamp
  deriving DecidableEq, Inhabited

namespace User

/-- A user is an object of the record's parts. -/
def form : Json.Form User :=
  .record "UserRecord"
    (.cons (.required "id" .text) <|
     .cons (.required "name" .text) <|
     .cons (.required "avatar" .text) <|
     .cons (.required "address" .text) <|
     .cons (.required "account_type" Encoder.form) <|
     .cons (.required "notify" .boolean) <|
     .cons (.required "first_login" .boolean) <|
     .cons (.required "default_workspace_id" .text) <|
     .cons (.required "created_at" .timestamp) .nil)
    (fun (id, name, avatar, address, accountType, notify, firstLogin, workspace, createdAt,
        ()) =>
      ⟨id, name, avatar, address, accountType, notify, firstLogin, workspace, createdAt⟩)
    (fun u => (u.id, u.name, u.avatar, u.address, u.accountType, u.notify, u.firstLogin,
      u.defaultWorkspaceId, u.createdAt, ()))

/-- The part of the record that sessions and identities carry. -/
def snapshot (user : User) : UserSnapshot :=
  ⟨user.id, user.name, user.avatar, user.address, user.accountType, user.notify,
    user.firstLogin⟩

end User

end Gatekeeper

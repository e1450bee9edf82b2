import Gatekeeper.AuthError
import Gatekeeper.Code.Basic
import Gatekeeper.Identity
import Gatekeeper.Overflow
import Gatekeeper.Session.Basic
import Gatekeeper.Text.Lowercase

/-!
# `Gatekeeper.Database`: the durable tables

Seven tables keep what outlives the process. Five hold records as the text of their JSON, one
the user of each signer address in lower case, one the workspace of each vault. A row that
is not the JSON of its record makes every read of it fail.

A `Call` is one request to the database, and `Call.run` answers it. Each call is one
transaction: it changes all that it has to change, or it fails and changes nothing. That a
recover code is checked and used in a single call is what keeps two users of one code apart.
-/

set_option autoImplicit false

namespace Gatekeeper

/-- A table of texts by key. -/
abbrev Table : Type := SortedMap String String

namespace Table

/-- The record in a row. -/
def decodeRow {α : Type} (form : Json.Form α) (row : String) : Except StoreError α :=
  match form.decode row with
  | .ok a => .ok a
  | .error failure => .error (.malformedRow failure row)

/-- The record under a key. -/
def find {α : Type} (table : Table) (form : Json.Form α) (key : String) :
    Except StoreError (Option α) :=
  match table.get? key with
  | none => .ok none
  | some row => do return some (← decodeRow form row)

/-- The table with a record under a key. -/
def write {α : Type} (table : Table) (form : Json.Form α) (key : String) (a : α) : Table :=
  SortedMap.insert table key (form.encode a)

/-- The keys of the records that satisfy `p`, by key, if every row can be read. -/
def keysWhere {α : Type} (form : Json.Form α) (p : α → Bool) :
    List (String × String) → Except StoreError (List String)
  | [] => .ok []
  | (key, row) :: rows => do
    let a ← decodeRow form row
    let keys ← keysWhere form p rows
    return if p a then key :: keys else keys

/-- Removes the records that satisfy `p`, if every row can be read. -/
def removeWhere {α : Type} (table : Table) (form : Json.Form α) (p : α → Bool) :
    Except StoreError (Nat × Table) := do
  let keys ← keysWhere form p table.entries
  return (keys.length, keys.foldl SortedMap.erase table)

end Table

/-- The durable tables. -/
structure Database where
  /-- Sessions by token. -/
  sessions : Table := .empty
  /-- Recover codes by code. -/
  codes : Table := .empty
  /-- Users by id. -/
  users : Table := .empty
  /-- Ids of users by signer address, in lower case. -/
  addresses : Table := .empty
  /-- Workspaces by id. -/
  workspaces : Table := .empty
  /-- Ids of workspaces by the id of a vault they own. -/
  resources : Table := .empty
  /-- Dapp bindings by session id. -/
  dapps : Table := .empty
  deriving DecidableEq

/-- What comes of an attempt to use a recover code. -/
inductive CodeUse where
  /-- The code was usable. It is given as it is after the use. -/
  | consumed (code : RecoverCode)
  /-- The code is expired or used up. -/
  | rejected (code : RecoverCode)
  /-- There is no such code of the right kind. -/
  | notFound

/-- Why a call is not answered. -/
inductive CallFault where
  | store (error : StoreError)
  | overflow (cause : Overflow)
  deriving DecidableEq, Repr

instance : MonadLift (Except StoreError) (Except CallFault) := ⟨Except.mapError .store⟩

/-- A request to the database. -/
inductive Call where
  | findSession (token : String)
  | upsertSession (session : Session)
  /-- Overwrites the row of a session if there is one. -/
  | updateSession (session : Session)
  | deleteSession (token : String)
  /-- Deletes every session that is expired at a time. -/
  | deleteExpiredSessions (time : Timestamp)
  | findCode (code : String)
  | insertCode (code : RecoverCode)
  | updateCode (code : RecoverCode)
  /-- Uses a code of a kind, if it is usable at a time. -/
  | consumeCode (code : String) (kind : CodeKind) (maxUses : UInt32) (time : Timestamp)
  /-- Deletes every code that expired before a time. -/
  | deleteCodesBefore (time : Timestamp)
  | findUser (id : String)
  | findUserByAddress (address : String)
  | findWorkspace (id : String)
  | findPermissions (workspace : String)
  | isMember (workspace user : String)
  | findResourceOwner (resource : String)
  | findDapp (sessionId : String)

/-- What a call is answered with. -/
abbrev Call.Answer : Call → Type
  | findSession _ => Option Session
  | upsertSession _ => Unit
  | updateSession _ => Bool
  | deleteSession _ => Bool
  | deleteExpiredSessions _ => Nat
  | findCode _ => Option RecoverCode
  | insertCode _ => Unit
  | updateCode _ => Unit
  | consumeCode .. => CodeUse
  | deleteCodesBefore _ => Nat
  | findUser _ => Option User
  | findUserByAddress _ => Option User
  | findWorkspace _ => Option Workspace
  | findPermissions _ => Option PermissionTable
  | isMember .. => Bool
  | findResourceOwner _ => Option ResourceOwner
  | findDapp _ => Option DappBinding

namespace Database

/-- The database with a user, and the user's address in the index. The address that the
user had before stays in the index. -/
def putUser (db : Database) (user : User) : Database :=
  { db with
    users := db.users.write User.form user.id user
    addresses := SortedMap.insert db.addresses (Text.lowercase user.address) user.id }

/-- The database with a workspace. -/
def putWorkspace (db : Database) (w : Workspace) : Database :=
  { db with workspaces := db.workspaces.write Workspace.form w.id w }

/-- The database with the workspace that owns a vault. -/
def putResource (db : Database) (owner : ResourceOwner) : Database :=
  { db with resources := SortedMap.insert db.resources owner.resourceId owner.workspaceId }

/-- The database with a dapp binding. -/
def putDapp (db : Database) (dapp : DappBinding) : Database :=
  { db with dapps := db.dapps.write DappBinding.form dapp.sessionId dapp }

/-- The vaults that a workspace owns, by id. -/
def listResources (db : Database) (workspace : String) : List String :=
  (db.resources.entries.filter fun entry => entry.2 == workspace).map (·.1)

/-- The number of durable sessions. -/
def sessionCount (db : Database) : Nat := db.sessions.size

/-- The workspace with an id. -/
def findWorkspace (db : Database) (id : String) : Except StoreError (Option Workspace) :=
  db.workspaces.find Workspace.form id

/-- Uses a code of a kind, if it is usable at a time. -/
def consumeCode (db : Database) (code : String) (kind : CodeKind) (maxUses : UInt32)
    (time : Timestamp) : Except CallFault (CodeUse × Database) := do
  match ← db.codes.find RecoverCode.form code with
  | none => return (.notFound, db)
  | some record =>
    if record.kind ≠ kind then return (.notFound, db)
    else if record.isUsable time then
      match record.recordUse? maxUses with
      | some used =>
        return (.consumed used, { db with codes := db.codes.write RecoverCode.form code used })
      | none => throw (.overflow .uses)
    else return (.rejected record, db)

end Database

/-- The answer to a call, and the database after it. -/
def Call.run : (call : Call) → Database → Except CallFault (call.Answer × Database)
  | .findSession token, db => do return (← db.sessions.find Session.form token, db)
  | .upsertSession session, db =>
    .ok ((), { db with sessions := db.sessions.write Session.form session.token session })
  | .updateSession session, db =>
    if db.sessions.contains session.token then
      .ok (true, { db with sessions := db.sessions.write Session.form session.token session })
    else .ok (false, db)
  | .deleteSession token, db =>
    .ok (db.sessions.contains token, { db with sessions := SortedMap.erase db.sessions token })
  | .deleteExpiredSessions time, db => do
    let (count, sessions) ← db.sessions.removeWhere Session.form (·.isExpired time)
    return (count, { db with sessions })
  | .findCode code, db => do return (← db.codes.find RecoverCode.form code, db)
  | .insertCode code, db | .updateCode code, db =>
    .ok ((), { db with codes := db.codes.write RecoverCode.form code.code code })
  | .consumeCode code kind maxUses time, db => db.consumeCode code kind maxUses time
  | .deleteCodesBefore time, db => do
    let (count, codes) ← db.codes.removeWhere RecoverCode.form (·.validAt < time)
    return (count, { db with codes })
  | .findUser id, db => do return (← db.users.find User.form id, db)
  | .findUserByAddress address, db =>
    match db.addresses.get? (Text.lowercase address) with
    | some id => do return (← db.users.find User.form id, db)
    | none => .ok (none, db)
  | .findWorkspace id, db => do return (← db.findWorkspace id, db)
  | .findPermissions id, db => do
    return ((← db.findWorkspace id).map (·.permissions), db)
  | .isMember id user, db => do
    return ((← db.findWorkspace id).any (·.isMember user), db)
  | .findResourceOwner resource, db =>
    .ok ((db.resources.get? resource).map fun workspace => ⟨resource, workspace⟩, db)
  | .findDapp sessionId, db => do return (← db.dapps.find DappBinding.form sessionId, db)

end Gatekeeper

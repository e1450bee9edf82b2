import Gatekeeper.Json.Record
import Gatekeeper.Permission

/-!
# `Gatekeeper.Workspace`: workspaces and their members

A workspace has an owner, members and a permission table. Members and table change together:
who is added is granted a role at once, who is removed loses every permission, and only
members are granted roles or lose them. The owner cannot be removed.
-/

set_option autoImplicit false

namespace Gatekeeper

/-- What identities and sessions carry of a workspace. -/
structure WorkspaceRef where
  id : String
  name : String
  /-- Whether the workspace is a personal one. -/
  single : Bool
  deriving DecidableEq, Repr, Inhabited

/-- A reference is an object of its parts. -/
def WorkspaceRef.form : Json.Form WorkspaceRef :=
  .record "WorkspaceRef"
    (.cons (.required "id" .text) <|
     .cons (.required "name" .text) <|
     .cons (.required "single" .boolean) .nil)
    (fun (id, name, single, ()) => ⟨id, name, single⟩)
    (fun w => (w.id, w.name, w.single, ()))

/-- A workspace with its members and permissions. -/
structure Workspace where
  id : String
  name : String
  ownerId : String
  /-- Whether the workspace is a personal one. -/
  single : Bool
  members : SortedSet String
  permissions : PermissionTable
  createdAt : Timestamp
  deriving DecidableEq, Inhabited

/-- The resources that a grant covers. -/
inductive ResourceScope where
  /-- Every resource of the workspace. -/
  | all
  /-- The listed resources. -/
  | only (resources : List String)
  deriving DecidableEq, Repr

/-- Why a change to a workspace is rejected. -/
inductive WorkspaceError where
  | notMember (user : String)
  | ownerRemoval
  deriving DecidableEq, Repr

/-- The words for a rejected change. -/
def WorkspaceError.message : WorkspaceError → String
  | notMember user => "user " ++ user ++ " is not a member of this workspace"
  | ownerRemoval => "the workspace owner cannot be removed"

namespace Workspace

/-- A workspace is an object of its parts. -/
def form : Json.Form Workspace :=
  .record "Workspace"
    (.cons (.required "id" .text) <|
     .cons (.required "name" .text) <|
     .cons (.required "owner_id" .text) <|
     .cons (.required "single" .boolean) <|
     .cons (.required "members" .textSet) <|
     .cons (.required "permissions" PermissionTable.form) <|
     .cons (.required "created_at" .timestamp) .nil)
    (fun (id, name, ownerId, single, members, permissions, createdAt, ()) =>
      ⟨id, name, ownerId, single, members, permissions, createdAt⟩)
    (fun w => (w.id, w.name, w.ownerId, w.single, w.members, w.permissions, w.createdAt, ()))

/-- A new workspace. Its owner is its only member and holds every role over everything. -/
def create (id name ownerId : String) (single : Bool) (now : Instant) : Workspace where
  id := id
  name := name
  ownerId := ownerId
  single := single
  members := SortedSet.ofList [ownerId]
  permissions := Role.all.foldl
    (fun table role => PermissionTable.grant table ownerId role wildcard) .empty
  createdAt := now

/-- Whether `user` is a member. -/
def isMember (w : Workspace) (user : String) : Bool := w.members.contains user

/-- The permission table after `role` over `scope` is granted to `user`. -/
def grantScope (table : PermissionTable) (user : String) (role : Role) :
    ResourceScope → PermissionTable
  | .all => table.grant user role wildcard
  | .only resources => resources.foldl (fun table r => table.grant user role r) table

/-- Makes `user` a member, with `role` over `scope`. -/
def addMember (w : Workspace) (user : String) (role : Role) (scope : ResourceScope) :
    Workspace :=
  { w with
    members := SortedSet.insert w.members user
    permissions := grantScope w.permissions user role scope }

/-- Grants `role` over `scope` to a member. -/
def grant (w : Workspace) (user : String) (role : Role) (scope : ResourceScope) :
    Except WorkspaceError Workspace :=
  if w.isMember user then
    .ok { w with permissions := grantScope w.permissions user role scope }
  else .error (.notMember user)

/-- Takes `role` from a member, and says whether the member held it. The user stays a
member. -/
def revoke (w : Workspace) (user : String) (role : Role) :
    Except WorkspaceError (Bool × Workspace) :=
  if w.isMember user then
    let (held, table) := PermissionTable.revoke w.permissions user role
    .ok (held, { w with permissions := table })
  else .error (.notMember user)

/-- Removes a member other than the owner, with every permission the user holds. -/
def removeMember (w : Workspace) (user : String) : Except WorkspaceError Workspace :=
  if user = w.ownerId then .error .ownerRemoval
  else if w.isMember user then
    .ok { w with
      members := SortedMap.erase w.members user
      permissions := (PermissionTable.removeUser w.permissions user).2 }
  else .error (.notMember user)

/-- What identities and sessions carry of the workspace. -/
def toRef (w : Workspace) : WorkspaceRef := ⟨w.id, w.name, w.single⟩

end Workspace

/-- The workspace that owns a vault. -/
structure ResourceOwner where
  resourceId : String
  workspaceId : String
  deriving DecidableEq, Repr, Inhabited

/-- An ownership is an object of its parts. -/
def ResourceOwner.form : Json.Form ResourceOwner :=
  .record "ResourceOwner"
    (.cons (.required "resource_id" .text) <| .cons (.required "workspace_id" .text) .nil)
    (fun (resourceId, workspaceId, ()) => ⟨resourceId, workspaceId⟩)
    (fun owner => (owner.resourceId, owner.workspaceId, ()))

end Gatekeeper

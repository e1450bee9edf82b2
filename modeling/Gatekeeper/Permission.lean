import Gatekeeper.Role

/-!
# `Gatekeeper.Permission`: who may do what in a workspace

A permission table holds, for some users, the roles they hold and for each role the resources
it covers. The resource `*` stands for every resource of the workspace. A user without an
entry has no permission at all. Membership is no matter of this table.

`holdsEverywhere` asks for one of several roles over everything, `holdsOver` for one of them
over a given resource.
-/

set_option autoImplicit false

namespace Gatekeeper

/-- The resource that stands for every resource of a workspace. -/
def wildcard : String := "*"

/-- The roles that a user holds, each with the resources it covers. -/
abbrev RoleGrants : Type := SortedMap Role (SortedSet String)

/-- The permissions of the users of a workspace. -/
abbrev PermissionTable : Type := SortedMap String RoleGrants

namespace PermissionTable

/-- The table with `role` over `resource` granted to `user`. -/
def grant (table : PermissionTable) (user : String) (role : Role) (resource : String) :
    PermissionTable :=
  let roles := (table.get? user).getD .empty
  let resources := (roles.get? role).getD .empty
  SortedMap.insert table user (roles.insert role (SortedSet.insert resources resource))

/-- The table without `role` for `user`, and whether the user held it. A user without roles
has no entry. -/
def revoke (table : PermissionTable) (user : String) (role : Role) : Bool × PermissionTable :=
  match table.get? user with
  | none => (false, table)
  | some roles =>
    let kept := roles.erase role
    (roles.contains role,
      if kept.isEmpty then SortedMap.erase table user else SortedMap.insert table user kept)

/-- The table without an entry for `user`, and whether there was one. -/
def removeUser (table : PermissionTable) (user : String) : Bool × PermissionTable :=
  (table.contains user, SortedMap.erase table user)

/-- The resources that `role` covers for `user`. -/
def covered (table : PermissionTable) (user : String) (role : Role) : SortedSet String :=
  (((table.get? user).bind fun roles => roles.get? role)).getD .empty

/-- Whether `user` holds one of `roles` over everything. -/
def holdsEverywhere (table : PermissionTable) (user : String) (roles : List Role) : Bool :=
  roles.any fun role => (table.covered user role).contains wildcard

/-- Whether `user` holds one of `roles` over everything or over `resource`. If no role is
asked for, everybody does. -/
def holdsOver (table : PermissionTable) (user : String) (roles : List Role)
    (resource : String) : Bool :=
  roles.isEmpty || roles.any fun role =>
    let resources := table.covered user role
    resources.contains wildcard || resources.contains resource

/-- A table is an object of objects of arrays. -/
def form : Json.Form PermissionTable :=
  .map (.map .textSet (fun name rest => Json.Form.findVariant Role.byName name rest) Role.name)
    (fun user _ => .ok user) id

end PermissionTable

end Gatekeeper

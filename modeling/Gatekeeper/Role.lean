import Gatekeeper.Json.Form

/-!
# `Gatekeeper.Role`: the roles of a workspace

A member of a workspace holds roles over its vaults. No role implies another: what a role
allows is written in the permission table and nowhere else.
-/

set_option autoImplicit false

namespace Gatekeeper

/-- A role that a user can hold inside a workspace. -/
inductive Role where
  | owner
  | admin
  | manager
  | signer
  | viewer
  deriving DecidableEq, Repr, Inhabited

namespace Role

/-- Every role, from owner to viewer. -/
def all : List Role := [owner, admin, manager, signer, viewer]

/-- The written name of a role. -/
def name : Role → String
  | owner => "OWNER"
  | admin => "ADMIN"
  | manager => "MANAGER"
  | signer => "SIGNER"
  | viewer => "VIEWER"

/-- The place of a role in the list of all. -/
def place : Role → Nat
  | owner => 0
  | admin => 1
  | manager => 2
  | signer => 3
  | viewer => 4

instance : Ord Role := ⟨compareOn place⟩

instance : Std.TransOrd Role := inferInstanceAs (Std.TransCmp (compareOn place))

instance : Std.LawfulEqOrd Role where
  eq_of_compare {a b} h := by revert h; cases a <;> cases b <;> decide

/-- The roles by their written names. -/
def byName : List (String × Role) := all.map fun role => (role.name, role)

/-- A role is written by its name. -/
def form : Json.Form Role := .variant byName name

theorem mem_all (role : Role) : role ∈ all := by cases role <;> decide

end Role

end Gatekeeper

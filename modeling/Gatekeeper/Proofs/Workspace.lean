import Gatekeeper.Proofs.Permission

/-!
# `Gatekeeper.Proofs.Workspace`: what the past says of a workspace

A `Deed` is something that was done to the workspaces and their vaults:
the creation of a workspace, a change to one that was accepted, and the
assignment of a vault. What the deeds, latest first, say of a workspace
is who owns it (`IsOwner`), who was added to it and not removed
(`IsAdded`), and which grants are in force (`IsGranted`): a grant ends
with a revocation of its role or with a removal of its user.

`Reflects` says that a workspace is what the deeds say. A new workspace is
(`Reflects.create`), and every accepted change keeps it
(`Reflects.change`).
-/

set_option autoImplicit false

namespace Gatekeeper

namespace Workspace

/-- A change to the members and the permissions of a workspace. -/
inductive Change where
  | addMember (user : String) (role : Role) (scope : ResourceScope)
  | grant (user : String) (role : Role) (scope : ResourceScope)
  | revoke (user : String) (role : Role)
  | removeMember (user : String)

/-- The workspace after a change, unless the change is rejected. -/
def change? (w : Workspace) : Change → Option Workspace
  | .addMember user role scope => some (w.addMember user role scope)
  | .grant user role scope => (w.grant user role scope).toOption
  | .revoke user role => (w.revoke user role).toOption.map (·.2)
  | .removeMember user => (w.removeMember user).toOption

end Workspace

/-- Something that was done to the workspaces and their vaults. -/
inductive Deed where
  | created (workspace owner : String)
  /-- A change that was accepted. -/
  | changed (workspace : String) (change : Workspace.Change)
  | assigned (resource workspace : String)

namespace Deed

/-- The deed is about a workspace. -/
def On (workspace : String) : Deed → Prop
  | created id _ | changed id _ => id = workspace
  | assigned .. => False

/-- The deed grants a role to a user, over a scope that is wanted. A new
workspace grants every role over everything to its owner. -/
def Grants (workspace user : String) (role : Role) (wanted : ResourceScope → Prop) : Deed → Prop
  | created id owner => id = workspace ∧ owner = user ∧ wanted .all
  | changed id (.addMember other otherRole scope) | changed id (.grant other otherRole scope) =>
    id = workspace ∧ other = user ∧ otherRole = role ∧ wanted scope
  | _ => False

/-- The deed ends the earlier grants of a role to a user. -/
def Ends (workspace user : String) (role : Role) : Deed → Prop
  | created id _ => id = workspace
  | changed id (.revoke other otherRole) => id = workspace ∧ other = user ∧ otherRole = role
  | changed id (.removeMember other) => id = workspace ∧ other = user
  | _ => False

end Deed

/-- The user owns the workspace. -/
def IsOwner (workspace user : String) : List Deed → Prop
  | [] => False
  | .created id owner :: deeds =>
    if id = workspace then owner = user else IsOwner workspace user deeds
  | _ :: deeds => IsOwner workspace user deeds

/-- The user was added to the workspace and not removed since. -/
def IsAdded (workspace user : String) : List Deed → Prop
  | [] => False
  | .created id _ :: deeds => id ≠ workspace ∧ IsAdded workspace user deeds
  | .changed id (.addMember other _ _) :: deeds =>
    (id = workspace ∧ other = user) ∨ IsAdded workspace user deeds
  | .changed id (.removeMember other) :: deeds =>
    ¬ (id = workspace ∧ other = user) ∧ IsAdded workspace user deeds
  | _ :: deeds => IsAdded workspace user deeds

/-- A grant of the role to the user, over a scope that is wanted, is in
force. -/
def IsGranted (workspace user : String) (role : Role) (wanted : ResourceScope → Prop) :
    List Deed → Prop
  | [] => False
  | deed :: deeds => deed.Grants workspace user role wanted ∨
    (¬ deed.Ends workspace user role ∧ IsGranted workspace user role wanted deeds)

/-- The workspace that a vault was assigned to last. -/
def vault? (resource : String) : List Deed → Option String
  | [] => none
  | .assigned assigned workspace :: deeds =>
    if assigned = resource then some workspace else vault? resource deeds
  | _ :: deeds => vault? resource deeds

/-- A grant over a scope of one kind or another is a grant of either. -/
theorem isGranted_or {workspace user : String} {role : Role} {wanted wanted' : ResourceScope → Prop}
    {deeds : List Deed} :
    IsGranted workspace user role (fun scope => wanted scope ∨ wanted' scope) deeds ↔
      IsGranted workspace user role wanted deeds ∨ IsGranted workspace user role wanted' deeds := by
  induction deeds with
  | nil => exact ⟨False.elim, fun h => h.elim id id⟩
  | cons deed deeds ih =>
    have hgrants : deed.Grants workspace user role (fun scope => wanted scope ∨ wanted' scope) ↔
        deed.Grants workspace user role wanted ∨ deed.Grants workspace user role wanted' := by
      cases deed with
      | created other owner => simp only [Deed.Grants, ← and_or_left]
      | changed other change =>
        cases change with
        | addMember | grant => simp only [Deed.Grants, ← and_or_left]
        | revoke | removeMember => exact ⟨False.elim, fun h => h.elim id id⟩
      | assigned => exact ⟨False.elim, fun h => h.elim id id⟩
    unfold IsGranted
    rw [hgrants, ih, and_or_left]
    constructor
    · rintro ((h | h) | h | h)
      · exact .inl (.inl h)
      · exact .inr (.inl h)
      · exact .inl (.inr h)
      · exact .inr (.inr h)
    · rintro ((h | h) | h | h)
      · exact .inl (.inl h)
      · exact .inr (.inl h)
      · exact .inl (.inr h)
      · exact .inr (.inr h)

/-- Who owns a workspace does not depend on what is done elsewhere. -/
theorem isOwner_cons {deed : Deed} {deeds : List Deed} {workspace user : String}
    (hnot : ¬ deed.On workspace) :
    IsOwner workspace user (deed :: deeds) ↔ IsOwner workspace user deeds := by
  cases deed with
  | created other owner =>
    have hne : ¬ other = workspace := hnot
    show (if other = workspace then _ else _) ↔ _
    rw [if_neg hne]
  | changed | assigned => exact Iff.rfl

/-- Who was added to a workspace does not depend on what is done
elsewhere. -/
theorem isAdded_cons {deed : Deed} {deeds : List Deed} {workspace user : String}
    (hnot : ¬ deed.On workspace) :
    IsAdded workspace user (deed :: deeds) ↔ IsAdded workspace user deeds := by
  cases deed with
  | created => exact ⟨And.right, fun h => ⟨hnot, h⟩⟩
  | assigned => exact Iff.rfl
  | changed other change =>
    cases change with
    | addMember => exact ⟨fun h => h.resolve_left fun heq => hnot heq.1, .inr⟩
    | removeMember => exact ⟨And.right, fun h => ⟨fun heq => hnot heq.1, h⟩⟩
    | grant | revoke => exact Iff.rfl

/-- The grants of a workspace do not depend on what is done elsewhere. -/
theorem isGranted_cons {deed : Deed} {deeds : List Deed} {workspace user : String} {role : Role}
    {wanted : ResourceScope → Prop} (hnot : ¬ deed.On workspace) :
    IsGranted workspace user role wanted (deed :: deeds) ↔
      IsGranted workspace user role wanted deeds := by
  have hgrants : ¬ deed.Grants workspace user role wanted := by
    cases deed with
    | created => exact fun h => hnot h.1
    | assigned => exact False.elim
    | changed other change =>
      cases change with
      | addMember | grant => exact fun h => hnot h.1
      | revoke | removeMember => exact False.elim
  have hends : ¬ deed.Ends workspace user role := by
    cases deed with
    | created => exact hnot
    | assigned => exact False.elim
    | changed other change =>
      cases change with
      | addMember | grant => exact False.elim
      | revoke | removeMember => exact fun h => hnot h.1
  exact ⟨fun h => (h.resolve_left hgrants).2, fun h => .inr ⟨hends, h⟩⟩

/-- A workspace is what the deeds say of it. -/
structure Reflects (deeds : List Deed) (workspace : String) (w : Workspace) : Prop where
  id_eq : w.id = workspace
  owner : ∀ user, w.ownerId = user ↔ IsOwner workspace user deeds
  members : ∀ user, w.isMember user = true ↔
    IsOwner workspace user deeds ∨ IsAdded workspace user deeds
  grants : ∀ user role resource, w.permissions.Covers user role resource ↔
    IsGranted workspace user role (·.Lists resource) deeds

namespace Reflects

variable {deeds : List Deed} {workspace : String} {w w' : Workspace}

/-- What is done elsewhere changes nothing about a workspace. -/
theorem elsewhere (h : Reflects deeds workspace w) {deed : Deed} (hnot : ¬ deed.On workspace) :
    Reflects (deed :: deeds) workspace w := by
  refine ⟨h.id_eq, fun user => ?_, fun user => ?_, fun user role resource => ?_⟩
  · rw [isOwner_cons hnot]
    exact h.owner user
  · rw [isOwner_cons hnot, isAdded_cons hnot]
    exact h.members user
  · rw [isGranted_cons hnot]
    exact h.grants user role resource

/-- A new workspace is what its creation says. -/
theorem create (deeds : List Deed) (id name owner : String) (single : Bool) (now : Instant) :
    Reflects (.created id owner :: deeds) id (Workspace.create id name owner single now) := by
  refine ⟨rfl, fun user => ?_, fun user => ?_, fun user role resource => ?_⟩
  · show owner = user ↔ if id = id then owner = user else _
    rw [if_pos rfl]
  · show (SortedSet.insert .empty owner).contains user = true ↔
      (if id = id then owner = user else _) ∨ (id ≠ id ∧ _)
    rw [if_pos rfl, SortedSet.contains_insert_iff]
    constructor
    · rintro (rfl | hempty)
      · exact .inl rfl
      · cases hempty
    · rintro (rfl | hadded)
      · exact .inl rfl
      · exact absurd rfl hadded.1
  · show PermissionTable.Covers (Role.all.foldl _ _) user role resource ↔
      (id = id ∧ owner = user ∧ resource = wildcard) ∨ (¬ id = id ∧ _)
    rw [PermissionTable.covers_foldl_grant]
    constructor
    · rintro (⟨rfl, -, hresource⟩ | hempty)
      · exact .inl ⟨rfl, rfl, hresource⟩
      · exact absurd hempty (PermissionTable.not_covers_empty user role resource)
    · rintro (⟨-, rfl, hresource⟩ | hbefore)
      · exact .inl ⟨rfl, role.mem_all, hresource⟩
      · exact absurd rfl hbefore.1

/-- The grants in force after one more of them. -/
theorem grants_grantScope (h : Reflects deeds workspace w) {granted : String} {role : Role}
    {scope : ResourceScope} (user : String) (otherRole : Role) (resource : String) :
    (Workspace.grantScope w.permissions granted role scope).Covers user otherRole resource ↔
      (workspace = workspace ∧ granted = user ∧ role = otherRole ∧ scope.Lists resource) ∨
        (¬ False ∧ IsGranted workspace user otherRole (·.Lists resource) deeds) := by
  rw [PermissionTable.covers_grantScope, h.grants]
  constructor
  · rintro (⟨rfl, rfl, hlists⟩ | hbefore)
    · exact .inl ⟨rfl, rfl, rfl, hlists⟩
    · exact .inr ⟨id, hbefore⟩
  · rintro (⟨-, rfl, rfl, hlists⟩ | hbefore)
    · exact .inl ⟨rfl, rfl, hlists⟩
    · exact .inr hbefore.2

/-- A workspace is what the deeds say after every change that is
accepted. -/
theorem change (h : Reflects deeds workspace w) {change : Workspace.Change}
    (hchange : w.change? change = some w') :
    Reflects (.changed workspace change :: deeds) workspace w' := by
  cases change with
  | addMember added role scope =>
    cases hchange
    refine ⟨h.id_eq, h.owner, fun user => ?_, h.grants_grantScope⟩
    show (SortedSet.insert w.members added).contains user = true ↔
      _ ∨ ((workspace = workspace ∧ added = user) ∨ _)
    rw [SortedSet.contains_insert_iff]
    constructor
    · rintro (rfl | hmember)
      · exact .inr (.inl ⟨rfl, rfl⟩)
      · exact ((h.members user).1 hmember).imp_right .inr
    · rintro (howner | ⟨-, rfl⟩ | hadded)
      · exact .inr ((h.members user).2 (.inl howner))
      · exact .inl rfl
      · exact .inr ((h.members user).2 (.inr hadded))
  | grant granted role scope =>
    simp only [Workspace.change?, Workspace.grant] at hchange
    split at hchange
    · cases hchange
      exact ⟨h.id_eq, h.owner, h.members, h.grants_grantScope⟩
    · cases hchange
  | revoke revoked role =>
    simp only [Workspace.change?, Workspace.revoke] at hchange
    split at hchange
    · cases hchange
      refine ⟨h.id_eq, h.owner, h.members, ?_⟩
      intro user otherRole resource
      show (PermissionTable.revoke w.permissions revoked role).2.Covers user otherRole resource ↔
        False ∨ (¬ (workspace = workspace ∧ revoked = user ∧ role = otherRole) ∧ _)
      rw [PermissionTable.covers_revoke, h.grants]
      constructor
      · rintro ⟨hnot, hgranted⟩
        exact .inr ⟨fun heq => hnot ⟨heq.2.1.symm, heq.2.2.symm⟩, hgranted⟩
      · rintro (hfalse | ⟨hnot, hgranted⟩)
        · cases hfalse
        · exact ⟨fun heq => hnot ⟨rfl, heq.1.symm, heq.2.symm⟩, hgranted⟩
    · cases hchange
  | removeMember removed =>
    simp only [Workspace.change?, Workspace.removeMember] at hchange
    split at hchange
    · cases hchange
    next hnotOwner =>
    split at hchange
    · cases hchange
      refine ⟨h.id_eq, h.owner, fun user => ?_, fun user role resource => ?_⟩
      · show (SortedMap.erase w.members removed).contains user = true ↔
          _ ∨ (¬ (workspace = workspace ∧ removed = user) ∧ _)
        rw [SortedSet.contains_erase_iff]
        constructor
        · rintro ⟨hne, hmember⟩
          exact ((h.members user).1 hmember).imp_right fun hadded =>
            ⟨fun heq => hne heq.2.symm, hadded⟩
        · rintro (howner | ⟨hnot, hadded⟩)
          · -- The owner is not removed, so it is another user.
            refine ⟨?_, (h.members user).2 (.inl howner)⟩
            rintro rfl
            exact hnotOwner ((h.owner user).2 howner).symm
          · exact ⟨fun heq => hnot ⟨rfl, heq.symm⟩, (h.members user).2 (.inr hadded)⟩
      · show (PermissionTable.removeUser w.permissions removed).2.Covers user role resource ↔
          False ∨ (¬ (workspace = workspace ∧ removed = user) ∧ _)
        rw [PermissionTable.covers_removeUser, h.grants]
        constructor
        · rintro ⟨hne, hgranted⟩
          exact .inr ⟨fun heq => hne heq.2.symm, hgranted⟩
        · rintro (hfalse | ⟨hnot, hgranted⟩)
          · cases hfalse
          · exact ⟨fun heq => hnot ⟨rfl, heq.symm⟩, hgranted⟩
    · cases hchange

end Reflects

end Gatekeeper

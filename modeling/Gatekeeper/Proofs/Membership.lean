import Gatekeeper.Proofs.Workspace

/-!
# `Gatekeeper.Proofs.Membership`: what every workspace keeps

`w.carryOut change` changes a workspace in place, step by step, and gives
the answer. A removal erases the user from the members before it is known
whether the user was one. What a change can come to is told once
(`Outcome`), and all else is read from it. `carryOut_eq` shows that
nothing is left of a change that is rejected: the workspace is then as it
was.

`Workspace.Sound` is the invariant: the owner is a member, so is everybody
who is in the permission table, and the table has no user without roles
and no role without resources (`PermissionTable.Sparse`). The members and
the table are changed apart from each other, so a step has one case for
each change (`Sound.carryOut`). A new workspace is sound, and from this
every workspace is (`Sound.after`). `sound_after` is the main result.

`scoped_grant_exact` is about one change, whatever the workspace is. A
grant over a list of resources makes no difference to what is not in the
list. The list must not have the wildcard: with it, the grant is one over
everything.
-/

set_option autoImplicit false

namespace Gatekeeper

namespace PermissionTable

/-- The table has no user without roles and no role without resources. -/
structure Sparse (table : PermissionTable) : Prop where
  roles : ∀ user roles, table.get? user = some roles → roles.isEmpty = false
  resources : ∀ user roles role resources, table.get? user = some roles →
    roles.get? role = some resources → resources.isEmpty = false

theorem sparse_empty : Sparse .empty := by
  constructor
  · intro user roles hroles
    cases hroles
  · intro user roles role resources hroles
    cases hroles

namespace Sparse

variable {table : PermissionTable}

/-- A user may get other roles, if they are some and have resources. -/
theorem insert (h : table.Sparse) {user : String} {roles : RoleGrants}
    (hroles : roles.isEmpty = false)
    (hresources : ∀ role resources, roles.get? role = some resources → resources.isEmpty = false) :
    Sparse (SortedMap.insert table user roles) := by
  constructor
  · intro other otherRoles hother
    by_cases heq : other = user
    · subst heq
      rw [SortedMap.get?_insert_self] at hother
      cases hother
      exact hroles
    · rw [SortedMap.get?_insert_of_ne _ _ heq] at hother
      exact h.roles other otherRoles hother
  · intro other otherRoles role resources hother hrole
    by_cases heq : other = user
    · subst heq
      rw [SortedMap.get?_insert_self] at hother
      cases hother
      exact hresources role resources hrole
    · rw [SortedMap.get?_insert_of_ne _ _ heq] at hother
      exact h.resources other otherRoles role resources hother hrole

/-- A user may lose the entry. -/
theorem erase (h : table.Sparse) (user : String) : Sparse (SortedMap.erase table user) := by
  have hkept : ∀ {other : String} {roles : RoleGrants},
      (SortedMap.erase table user).get? other = some roles → table.get? other = some roles := by
    intro other roles hother
    by_cases heq : other = user
    · rw [heq, SortedMap.get?_erase_self] at hother
      cases hother
    · rwa [SortedMap.get?_erase_of_ne _ heq] at hother
  constructor
  · intro other roles hother
    exact h.roles other roles (hkept hother)
  · intro other roles role resources hother hrole
    exact h.resources other roles role resources (hkept hother) hrole

/-- A grant puts a resource into the role and the role into the user's
entry, so neither is empty. -/
theorem grant (h : table.Sparse) (user : String) (role : Role) (resource : String) :
    (table.grant user role resource).Sparse := by
  refine h.insert (SortedMap.isEmpty_eq_false_iff.2 ⟨role, _, SortedMap.get?_insert_self _ _ _⟩) ?_
  intro otherRole resources hrole
  by_cases heq : otherRole = role
  · subst heq
    rw [SortedMap.get?_insert_self] at hrole
    cases hrole
    exact SortedMap.isEmpty_eq_false_iff.2 ⟨resource, (), SortedMap.get?_insert_self _ _ _⟩
  · rw [SortedMap.get?_insert_of_ne _ _ heq] at hrole
    cases hroles : table.get? user with
    | none =>
      rw [hroles] at hrole
      cases hrole
    | some roles =>
      rw [hroles] at hrole
      exact h.resources user roles otherRole resources hroles hrole

theorem grantScope (h : table.Sparse) (user : String) (role : Role) (scope : ResourceScope) :
    (Workspace.grantScope table user role scope).Sparse := by
  cases scope with
  | all => exact h.grant user role wildcard
  | only resources =>
    show (resources.foldl (fun table r => table.grant user role r) table).Sparse
    induction resources generalizing table with
    | nil => exact h
    | cons r resources ih => exact ih (h.grant user role r)

theorem foldl_grant (h : table.Sparse) (user resource : String) (roles : List Role) :
    Sparse (roles.foldl (fun table role => PermissionTable.grant table user role resource)
      table) := by
  induction roles generalizing table with
  | nil => exact h
  | cons role roles ih => exact ih (h.grant user role resource)

/-- A revocation keeps what the other roles cover, and drops the user when
no role is left. -/
theorem revoke (h : table.Sparse) (user : String) (role : Role) :
    (table.revoke user role).2.Sparse := by
  unfold PermissionTable.revoke
  split
  · exact h
  next roles hroles =>
    show Sparse (if (roles.erase role).isEmpty = true then _ else _)
    split
    · exact h.erase user
    next hsome =>
      refine h.insert (Bool.eq_false_iff.2 hsome) ?_
      intro otherRole resources hrole
      by_cases heq : otherRole = role
      · rw [heq, SortedMap.get?_erase_self] at hrole
        cases hrole
      · rw [SortedMap.get?_erase_of_ne _ heq] at hrole
        exact h.resources user roles otherRole resources hroles hrole

/-- The roles of a user are those that cover something for the user. -/
theorem contains_role_iff (h : table.Sparse) {user : String} {role : Role} {roles : RoleGrants}
    (hroles : table.get? user = some roles) :
    roles.contains role = true ↔ ∃ resource, table.Covers user role resource := by
  constructor
  · intro hcontains
    obtain ⟨resources, hrole⟩ := Option.isSome_iff_exists.1 hcontains
    obtain ⟨resource, mark, hresource⟩ :=
      SortedMap.isEmpty_eq_false_iff.1 (h.resources user roles role resources hroles hrole)
    refine ⟨resource, (covers_of_get? hroles).2 ?_⟩
    rw [hrole, Option.getD_some]
    exact Option.isSome_iff_exists.2 ⟨mark, hresource⟩
  · rintro ⟨resource, hcovers⟩
    rw [covers_of_get? hroles] at hcovers
    cases hrole : roles.get? role with
    | none =>
      rw [hrole] at hcovers
      cases hcovers
    | some resources => exact Option.isSome_iff_exists.2 ⟨resources, hrole⟩

/-- The users with an entry are those that hold some role over something. -/
theorem contains_iff (h : table.Sparse) (user : String) :
    table.contains user = true ↔ ∃ role resource, table.Covers user role resource := by
  constructor
  · intro hcontains
    obtain ⟨roles, hroles⟩ := Option.isSome_iff_exists.1 hcontains
    obtain ⟨role, resources, hrole⟩ := SortedMap.isEmpty_eq_false_iff.1 (h.roles user roles hroles)
    refine ⟨role, (h.contains_role_iff hroles).1 ?_⟩
    exact Option.isSome_iff_exists.2 ⟨resources, hrole⟩
  · rintro ⟨role, resource, hcovers⟩
    cases hroles : table.get? user with
    | none => exact absurd hcovers (not_covers_of_get? hroles)
    | some roles => exact Option.isSome_iff_exists.2 ⟨roles, hroles⟩

/-- A revocation answers whether the user held the role. -/
theorem revoke_fst_iff (h : table.Sparse) (user : String) (role : Role) :
    (table.revoke user role).1 = true ↔ ∃ resource, table.Covers user role resource := by
  unfold PermissionTable.revoke
  split
  next hnone =>
    constructor
    · intro hfalse
      cases hfalse
    · rintro ⟨resource, hcovers⟩
      exact absurd hcovers (not_covers_of_get? hnone)
  next roles hroles => exact h.contains_role_iff hroles

end Sparse

variable {table table' : PermissionTable} {user : String}

/-- Both questions about a user are answered from the entry of the user. -/
theorem holds_congr (h : table'.get? user = table.get? user) (roles : List Role) :
    table'.holdsEverywhere user roles = table.holdsEverywhere user roles ∧
      ∀ resource, table'.holdsOver user roles resource = table.holdsOver user roles resource := by
  unfold holdsEverywhere holdsOver covered
  rw [h]
  exact ⟨rfl, fun _ => rfl⟩

theorem holdsEverywhere_congr
    (h : ∀ role, table'.Covers user role wildcard ↔ table.Covers user role wildcard)
    (roles : List Role) : table'.holdsEverywhere user roles = table.holdsEverywhere user roles := by
  unfold holdsEverywhere
  congr 1
  funext role
  exact Bool.eq_iff_iff.2 (h role)

theorem holdsOver_congr {resource : String}
    (h : ∀ role, table'.Covers user role wildcard ∨ table'.Covers user role resource ↔
      table.Covers user role wildcard ∨ table.Covers user role resource)
    (roles : List Role) :
    table'.holdsOver user roles resource = table.holdsOver user roles resource := by
  unfold holdsOver
  congr 2
  funext role
  rw [Bool.eq_iff_iff, Bool.or_eq_true, Bool.or_eq_true]
  exact h role

end PermissionTable

namespace Workspace

/-! ### A change in place -/

namespace Change

/-- The user whom a change is about. -/
def user : Change → String
  | addMember user _ _ | grant user _ _ | revoke user _ | removeMember user => user

/-- Whether the change can be made for a member only. -/
def isOfMember : Change → Bool
  | addMember .. => false
  | grant .. | revoke .. | removeMember _ => true

end Change

/-- The workspace after a change, with the answer, or why the change is
rejected. Only a revocation has an answer. -/
def edit (w : Workspace) : Change → Except WorkspaceError (Option Bool × Workspace)
  | .addMember user role scope => .ok (none, w.addMember user role scope)
  | .grant user role scope => (w.grant user role scope).map (none, ·)
  | .revoke user role => (w.revoke user role).map fun (held, after) => (some held, after)
  | .removeMember user => (w.removeMember user).map (none, ·)

/-- What a change makes of the workspace, with the answer. The workspace is
written to on the way, so it is given back with an error too. -/
def carryOut (w : Workspace) : Change → Except WorkspaceError (Option Bool) × Workspace
  | .addMember user role scope =>
    let added := { w with members := SortedSet.insert w.members user }
    (.ok none, { added with permissions := grantScope added.permissions user role scope })
  | .grant user role scope =>
    if w.isMember user then
      (.ok none, { w with permissions := grantScope w.permissions user role scope })
    else (.error (.notMember user), w)
  | .revoke user role =>
    if w.isMember user then
      let (held, table) := PermissionTable.revoke w.permissions user role
      (.ok (some held), { w with permissions := table })
    else (.error (.notMember user), w)
  | .removeMember user =>
    if user = w.ownerId then (.error .ownerRemoval, w)
    else
      -- The user is erased first, and whether there was one is told afterwards.
      let erased := { w with members := SortedMap.erase w.members user }
      if w.isMember user then
        (.ok none, { erased with permissions := (erased.permissions.removeUser user).2 })
      else (.error (.notMember user), erased)

/-- The workspace after changes, the first of them first. -/
def after (w : Workspace) (changes : List Change) : Workspace :=
  changes.foldl (fun w change => (w.carryOut change).2) w

/-- Nothing is erased with a key that is not there. -/
theorem erase_of_not_isMember {w : Workspace} {user : String} (h : ¬ w.isMember user = true) :
    SortedMap.erase w.members user = w.members := by
  apply SortedMap.ext
  intro other
  by_cases heq : other = user
  · rw [heq, SortedMap.get?_erase_self]
    exact (Option.not_isSome_iff_eq_none.1 h).symm
  · exact SortedMap.get?_erase_of_ne _ heq

/-- What a change can come to. -/
inductive Outcome (w : Workspace) : Change → Except WorkspaceError (Option Bool) × Workspace → Prop
  | added (user : String) (role : Role) (scope : ResourceScope) :
    w.Outcome (.addMember user role scope) (.ok none, w.addMember user role scope)
  | granted {user : String} (role : Role) (scope : ResourceScope)
    (hmember : w.isMember user = true) :
    w.Outcome (.grant user role scope)
      (.ok none, { w with permissions := grantScope w.permissions user role scope })
  | revoked {user : String} (role : Role) (hmember : w.isMember user = true) :
    w.Outcome (.revoke user role)
      (.ok (some (w.permissions.revoke user role).1),
        { w with permissions := (w.permissions.revoke user role).2 })
  | removed {user : String} (howner : user ≠ w.ownerId) (hmember : w.isMember user = true) :
    w.Outcome (.removeMember user)
      (.ok none, { w with
        members := SortedMap.erase w.members user
        permissions := (w.permissions.removeUser user).2 })
  | ownerKept : w.Outcome (.removeMember w.ownerId) (.error .ownerRemoval, w)
  | stranger {change : Change} (hof : change.isOfMember = true)
    (howner : change ≠ .removeMember w.ownerId) (hmember : ¬ w.isMember change.user = true) :
    w.Outcome change (.error (.notMember change.user), w)

/-- Every change comes to one of these. -/
theorem outcome (w : Workspace) (change : Change) : w.Outcome change (w.carryOut change) := by
  cases change with
  | addMember user role scope => exact .added user role scope
  | grant user role scope =>
    unfold carryOut
    dsimp only
    split
    next hmember => exact .granted role scope hmember
    next hmember => exact .stranger rfl (fun heq => nomatch heq) hmember
  | revoke user role =>
    unfold carryOut
    dsimp only
    split
    next hmember => exact .revoked role hmember
    next hmember => exact .stranger rfl (fun heq => nomatch heq) hmember
  | removeMember user =>
    unfold carryOut
    dsimp only
    split
    next howner => exact howner ▸ .ownerKept
    next howner =>
      split
      next hmember => exact .removed howner hmember
      next hmember =>
        rw [erase_of_not_isMember hmember]
        refine .stranger rfl ?_ hmember
        intro heq
        cases heq
        exact howner rfl

/-- A change in place does what the change does, and a change that is
rejected leaves the workspace as it was. -/
theorem carryOut_eq (w : Workspace) (change : Change) :
    w.carryOut change =
      match w.edit change with
      | .ok (answer, after) => (.ok answer, after)
      | .error e => (.error e, w) := by
  have h := w.outcome change
  generalize w.carryOut change = out at h
  cases h with
  | added => rfl
  | granted role scope hmember => simp [edit, grant, hmember, Except.map]
  | revoked role hmember => simp [edit, revoke, hmember, Except.map]
  | removed howner hmember => simp [edit, removeMember, howner, hmember, Except.map]
  | ownerKept => simp [edit, removeMember, Except.map]
  | stranger hof howner hmember =>
    cases change with
    | addMember => cases hof
    | grant user role scope =>
      have hnot : ¬ w.isMember user = true := hmember
      simp [edit, grant, hnot, Except.map, Change.user]
    | revoke user role =>
      have hnot : ¬ w.isMember user = true := hmember
      simp [edit, revoke, hnot, Except.map, Change.user]
    | removeMember user =>
      have hnot : ¬ w.isMember user = true := hmember
      have hother : user ≠ w.ownerId := fun heq => howner (congrArg Change.removeMember heq)
      simp [edit, removeMember, hother, hnot, Except.map, Change.user]

/-! ### Other users -/

/-- A change leaves it as it was whether other users are members. -/
theorem isMember_carryOut_of_ne (w : Workspace) {change : Change} {other : String}
    (hne : other ≠ change.user) :
    (w.carryOut change).2.isMember other = w.isMember other := by
  have h := w.outcome change
  generalize w.carryOut change = out at h
  cases h with
  | added user =>
    exact congrArg Option.isSome (SortedMap.get?_insert_of_ne w.members () hne)
  | removed => exact congrArg Option.isSome (SortedMap.get?_erase_of_ne w.members hne)
  | granted | revoked | ownerKept | stranger => rfl

/-- A change leaves the permissions of other users as they were. -/
theorem get?_carryOut_of_ne (w : Workspace) {change : Change} {other : String}
    (hne : other ≠ change.user) :
    (w.carryOut change).2.permissions.get? other = w.permissions.get? other := by
  have h := w.outcome change
  generalize w.carryOut change = out at h
  cases h with
  | added _ role scope | granted role scope =>
    exact PermissionTable.get?_grantScope_of_ne hne role scope
  | revoked role => exact PermissionTable.get?_revoke_of_ne hne role
  | removed => exact PermissionTable.get?_removeUser_of_ne hne
  | ownerKept | stranger => rfl

/-- The removal of the owner is rejected as such, and nothing else is. -/
theorem rejects_ownerRemoval_iff (w : Workspace) (change : Change) :
    (w.carryOut change).1 = .error .ownerRemoval ↔ change = .removeMember w.ownerId := by
  have houtcome := w.outcome change
  generalize w.carryOut change = out at houtcome
  cases houtcome with
  | added | granted | revoked => simp
  | removed howner | stranger _ howner => simpa using howner
  | ownerKept => simp

/-- Nothing is left of a change that is rejected. -/
theorem carryOut_of_error {w : Workspace} {change : Change} {e : WorkspaceError}
    (h : (w.carryOut change).1 = .error e) : (w.carryOut change).2 = w := by
  have houtcome := w.outcome change
  generalize w.carryOut change = out at h houtcome
  cases houtcome with
  | added | granted | revoked | removed => cases h
  | ownerKept | stranger => rfl

/-! ### The invariant -/

/-- The owner is a member, whoever has permissions is a member, and the
permissions have no empty part. -/
structure Sound (w : Workspace) : Prop where
  owner : w.isMember w.ownerId = true
  members : ∀ user, w.permissions.contains user = true → w.isMember user = true
  sparse : w.permissions.Sparse

theorem sound_create (id name owner : String) (single : Bool) (now : Instant) :
    (create id name owner single now).Sound := by
  have howner : (create id name owner single now).isMember owner = true :=
    SortedSet.contains_insert_iff.2 (.inl rfl)
  refine ⟨howner, ?_, PermissionTable.sparse_empty.foldl_grant owner wildcard Role.all⟩
  intro user hcontains
  by_cases heq : user = owner
  · exact heq ▸ howner
  · -- Another user is not granted anything.
    obtain ⟨roles, hroles⟩ := Option.isSome_iff_exists.1 hcontains
    have hnone : (create id name owner single now).permissions.get? user = none :=
      PermissionTable.get?_foldl_grant_of_ne heq wildcard Role.all
    rw [hnone] at hroles
    cases hroles

namespace Sound

variable {w : Workspace}

/-- A sound workspace stays sound under every change. -/
theorem carryOut (h : w.Sound) (change : Change) : (w.carryOut change).2.Sound := by
  -- Others have what they had, so only the user of the change is to be looked at.
  have hmembers : ((w.carryOut change).2.permissions.contains change.user = true →
        (w.carryOut change).2.isMember change.user = true) →
      ∀ other, (w.carryOut change).2.permissions.contains other = true →
        (w.carryOut change).2.isMember other = true := by
    intro huser other hcontains
    by_cases heq : other = change.user
    · rw [heq] at hcontains ⊢
      exact huser hcontains
    · rw [isMember_carryOut_of_ne w heq]
      apply h.members
      unfold SortedMap.contains at hcontains ⊢
      rwa [get?_carryOut_of_ne w heq] at hcontains
  have houtcome := w.outcome change
  generalize w.carryOut change = out at houtcome hmembers
  cases houtcome with
  | added user role scope =>
    refine ⟨SortedSet.contains_insert_iff.2 (.inr h.owner), hmembers ?_,
      h.sparse.grantScope user role scope⟩
    intro _
    exact SortedSet.contains_insert_iff.2 (.inl rfl)
  | @granted user role scope hmember =>
    exact ⟨h.owner, hmembers fun _ => hmember, h.sparse.grantScope user role scope⟩
  | @revoked user role hmember =>
    exact ⟨h.owner, hmembers fun _ => hmember, h.sparse.revoke user role⟩
  | @removed user howner hmember =>
    refine ⟨SortedSet.contains_erase_iff.2 ⟨howner.symm, h.owner⟩, hmembers ?_,
      h.sparse.erase user⟩
    intro hcontains
    -- The removed user has no entry any more.
    obtain ⟨roles, hroles⟩ := Option.isSome_iff_exists.1 hcontains
    have hnone : SortedMap.get? (w.permissions.removeUser user).2 user = none :=
      SortedMap.get?_erase_self _ _
    change SortedMap.get? (w.permissions.removeUser user).2 user = _ at hroles
    rw [hnone] at hroles
    cases hroles
  | ownerKept | stranger => exact h

/-- A sound workspace stays sound under changes, however many. -/
theorem after (h : w.Sound) (changes : List Change) : (w.after changes).Sound := by
  induction changes generalizing w with
  | nil => exact h
  | cons change changes ih => exact ih (h.carryOut change)

/-! ### What is answered -/

/-- A change is rejected for a missing membership if and only if it is made
for members and its user is none. -/
theorem rejects_notMember_iff (h : w.Sound) (change : Change) (user : String) :
    (w.carryOut change).1 = .error (.notMember user) ↔
      change.isOfMember = true ∧ change.user = user ∧ w.isMember user = false := by
  have houtcome := w.outcome change
  generalize w.carryOut change = out at houtcome
  cases houtcome with
  | added => simp [Change.isOfMember]
  | granted _ _ hmember | revoked _ hmember | removed _ hmember =>
    simp only [reduceCtorEq, false_iff]
    rintro ⟨-, rfl, hnot⟩
    exact absurd hmember (Bool.eq_false_iff.1 hnot)
  | ownerKept =>
    -- The owner is a member, so one error is never in place of the other.
    simp only [Except.error.injEq, reduceCtorEq, false_iff]
    rintro ⟨-, rfl, hnot⟩
    exact absurd h.owner (Bool.eq_false_iff.1 hnot)
  | stranger hof howner hmember =>
    simp only [Except.error.injEq, WorkspaceError.notMember.injEq]
    constructor
    · rintro rfl
      exact ⟨hof, rfl, Bool.eq_false_iff.2 hmember⟩
    · rintro ⟨-, rfl, -⟩
      rfl

/-- A revocation tells of a member whether the role was held. -/
theorem answer_revoke (h : w.Sound) {user : String} (role : Role)
    (hmember : w.isMember user = true) :
    ∃ held, (w.carryOut (.revoke user role)).1 = .ok (some held) ∧
      (held = true ↔ ∃ resource, w.permissions.Covers user role resource) := by
  refine ⟨(w.permissions.revoke user role).1, ?_, h.sparse.revoke_fst_iff user role⟩
  simp [Workspace.carryOut, hmember]

end Sound

/-- What is fixed when a workspace is created. -/
def origin (w : Workspace) : String × String × String × Bool × Timestamp :=
  (w.id, w.name, w.ownerId, w.single, w.createdAt)

theorem origin_carryOut (w : Workspace) (change : Change) :
    (w.carryOut change).2.origin = w.origin := by
  have houtcome := w.outcome change
  generalize w.carryOut change = out at houtcome
  cases houtcome with
  | added | granted | revoked | removed | ownerKept | stranger => rfl

theorem origin_after (w : Workspace) (changes : List Change) :
    (w.after changes).origin = w.origin := by
  induction changes generalizing w with
  | nil => rfl
  | cons change changes ih => exact (ih (w.carryOut change).2).trans (origin_carryOut w change)

/-- What holds of a workspace after any changes since it was created, and
what a further change does to it. -/
theorem sound_after (id name owner : String) (single : Bool) (now : Instant)
    (changes : List Change) :
    let w := (create id name owner single now).after changes
    -- The owner is a member, and so is everybody with permissions.
    w.isMember owner = true ∧
    (∀ user, w.permissions.contains user = true → w.isMember user = true) ∧
    -- The table has no empty part, so whoever is in it holds some role over something.
    (∀ user roles, w.permissions.get? user = some roles →
      roles.isEmpty = false ∧
        ∀ role resources, roles.get? role = some resources → resources.isEmpty = false) ∧
    (∀ user, w.permissions.contains user = true ↔
      ∃ role resource, w.permissions.Covers user role resource) ∧
    -- All else is as it was created.
    (w.id, w.name, w.ownerId, w.single, w.createdAt) =
      (id, name, owner, single, Timestamp.ofInstant now) ∧
    ∀ change,
      -- In place or not, a change does the same.
      (w.carryOut change =
        match w.edit change with
        | .ok (answer, after) => (.ok answer, after)
        | .error e => (.error e, w)) ∧
      -- Why a change is rejected, and that nothing is left of it.
      (∀ user, (w.carryOut change).1 = .error (.notMember user) ↔
        change.isOfMember = true ∧ change.user = user ∧ w.isMember user = false) ∧
      ((w.carryOut change).1 = .error .ownerRemoval ↔ change = .removeMember owner) ∧
      (∀ e, (w.carryOut change).1 = .error e → (w.carryOut change).2 = w) ∧
      -- A revocation tells whether the member held the role.
      (∀ user role, change = .revoke user role → w.isMember user = true →
        ∃ held, (w.carryOut change).1 = .ok (some held) ∧
          (held = true ↔ ∃ resource, w.permissions.Covers user role resource)) ∧
      -- Other users keep what they have.
      ∀ other, other ≠ change.user →
        (w.carryOut change).2.isMember other = w.isMember other ∧
        (w.carryOut change).2.permissions.get? other = w.permissions.get? other := by
  intro w
  have horigin : w.origin = (create id name owner single now).origin :=
    origin_after (create id name owner single now) changes
  have howner : w.ownerId = owner := congrArg (·.2.2.1) horigin
  have hsound : w.Sound := (sound_create id name owner single now).after changes
  refine ⟨howner ▸ hsound.owner, hsound.members, ?_, hsound.sparse.contains_iff, horigin, ?_⟩
  · intro user roles hroles
    refine ⟨hsound.sparse.roles user roles hroles, ?_⟩
    intro role resources hrole
    exact hsound.sparse.resources user roles role resources hroles hrole
  · intro change
    refine ⟨w.carryOut_eq change, hsound.rejects_notMember_iff change, ?_,
      fun e => carryOut_of_error, ?_, ?_⟩
    · rw [rejects_ownerRemoval_iff, howner]
    · rintro user role rfl hmember
      exact hsound.answer_revoke role hmember
    · intro other hne
      exact ⟨isMember_carryOut_of_ne w hne, get?_carryOut_of_ne w hne⟩

/-! ### Grants over a list -/

section
variable {w after : Workspace} {user : String} {role : Role} {scope : ResourceScope}
  {resources : List String}

/-- A role over a list without the wildcard gives nothing outside the
list. -/
theorem holds_grantScope_only (table : PermissionTable) (user : String) (role : Role)
    (hwildcard : wildcard ∉ resources) (roles : List Role) :
    let granted := grantScope table user role (.only resources)
    granted.holdsEverywhere user roles = table.holdsEverywhere user roles ∧
      ∀ resource, resource ∉ resources →
        granted.holdsOver user roles resource = table.holdsOver user roles resource := by
  intro granted
  -- What is not in the list is covered as before.
  have hcovers : ∀ resource, resource ∉ resources → ∀ otherRole,
      granted.Covers user otherRole resource ↔ table.Covers user otherRole resource := by
    intro resource hresource otherRole
    rw [PermissionTable.covers_grantScope]
    exact or_iff_right fun hlisted => hresource hlisted.2.2
  refine ⟨PermissionTable.holdsEverywhere_congr (hcovers wildcard hwildcard) roles, ?_⟩
  intro resource hresource
  refine PermissionTable.holdsOver_congr ?_ roles
  intro otherRole
  exact or_congr (hcovers wildcard hwildcard otherRole) (hcovers resource hresource otherRole)

/-- A role over a list with the wildcard is as good as the role over
everything. -/
theorem holds_grantScope_wildcard (table : PermissionTable) (user : String) (role : Role)
    (hwildcard : wildcard ∈ resources) (roles : List Role) :
    let granted := grantScope table user role (.only resources)
    let whole := grantScope table user role .all
    granted.holdsEverywhere user roles = whole.holdsEverywhere user roles ∧
      ∀ resource, granted.holdsOver user roles resource = whole.holdsOver user roles resource := by
  intro granted whole
  have hcovers : ∀ otherRole,
      granted.Covers user otherRole wildcard ↔ whole.Covers user otherRole wildcard := by
    intro otherRole
    rw [PermissionTable.covers_grantScope, PermissionTable.covers_grantScope]
    simp [ResourceScope.Lists, hwildcard]
  refine ⟨PermissionTable.holdsEverywhere_congr hcovers roles, ?_⟩
  intro resource
  refine PermissionTable.holdsOver_congr ?_ roles
  intro otherRole
  by_cases hrole : otherRole = role
  · -- The role that is granted is held over everything in both tables.
    have hall : whole.Covers user otherRole wildcard :=
      PermissionTable.covers_grantScope.2 (.inl ⟨rfl, hrole, rfl⟩)
    exact iff_of_true (.inl ((hcovers otherRole).2 hall)) (.inl hall)
  · refine or_congr (hcovers otherRole) ?_
    rw [PermissionTable.covers_grantScope, PermissionTable.covers_grantScope]
    simp [hrole]

/-- A new member is granted a role in the same way as a member is. -/
theorem permissions_of_granted
    (h : after = w.addMember user role scope ∨ w.grant user role scope = .ok after) :
    after.permissions = grantScope w.permissions user role scope := by
  rcases h with rfl | hgrant
  · rfl
  · unfold grant at hgrant
    split at hgrant
    · cases hgrant
      rfl
    · cases hgrant

/-- What a role that is granted over a list of resources leaves as it was. -/
theorem scoped_grant_exact (h : after = w.addMember user role (.only resources) ∨
      w.grant user role (.only resources) = .ok after) :
    let before := w.permissions
    let whole := grantScope before user role .all
    -- Other users keep what they have.
    (∀ other, other ≠ user → after.permissions.get? other = before.get? other ∧ ∀ roles,
      after.permissions.holdsEverywhere other roles = before.holdsEverywhere other roles ∧
      ∀ resource, after.permissions.holdsOver other roles resource =
        before.holdsOver other roles resource) ∧
    -- The user gets nothing that is not in the list.
    (wildcard ∉ resources → ∀ roles,
      after.permissions.holdsEverywhere user roles = before.holdsEverywhere user roles ∧
      ∀ resource, resource ∉ resources → after.permissions.holdsOver user roles resource =
        before.holdsOver user roles resource) ∧
    -- A list with the wildcard is as good as everything.
    (wildcard ∈ resources → ∀ roles,
      after.permissions.holdsEverywhere user roles = whole.holdsEverywhere user roles ∧
      ∀ resource, after.permissions.holdsOver user roles resource =
        whole.holdsOver user roles resource) := by
  intro before whole
  rw [permissions_of_granted h]
  refine ⟨?_, holds_grantScope_only before user role, holds_grantScope_wildcard before user role⟩
  intro other hne
  have hget : (grantScope before user role (.only resources)).get? other = before.get? other :=
    PermissionTable.get?_grantScope_of_ne hne role _
  exact ⟨hget, PermissionTable.holds_congr hget⟩

end

/-- Bob, a member with another role, is granted a role over one vault, and
holds it over that vault only. -/
theorem scoped_grant_exact_of_bob :
    let w := (create "w" "Main" "ann" true .epoch).addMember "bob" .signer (.only ["r"])
    ∃ after, w.grant "bob" .viewer (.only ["s"]) = .ok after ∧
      after.permissions.holdsOver "bob" [.viewer] "s" = true ∧
      after.permissions.holdsOver "bob" [.viewer] "r" =
        w.permissions.holdsOver "bob" [.viewer] "r" ∧
      after.permissions.holdsEverywhere "bob" [.viewer] =
        w.permissions.holdsEverywhere "bob" [.viewer] := by
  intro w
  have hgrant : w.grant "bob" .viewer (.only ["s"]) =
      .ok { w with permissions := grantScope w.permissions "bob" .viewer (.only ["s"]) } :=
    if_pos (by decide +kernel)
  obtain ⟨-, hlisted, -⟩ := scoped_grant_exact (.inr hgrant)
  obtain ⟨heverywhere, hover⟩ := hlisted (by decide) [.viewer]
  exact ⟨_, hgrant, by decide +kernel, hover "r" (by decide), heverywhere⟩

/-- Bob is granted a role over a list that has the wildcard. Bob did not
hold the role over everything before, and does now. -/
theorem scoped_grant_everywhere :
    let w := create "w" "Main" "ann" true .epoch
    let after := w.addMember "bob" .viewer (.only ["*"])
    w.permissions.holdsEverywhere "bob" [.viewer] = false ∧
      after.permissions.holdsEverywhere "bob" [.viewer] = true := by
  decide +kernel

end Workspace

end Gatekeeper

import Gatekeeper.Proofs.Table
import Gatekeeper.Workspace

/-!
# `Gatekeeper.Proofs.Permission`: what a permission table covers

`table.Covers user role resource` is all that a table says. Each change of
a table is told by what it covers afterwards: a grant adds the resources
of its scope (`covers_grantScope`), a revocation takes one role of a user
(`covers_revoke`), a removal takes all of them (`covers_removeUser`). That
a table has no entry for a user without roles makes no difference to it.
-/

set_option autoImplicit false

namespace Gatekeeper

/-- The scope lists a resource, or stands for every one by the wildcard. -/
def ResourceScope.Lists (resource : String) : ResourceScope → Prop
  | all => resource = wildcard
  | only resources => resource ∈ resources

/-- The scope covers a resource. -/
def ResourceScope.Covers (resource : String) : ResourceScope → Prop
  | all => True
  | only resources => resource ∈ resources ∨ wildcard ∈ resources

/-- The scope covers every resource. -/
def ResourceScope.CoversAll : ResourceScope → Prop
  | all => True
  | only resources => wildcard ∈ resources

theorem ResourceScope.coversAll_iff (scope : ResourceScope) :
    scope.CoversAll ↔ scope.Lists wildcard := by
  cases scope with
  | all => exact ⟨fun _ => rfl, fun _ => trivial⟩
  | only => exact Iff.rfl

theorem ResourceScope.covers_iff (scope : ResourceScope) (resource : String) :
    scope.Covers resource ↔ scope.Lists wildcard ∨ scope.Lists resource := by
  cases scope with
  | all => exact ⟨fun _ => .inl rfl, fun _ => trivial⟩
  | only => exact Or.comm

/-- A set has one element more after an insertion. -/
theorem SortedSet.contains_insert_iff {s : SortedSet String} {x y : String} :
    (s.insert x).contains y = true ↔ y = x ∨ s.contains y = true := by
  rw [contains_insert, Bool.or_eq_true, beq_iff_eq, Std.compare_eq_iff_eq]

/-- A set has one element less after it is erased. -/
theorem SortedSet.contains_erase_iff {s : SortedSet String} {x y : String} :
    (SortedMap.erase s x).contains y = true ↔ y ≠ x ∧ s.contains y = true := by
  unfold SortedMap.contains
  by_cases h : y = x
  · rw [h, SortedMap.get?_erase_self]
    exact ⟨(fun h => nomatch h), fun h => absurd rfl h.1⟩
  · rw [SortedMap.get?_erase_of_ne s h]
    exact ⟨fun hmem => ⟨h, hmem⟩, And.right⟩

namespace PermissionTable

/-- The table has a resource, or the wildcard, in a role of a user. -/
def Covers (table : PermissionTable) (user : String) (role : Role) (resource : String) : Prop :=
  (table.covered user role).contains resource = true

theorem not_covers_empty (user : String) (role : Role) (resource : String) :
    ¬ Covers .empty user role resource := Bool.false_ne_true

variable {table : PermissionTable} {user other : String} {role otherRole : Role}
  {resource otherResource : String}

/-- What a table covers for a user is read from the roles of the user. -/
theorem covers_of_get? {roles : RoleGrants} (h : table.get? user = some roles) :
    table.Covers user role resource ↔
      ((roles.get? role).getD .empty).contains resource = true := by
  unfold Covers covered
  rw [h]
  rfl

theorem not_covers_of_get? (h : table.get? user = none) : ¬ table.Covers user role resource := by
  unfold Covers covered
  rw [h]
  exact Bool.false_ne_true

/-- What a table covers depends on the roles of the user only. -/
theorem covers_congr {table' : PermissionTable} (h : table'.get? user = table.get? user) :
    table'.Covers user role resource ↔ table.Covers user role resource := by
  unfold Covers covered
  rw [h]

/-! ### Other users -/

theorem get?_grant_of_ne (h : user ≠ other) (role : Role) (resource : String) :
    (table.grant other role resource).get? user = table.get? user :=
  SortedMap.get?_insert_of_ne _ _ h

theorem get?_foldl_grant_of_ne (h : user ≠ other) (resource : String) (roles : List Role) :
    SortedMap.get? (roles.foldl (fun table role => grant table other role resource) table) user =
      table.get? user := by
  induction roles generalizing table with
  | nil => rfl
  | cons role roles ih => rw [List.foldl_cons, ih, get?_grant_of_ne h]

theorem get?_revoke_of_ne (h : user ≠ other) (role : Role) :
    (table.revoke other role).2.get? user = table.get? user := by
  unfold revoke
  split
  · rfl
  next roles _ =>
    show SortedMap.get? (if (roles.erase role).isEmpty = true then _ else _) user = _
    split
    · exact SortedMap.get?_erase_of_ne _ h
    · exact SortedMap.get?_insert_of_ne _ _ h

theorem get?_removeUser_of_ne (h : user ≠ other) :
    (table.removeUser other).2.get? user = table.get? user :=
  SortedMap.get?_erase_of_ne _ h

theorem get?_grantScope_of_ne (h : user ≠ other) (role : Role) (scope : ResourceScope) :
    (Workspace.grantScope table other role scope).get? user = table.get? user := by
  cases scope with
  | all => exact get?_grant_of_ne h role wildcard
  | only resources =>
    show (resources.foldl (fun table r => table.grant other role r) table).get? user = _
    induction resources generalizing table with
    | nil => rfl
    | cons r resources ih => rw [List.foldl_cons, ih, get?_grant_of_ne h]

/-! ### What changes cover -/

/-- A grant covers one resource more. -/
theorem covers_grant : (table.grant other otherRole otherResource).Covers user role resource ↔
    (user = other ∧ role = otherRole ∧ resource = otherResource) ∨
      table.Covers user role resource := by
  by_cases huser : user = other
  · subst huser
    have hget : (table.grant user otherRole otherResource).get? user =
        some (((table.get? user).getD .empty).insert otherRole
          (SortedSet.insert ((((table.get? user).getD .empty).get? otherRole).getD .empty)
            otherResource)) := SortedMap.get?_insert_self _ _ _
    rw [covers_of_get? hget]
    -- A user without an entry covers as much as one without roles.
    have hbefore : table.Covers user role resource ↔
        ((((table.get? user).getD .empty).get? role).getD .empty).contains resource = true := by
      cases hroles : table.get? user with
      | none => exact ⟨fun h => absurd h (not_covers_of_get? hroles), (fun h => nomatch h)⟩
      | some roles => exact covers_of_get? hroles
    by_cases hrole : role = otherRole
    · subst hrole
      rw [SortedMap.get?_insert_self, Option.getD_some, SortedSet.contains_insert, Bool.or_eq_true,
        beq_iff_eq, Std.compare_eq_iff_eq, hbefore]
      simp
    · rw [SortedMap.get?_insert_of_ne _ _ hrole, hbefore]
      simp [hrole]
  · rw [covers_congr (get?_grant_of_ne huser otherRole otherResource)]
    simp [huser]

/-- A revocation takes one role of a user. -/
theorem covers_revoke : (table.revoke other otherRole).2.Covers user role resource ↔
    ¬ (user = other ∧ role = otherRole) ∧ table.Covers user role resource := by
  by_cases huser : user = other
  case neg =>
    rw [covers_congr (get?_revoke_of_ne huser otherRole)]
    simp [huser]
  subst huser
  unfold revoke
  split
  next hnone =>
    refine ⟨fun h => ⟨?_, h⟩, And.right⟩
    rintro ⟨-, rfl⟩
    exact not_covers_of_get? hnone h
  next roles hroles =>
    show Covers (if (roles.erase otherRole).isEmpty = true then _ else _) user role resource ↔ _
    -- The roles that are kept cover what they covered, but for the one that is taken.
    have hkept : (((roles.erase otherRole).get? role).getD .empty).contains resource = true ↔
        ¬ (user = user ∧ role = otherRole) ∧ table.Covers user role resource := by
      rw [covers_of_get? hroles]
      by_cases hrole : role = otherRole
      · subst hrole
        rw [SortedMap.get?_erase_self]
        exact ⟨fun h => absurd h Bool.false_ne_true, fun h => absurd ⟨rfl, rfl⟩ h.1⟩
      · rw [SortedMap.get?_erase_of_ne _ hrole]
        simp [hrole]
    split
    next hempty =>
      rw [SortedMap.get?_of_isEmpty hempty] at hkept
      rw [← hkept]
      exact ⟨fun h => absurd h (not_covers_of_get? (SortedMap.get?_erase_self _ _)),
        fun h => absurd h Bool.false_ne_true⟩
    next =>
      rw [← hkept]
      exact covers_of_get? (SortedMap.get?_insert_self _ _ _)

/-- A removal takes every role of a user. -/
theorem covers_removeUser : (table.removeUser other).2.Covers user role resource ↔
    user ≠ other ∧ table.Covers user role resource := by
  by_cases huser : user = other
  · subst huser
    have hget : (table.removeUser user).2.get? user = none := SortedMap.get?_erase_self _ _
    exact ⟨fun h => absurd h (not_covers_of_get? hget), fun h => absurd rfl h.1⟩
  · rw [covers_congr (get?_removeUser_of_ne huser)]
    exact ⟨fun h => ⟨huser, h⟩, And.right⟩

/-- A grant over a scope covers what the scope lists. -/
theorem covers_grantScope {scope : ResourceScope} :
    (Workspace.grantScope table other role scope).Covers user otherRole resource ↔
      (user = other ∧ otherRole = role ∧ scope.Lists resource) ∨
        table.Covers user otherRole resource := by
  cases scope with
  | all => exact covers_grant
  | only resources =>
    show (resources.foldl (fun table r => table.grant other role r) table).Covers _ _ _ ↔
      (_ ∧ _ ∧ resource ∈ resources) ∨ _
    induction resources generalizing table with
    | nil => simp
    | cons r resources ih =>
      rw [List.foldl_cons, ih, covers_grant, List.mem_cons]
      constructor
      · rintro (⟨huser, hrole, hmem⟩ | ⟨huser, hrole, rfl⟩ | hold)
        · exact .inl ⟨huser, hrole, .inr hmem⟩
        · exact .inl ⟨huser, hrole, .inl rfl⟩
        · exact .inr hold
      · rintro (⟨huser, hrole, rfl | hmem⟩ | hold)
        · exact .inr (.inl ⟨huser, hrole, rfl⟩)
        · exact .inl ⟨huser, hrole, hmem⟩
        · exact .inr (.inr hold)

/-- Grants of several roles over a resource cover it in each of them. -/
theorem covers_foldl_grant {roles : List Role} :
    Covers (roles.foldl (fun table role => grant table other role otherResource) table) user role
      resource ↔
      (user = other ∧ role ∈ roles ∧ resource = otherResource) ∨
        table.Covers user role resource := by
  induction roles generalizing table with
  | nil => simp
  | cons r roles ih =>
    rw [List.foldl_cons, ih, covers_grant, List.mem_cons]
    constructor
    · rintro (⟨huser, hmem, hresource⟩ | ⟨huser, rfl, hresource⟩ | hold)
      · exact .inl ⟨huser, .inr hmem, hresource⟩
      · exact .inl ⟨huser, .inl rfl, hresource⟩
      · exact .inr hold
    · rintro (⟨huser, rfl | hmem, hresource⟩ | hold)
      · exact .inr (.inl ⟨huser, rfl, hresource⟩)
      · exact .inl ⟨huser, hmem, hresource⟩
      · exact .inr (.inr hold)

end PermissionTable

end Gatekeeper

import Gatekeeper.Proofs.Flow
import Gatekeeper.Proofs.Workspace
import Gatekeeper.Service

/-!
# `Gatekeeper.Proofs.Authorize`: authorization is what was granted

`Keeps` says that the tables of workspaces and vaults hold what the deeds
say. From it follows when the two checks pass (`Keeps.authorize_passes`,
`Keeps.authorizeWorkspace_passes`).

`History` is a server with the deeds done to it, and `History.next` lets
one more thing happen. A workspace is changed by one of its own
operations, and is stored again if the change was accepted. Everything
else the server does leaves workspaces and vaults alone.
`History.keeps_next` shows that every such step keeps the tables, so they
are kept after any history.

`authorized_iff_granted` is the main result.
-/

set_option autoImplicit false

namespace Gatekeeper

/-! ### Rows of workspaces -/

namespace Call

variable {workspace : String} {w : Workspace} {db : Database}

theorem findWorkspace_of_get?
    (hrow : db.workspaces.get? workspace = some (Workspace.form.encode w)) :
    db.findWorkspace workspace = .ok (some w) :=
  Table.find_of_get? hrow (Workspace.decode_encode w)

theorem run_isMember (hrow : db.workspaces.get? workspace = some (Workspace.form.encode w))
    (user : String) : (Call.isMember workspace user).run db = .ok (w.isMember user, db) := by
  simp only [Call.run]
  rw [findWorkspace_of_get? hrow]
  rfl

theorem run_isMember_none (hrow : db.workspaces.get? workspace = none) (user : String) :
    (Call.isMember workspace user).run db = .ok (false, db) := by
  have hfind : db.findWorkspace workspace = .ok none := Table.find_of_get?_none hrow
  simp only [Call.run]
  rw [hfind]
  rfl

theorem run_findPermissions (hrow : db.workspaces.get? workspace = some (Workspace.form.encode w)) :
    (Call.findPermissions workspace).run db = .ok (some w.permissions, db) := by
  simp only [Call.run]
  rw [findWorkspace_of_get? hrow]
  rfl

end Call

/-! ### What the deeds permit -/

/-- By the deeds, the user is a member of the workspace, and if any role
is asked for, holds one of them over a scope that is wanted. -/
def Permits (deeds : List Deed) (workspace user : String) (roles : List Role)
    (wanted : ResourceScope → Prop) : Prop :=
  (IsOwner workspace user deeds ∨ IsAdded workspace user deeds) ∧
    (roles = [] ∨ ∃ role ∈ roles, IsGranted workspace user role wanted deeds)

namespace Reflects

variable {deeds : List Deed} {workspace : String} {w : Workspace}

/-- A role over everything was granted over a scope that covers all. -/
theorem holdsEverywhere_iff (h : Reflects deeds workspace w) (user : String) (roles : List Role) :
    (roles.isEmpty || w.permissions.holdsEverywhere user roles) = true ↔
      roles = [] ∨ ∃ role ∈ roles, IsGranted workspace user role (·.CoversAll) deeds := by
  have hwanted : (fun scope : ResourceScope => scope.CoversAll) = (·.Lists wildcard) :=
    funext fun scope => propext scope.coversAll_iff
  rw [Bool.or_eq_true, List.isEmpty_iff, PermissionTable.holdsEverywhere, List.any_eq_true, hwanted]
  exact or_congr_right
    (exists_congr fun role => and_congr_right fun _ => h.grants user role wildcard)

/-- A role over a vault was granted over a scope that covers the vault. -/
theorem holdsOver_iff (h : Reflects deeds workspace w) (user : String) (roles : List Role)
    (resource : String) :
    w.permissions.holdsOver user roles resource = true ↔
      roles = [] ∨ ∃ role ∈ roles, IsGranted workspace user role (·.Covers resource) deeds := by
  have hwanted : (fun scope : ResourceScope => scope.Covers resource) =
      fun scope => scope.Lists wildcard ∨ scope.Lists resource :=
    funext fun scope => propext (scope.covers_iff resource)
  rw [PermissionTable.holdsOver, Bool.or_eq_true, List.isEmpty_iff, List.any_eq_true, hwanted]
  refine or_congr_right (exists_congr fun role => and_congr_right fun _ => ?_)
  rw [Bool.or_eq_true, isGranted_or]
  exact or_congr (h.grants user role wildcard) (h.grants user role resource)

end Reflects

/-! ### What the checks answer -/

/-- What is stored under the id of a workspace is what the deeds say of
it. -/
inductive Kept (deeds : List Deed) (workspace : String) (row : Option String) : Prop
  | absent (hrow : row = none)
      (hnobody : ∀ user, ¬ (IsOwner workspace user deeds ∨ IsAdded workspace user deeds))
  | present (w : Workspace) (hrow : row = some (Workspace.form.encode w))
      (hreflects : Reflects deeds workspace w)

/-- The tables of workspaces and vaults hold what the deeds say. -/
structure Keeps (deeds : List Deed) (db : Database) : Prop where
  workspaces : ∀ workspace, Kept deeds workspace (db.workspaces.get? workspace)
  vaults : ∀ resource, db.resources.get? resource = vault? resource deeds

namespace Keeps

open Service

variable {deeds : List Deed} {server : Server}

/-- The table of a workspace is given to its members and to nobody else. -/
theorem memberPermissions (h : Keeps deeds server.database) (identity : Identity)
    (workspace : String) :
    (∃ w, Reflects deeds workspace w ∧
      (IsOwner workspace identity.userId deeds ∨ IsAdded workspace identity.userId deeds) ∧
      (memberPermissions identity workspace).Answers server (.ok w.permissions)) ∨
    (¬ (IsOwner workspace identity.userId deeds ∨ IsAdded workspace identity.userId deeds) ∧
      (Service.memberPermissions identity workspace).Answers server
        (.error (.refused .missingPermission))) := by
  cases h.workspaces workspace with
  | absent hrow hnobody =>
    refine .inr ⟨hnobody identity.userId, ?_⟩
    exact .bind (.call (Call.run_isMember_none hrow _)) (.stop _)
  | present w hrow hreflects =>
    have hcall := Call.run_isMember hrow identity.userId
    rw [← hreflects.members identity.userId]
    cases hmember : w.isMember identity.userId with
    | true =>
      rw [hmember] at hcall
      refine .inl ⟨w, hreflects, rfl, ?_⟩
      exact .bind (.call hcall) (.bind (.call (Call.run_findPermissions hrow)) (.done _))
    | false =>
      rw [hmember] at hcall
      exact .inr ⟨Bool.false_ne_true, .bind (.call hcall) (.stop _)⟩

/-- A condition on the permission table of a workspace is checked. To pass
it takes a member. -/
theorem guarded (h : Keeps deeds server.database) (identity : Identity) (workspace : String)
    (check : PermissionTable → Bool) {permitted : Prop}
    (hcheck : ∀ w, Reflects deeds workspace w → (check w.permissions = true ↔ permitted)) :
    ((Service.memberPermissions identity workspace).bind fun table =>
      if check table = true then .done () else Flow.refuse .missingPermission).PassesIff
        ((IsOwner workspace identity.userId deeds ∨ IsAdded workspace identity.userId deeds) ∧
          permitted) server := by
  obtain ⟨w, hreflects, hmember, htable⟩ | ⟨hstranger, htable⟩ :=
    h.memberPermissions identity workspace
  · refine .bind htable (.guard ?_ _)
    rw [hcheck w hreflects]
    exact ⟨fun hpermitted => ⟨hmember, hpermitted⟩, And.right⟩
  · exact .of_stopped (.bind_stop htable) fun hboth => hstranger hboth.1

/-- The check against the own workspace passes if and only if the deeds
permit it. -/
theorem authorizeWorkspace_passes (h : Keeps deeds server.database) (identity : Identity)
    (roles : List Role) :
    (authorizeWorkspace identity roles).PassesIff
      (∃ workspace, identity.workspaceId = some workspace ∧
        Permits deeds workspace identity.userId roles (·.CoversAll)) server := by
  unfold authorizeWorkspace
  cases hbound : identity.workspaceId with
  | none =>
    refine .of_stopped (.bind_stop (.stop _)) ?_
    rintro ⟨_, heq, -⟩
    cases heq
  | some workspace =>
    simp only [Option.some.injEq, exists_eq_left']
    refine .bind (.done workspace) ?_
    exact h.guarded identity workspace
      (fun table => roles.isEmpty || table.holdsEverywhere identity.userId roles)
      fun w hreflects => hreflects.holdsEverywhere_iff identity.userId roles

/-- The check against a vault passes if and only if the vault belongs to
the own workspace and the deeds permit it. -/
theorem authorize_passes (h : Keeps deeds server.database) (identity : Identity)
    (roles : List Role) (resource : String) :
    (authorize identity roles resource).PassesIff
      (∃ workspace, vault? resource deeds = some workspace ∧
        identity.workspaceId = some workspace ∧
        Permits deeds workspace identity.userId roles (·.Covers resource)) server := by
  -- The first call already tells the workspace of the vault.
  have hvault : (Call.findResourceOwner resource).run server.database =
      .ok ((vault? resource deeds).map fun workspace => ⟨resource, workspace⟩,
        server.database) := by
    rw [← h.vaults resource]
    rfl
  unfold authorize
  refine .bind (.call hvault) ?_
  cases vault? resource deeds with
  | none =>
    refine .of_stopped (.bind_stop (.stop _)) ?_
    rintro ⟨_, heq, -⟩
    cases heq
  | some owner =>
    refine .bind (.done _) ?_
    cases identity.workspaceId with
    | none =>
      refine .of_stopped (.bind_stop (.stop _)) ?_
      rintro ⟨_, -, heq, -⟩
      cases heq
    | some workspace =>
      refine .bind (.done workspace) ?_
      split
      next hown =>
        cases hown
        simp only [Option.some.injEq, exists_eq_left', true_and]
        exact h.guarded identity owner (·.holdsOver identity.userId roles resource)
          fun w hreflects => hreflects.holdsOver_iff identity.userId roles resource
      next hother =>
        refine .of_stopped (.stop _) ?_
        rintro ⟨_, hassigned, hbound, -⟩
        cases hassigned
        cases hbound
        exact hother rfl

end Keeps

/-! ### The deeds are kept -/

namespace Keeps

variable {deeds : List Deed} {db : Database}

/-- At first there are neither workspaces nor vaults. -/
theorem empty (hworkspaces : db.workspaces = .empty) (hresources : db.resources = .empty) :
    Keeps [] db := by
  refine ⟨fun workspace => .absent ?_ fun user => ?_, fun resource => ?_⟩
  · rw [hworkspaces]
    rfl
  · rintro (howner | hadded)
    · exact howner
    · exact hadded
  · rw [hresources]
    rfl

/-- Other tables do not matter. -/
theorem congr (h : Keeps deeds db) {db' : Database} (hworkspaces : db'.workspaces = db.workspaces)
    (hresources : db'.resources = db.resources) : Keeps deeds db' := by
  refine ⟨fun workspace => ?_, fun resource => ?_⟩
  · rw [hworkspaces]
    exact h.workspaces workspace
  · rw [hresources]
    exact h.vaults resource

/-- The other workspaces are kept when something is done to one of them. -/
theorem elsewhere (h : Keeps deeds db) {deed : Deed} {workspace : String}
    (hnot : ¬ deed.On workspace) :
    Kept (deed :: deeds) workspace (db.workspaces.get? workspace) := by
  cases h.workspaces workspace with
  | absent hrow hnobody =>
    refine .absent hrow ?_
    intro user
    rw [isOwner_cons hnot, isAdded_cons hnot]
    exact hnobody user
  | present w hrow hreflects => exact .present w hrow (hreflects.elsewhere hnot)

/-- A workspace that was stored is what the deeds say, and the others are
what they were. -/
theorem store (h : Keeps deeds db) {deed : Deed} {w : Workspace}
    (hreflects : Reflects (deed :: deeds) w.id w)
    (hon : ∀ workspace, deed.On workspace → workspace = w.id)
    (hvault : ∀ resource, vault? resource (deed :: deeds) = vault? resource deeds) :
    Keeps (deed :: deeds) (db.putWorkspace w) := by
  refine ⟨fun workspace => ?_, fun resource => ?_⟩
  · by_cases hid : workspace = w.id
    · subst hid
      exact .present w (Table.get?_write_self _ _ _) hreflects
    · have hrow : (db.putWorkspace w).workspaces.get? workspace = db.workspaces.get? workspace :=
        Table.get?_write_of_ne _ _ hid
      rw [hrow]
      exact h.elsewhere fun hdeed => hid (hon workspace hdeed)
  · rw [hvault resource]
    exact h.vaults resource

/-- A new workspace is kept. -/
theorem create (h : Keeps deeds db) (id name owner : String) (single : Bool) (now : Instant) :
    Keeps (.created id owner :: deeds)
      (db.putWorkspace (Workspace.create id name owner single now)) :=
  h.store (Reflects.create deeds id name owner single now) (fun _ => Eq.symm) fun _ => rfl

/-- A change that was accepted is kept. -/
theorem change (h : Keeps deeds db) {workspace : String} {w w' : Workspace}
    {change : Workspace.Change} (hrow : db.findWorkspace workspace = .ok (some w))
    (hchange : w.change? change = some w') :
    Keeps (.changed workspace change :: deeds) (db.putWorkspace w') := by
  cases h.workspaces workspace with
  | absent hnone =>
    have hfind : db.findWorkspace workspace = .ok none := Table.find_of_get?_none hnone
    rw [hfind] at hrow
    cases hrow
  | present stored hstored hreflects =>
    rw [Call.findWorkspace_of_get? hstored] at hrow
    cases hrow
    -- A change keeps the id, so the workspace goes back to its own row.
    have hafter := hreflects.change hchange
    have hid := hafter.id_eq
    subst hid
    exact h.store hafter (fun _ => Eq.symm) fun _ => rfl

/-- A vault that was assigned is kept. -/
theorem assign (h : Keeps deeds db) (owner : ResourceOwner) :
    Keeps (.assigned owner.resourceId owner.workspaceId :: deeds) (db.putResource owner) := by
  refine ⟨fun workspace => h.elsewhere id, ?_⟩
  intro resource
  show (SortedMap.insert db.resources owner.resourceId owner.workspaceId).get? resource =
    if owner.resourceId = resource then some owner.workspaceId else vault? resource deeds
  split
  next heq =>
    subst heq
    exact SortedMap.get?_insert_self _ _ _
  next hne =>
    rw [SortedMap.get?_insert_of_ne _ _ fun heq => hne heq.symm]
    exact h.vaults resource

end Keeps

/-! ### Histories -/

namespace Service

/-- Something that happens to a server. -/
inductive Act where
  /-- A new workspace is stored. -/
  | create (id name owner : String) (single : Bool) (now : Instant)
  /-- A stored workspace is changed. -/
  | change (workspace : String) (change : Workspace.Change)
  /-- A vault is assigned to a workspace. -/
  | assign (owner : ResourceOwner)
  | putUser (user : User)
  | putDapp (dapp : DappBinding)
  /-- An operation runs, however the database fares meanwhile. -/
  | operate (weather : Weather) (limit : Option Nat) (flow : Flow Unit)
  /-- The process ends and begins again. -/
  | restart (capacity : Nat)
  | setClock (clock : Int)

/-- A server with the deeds done to it, latest first. -/
structure History where
  server : Server
  deeds : List Deed

namespace History

/-- There are no workspaces and no vaults. -/
def start (server : Server) : History :=
  ⟨{ server with database := { server.database with workspaces := .empty, resources := .empty } },
    []⟩

/-- The history with a deed that changes the database. -/
def note (history : History) (deed : Deed) (change : Database → Database) : History :=
  ⟨{ history.server with database := change history.server.database }, deed :: history.deeds⟩

/-- The history with a change to a workspace. A change that is rejected is
no deed. -/
def change (history : History) (workspace : String) (change : Workspace.Change) : History :=
  match history.server.database.findWorkspace workspace with
  | .ok (some w) =>
    match w.change? change with
    | some changed => history.note (.changed workspace change) (·.putWorkspace changed)
    | none => history
  | _ => history

/-- One more thing happens. -/
def next (history : History) : Act → History
  | .create id name owner single now =>
    history.note (.created id owner) (·.putWorkspace (.create id name owner single now))
  | .change workspace change => history.change workspace change
  | .assign owner =>
    history.note (.assigned owner.resourceId owner.workspaceId) (·.putResource owner)
  | .putUser user =>
    { history with server.database := history.server.database.putUser user }
  | .putDapp dapp =>
    { history with server.database := history.server.database.putDapp dapp }
  | .operate weather limit flow =>
    { history with server := (history.server.perform weather limit flow).2 }
  | .restart capacity => { history with server.cache := .ofCapacity capacity }
  | .setClock clock => { history with server.clock := clock }

/-- Many things happen, one after the other. -/
def after (history : History) (acts : List Act) : History := acts.foldl next history

theorem keeps_change {history : History} (h : Keeps history.deeds history.server.database)
    (workspace : String) (change : Workspace.Change) :
    Keeps (history.change workspace change).deeds
      (history.change workspace change).server.database := by
  unfold History.change
  split
  next w hrow =>
    split
    next changed hchange => exact h.change hrow hchange
    next => exact h
  next => exact h

/-- A stored workspace is changed as its operation says. -/
theorem change_of_get? {history : History} {workspace : String} {w w' : Workspace}
    {change : Workspace.Change}
    (hrow : history.server.database.workspaces.get? workspace = some (Workspace.form.encode w))
    (hchange : w.change? change = some w') :
    history.change workspace change =
      history.note (.changed workspace change) (·.putWorkspace w') := by
  unfold History.change
  simp only [Call.findWorkspace_of_get? hrow, hchange]

/-- A workspace can be changed as soon as it is stored. -/
theorem deeds_addMember_create (history : History) (id name owner : String) (single : Bool)
    (now : Instant) (user : String) (role : Role) (scope : ResourceScope) :
    ((history.next (.create id name owner single now)).next
        (.change id (.addMember user role scope))).deeds =
      .changed id (.addMember user role scope) :: .created id owner :: history.deeds := by
  have hrow : (history.next (.create id name owner single now)).server.database.workspaces.get? id =
      some (Workspace.form.encode (Workspace.create id name owner single now)) :=
    Table.get?_write_self _ _ _
  show ((history.next (.create id name owner single now)).change id _).deeds = _
  rw [change_of_get? hrow rfl]
  rfl

/-- Whatever happens, the deeds are still kept. -/
theorem keeps_next {history : History} (h : Keeps history.deeds history.server.database)
    (act : Act) : Keeps (history.next act).deeds (history.next act).server.database := by
  cases act with
  | create id name owner single now => exact h.create id name owner single now
  | change workspace change => exact keeps_change h workspace change
  | assign owner => exact h.assign owner
  | putUser user => exact h.congr rfl rfl
  | putDapp dapp => exact h.congr rfl rfl
  | operate weather limit flow =>
    obtain ⟨sessions, codes, hafter⟩ := history.server.frame_of_perform weather limit flow
    refine h.congr ?_ ?_
    · show (history.server.perform weather limit flow).2.database.workspaces = _
      rw [hafter]
    · show (history.server.perform weather limit flow).2.database.resources = _
      rw [hafter]
  | restart | setClock => exact h

/-- After whatever happened, the deeds are kept. -/
theorem keeps_after (acts : List Act) {history : History}
    (h : Keeps history.deeds history.server.database) :
    Keeps (history.after acts).deeds (history.after acts).server.database := by
  induction acts generalizing history with
  | nil => exact h
  | cons act acts ih => exact ih (keeps_next h act)

end History

/-- Whatever happened since there were no workspaces, both checks pass for
exactly those whom the deeds permit. For a vault these are the members of
the workspace that it was assigned to last, if the identity is bound to
that workspace, with a grant in force that covers the vault. For the
workspace of the identity these are its members, with a grant in force
that covers everything. Who asks for no role needs no grant. -/
theorem authorized_iff_granted (server : Server) (acts : List Act) (delays : Nat → Nat)
    (identity : Identity) (roles : List Role) (resource : String) :
    let history := (History.start server).after acts
    ((history.server.perform (.slow delays) none (authorize identity roles resource)).1 = .ok () ↔
      ∃ workspace, vault? resource history.deeds = some workspace ∧
        identity.workspaceId = some workspace ∧
        Permits history.deeds workspace identity.userId roles (·.Covers resource)) ∧
    ((history.server.perform (.slow delays) none (authorizeWorkspace identity roles)).1 = .ok () ↔
      ∃ workspace, identity.workspaceId = some workspace ∧
        Permits history.deeds workspace identity.userId roles (·.CoversAll)) := by
  intro history
  have hkeeps : Keeps history.deeds history.server.database :=
    History.keeps_after acts (Keeps.empty rfl rfl)
  exact ⟨(hkeeps.authorize_passes identity roles resource).perform delays,
    (hkeeps.authorizeWorkspace_passes identity roles).perform delays⟩

/-- A history in which Ann makes a workspace and adds Bob to it, as a
viewer of what is called by the wildcard. -/
def wildcardHistory : History :=
  (History.start ⟨{}, .ofCapacity 1, 0, 0⟩).after
    [.create "w" "Main" "ann" true .epoch,
      .change "w" (.addMember "bob" .viewer (.only [wildcard]))]

theorem wildcardHistory_deeds :
    wildcardHistory.deeds =
      [.changed "w" (.addMember "bob" .viewer (.only [wildcard])), .created "w" "ann"] := by
  rw [wildcardHistory, History.after, List.foldl_cons, List.foldl_cons, List.foldl_nil]
  exact History.deeds_addMember_create _ "w" "Main" "ann" true _ "bob" .viewer _

/-- Bob, at work in the workspace. -/
def bob : Identity :=
  { (default : Identity) with
    user := { (default : UserSnapshot) with id := "bob" }
    workspace := some ⟨"w", "Main", true⟩ }

/-- Bob passes as a viewer of the workspace, though Bob was granted no role
with the scope of everything: a list with the wildcard covers as much. -/
theorem wildcard_listed_covers_all :
    (wildcardHistory.server.perform (.slow fun _ => 0) none
        (authorizeWorkspace bob [.viewer])).1 = .ok () ∧
      ¬ ∃ workspace, bob.workspaceId = some workspace ∧
        Permits wildcardHistory.deeds workspace bob.userId [.viewer] (· = .all) := by
  have hkeeps : Keeps wildcardHistory.deeds wildcardHistory.server.database := by
    unfold wildcardHistory
    exact History.keeps_after _ (Keeps.empty rfl rfl)
  constructor
  · refine ((hkeeps.authorizeWorkspace_passes bob [.viewer]).perform _).2 ⟨"w", rfl, ?_, .inr ?_⟩
    · rw [wildcardHistory_deeds]
      exact .inr (.inl ⟨rfl, rfl⟩)
    · rw [wildcardHistory_deeds]
      exact ⟨.viewer, List.mem_singleton_self _, .inl ⟨rfl, rfl, rfl, List.mem_singleton_self _⟩⟩
  · rw [wildcardHistory_deeds]
    rintro ⟨workspace, hbound, -, hnone | ⟨role, hmem, hgranted⟩⟩
    · cases hnone
    cases hbound
    cases List.mem_singleton.1 hmem
    -- Neither the addition of Bob nor the creation by Ann is such a grant.
    rcases hgranted with ⟨-, -, -, hall⟩ | ⟨-, ⟨-, howner, -⟩ | ⟨-, hnone⟩⟩
    · cases hall
    · exact absurd howner (by decide)
    · exact hnone

end Service

end Gatekeeper

import Gatekeeper.Http.Handler
import Gatekeeper.Proofs.Authorize
import Gatekeeper.Proofs.FailStop

/-!
# `Gatekeeper.Proofs.Vaults`: the list of vaults and the check of one vault

The list comes from a scan of the table of vaults and a check of the whole
workspace. A single vault is looked up in the table and checked by itself.
`Http.Site.vaults_agree` says that the two give one answer in every state:
a sender who gets the list passes the check of a vault if and only if the
list has it.

Both checks read the row of the sender's workspace and nothing else that
could fail. `Database.Admits` says that the row is there with the user as
a member and with permissions that satisfy a condition. A check of the
workspace that passes leaves no doubt about the row
(`Service.admits_of_authorizeWorkspace`), so the check of a vault is
answered from it (`Service.authorize_passes_of_admits`).

Rows need not be well-formed. A row that cannot be read makes the check of
the workspace fail, and rows of other workspaces are not read.
-/

set_option autoImplicit false

namespace Gatekeeper

/-! ### The row of the workspace -/

namespace Call

variable {workspace user : String} {found : Option Workspace} {db db' : Database}

/-- Whether a user is a member is told by the row of the workspace. -/
theorem run_isMember_of_find (hfind : db.findWorkspace workspace = .ok found) (user : String) :
    (Call.isMember workspace user).run db = .ok (found.any (·.isMember user), db) := by
  simp only [Call.run, hfind]
  rfl

/-- The permissions are those of the row. -/
theorem run_findPermissions_of_find (hfind : db.findWorkspace workspace = .ok found) :
    (Call.findPermissions workspace).run db = .ok (found.map (·.permissions), db) := by
  simp only [Call.run, hfind]
  rfl

/-- Whether a user is a member cannot be told from a row that cannot be read. -/
theorem exists_find_of_run_isMember {member : Bool}
    (h : (Call.isMember workspace user).run db = .ok (member, db')) :
    ∃ found, db.findWorkspace workspace = .ok found ∧ member = found.any (·.isMember user) ∧
      db' = db := by
  cases hfind : db.findWorkspace workspace with
  | error e =>
    simp only [Call.run, hfind] at h
    cases h
  | ok found =>
    rw [run_isMember_of_find hfind] at h
    cases h
    exact ⟨found, rfl, rfl, rfl⟩

end Call

/-- A workspace has a row, in which the user is a member and the
permissions satisfy `check`. -/
def Database.Admits (db : Database) (workspace user : String) (check : PermissionTable → Bool) :
    Prop :=
  ∃ w, db.findWorkspace workspace = .ok (some w) ∧ w.isMember user = true ∧
    check w.permissions = true

/-- Who holds a role over everything holds it over each vault. -/
theorem PermissionTable.holdsOver_of_holdsEverywhere {table : PermissionTable} {user : String}
    {roles : List Role} (h : (roles.isEmpty || table.holdsEverywhere user roles) = true)
    (resource : String) : table.holdsOver user roles resource = true := by
  unfold holdsEverywhere at h
  unfold holdsOver
  rw [Bool.or_eq_true, List.any_eq_true] at h ⊢
  refine h.imp_right ?_
  rintro ⟨role, hmem, hwildcard⟩
  exact ⟨role, hmem, Bool.or_eq_true_iff.2 (.inl hwildcard)⟩

namespace Service

variable {server : Server} {identity : Identity} {roles : List Role}

/-- A check of the permissions of a workspace that passes leaves no doubt
about the row. -/
theorem admits_of_guarded (identity : Identity) (workspace : String)
    (check : PermissionTable → Bool) (server : Server) :
    ((memberPermissions identity workspace).bind fun table =>
      if check table = true then .done () else Flow.refuse .missingPermission).Ensures
        (fun end? after => end? = .ok () →
          after = server ∧ server.database.Admits workspace identity.userId check) server := by
  refine ⟨fun why => nofun, ?_⟩
  intro member db hmember
  obtain ⟨found, hfind, rfl, rfl⟩ := Call.exists_find_of_run_isMember hmember
  cases found with
  | none => exact nofun
  | some w =>
    show Flow.Ensures _ (Flow.bind (if w.isMember identity.userId = true then _ else _) _) _
    split
    next hyes =>
      refine ⟨fun why => nofun, ?_⟩
      intro table db hpermissions
      rw [Call.run_findPermissions_of_find hfind] at hpermissions
      cases hpermissions
      show Flow.Ensures _ (if check w.permissions = true then _ else _) _
      split
      next hcheck => exact fun _ => ⟨rfl, w, hfind, hyes, hcheck⟩
      next => exact nofun
    next => exact nofun

/-- A check of the workspace that passes leaves no doubt about its row. -/
theorem admits_of_authorizeWorkspace (identity : Identity) (roles : List Role) (server : Server) :
    (authorizeWorkspace identity roles).Ensures (fun end? after => end? = .ok () →
      after = server ∧ ∃ workspace, identity.workspaceId = some workspace ∧
        server.database.Admits workspace identity.userId
          fun table => roles.isEmpty || table.holdsEverywhere identity.userId roles) server := by
  unfold authorizeWorkspace
  cases identity.workspaceId with
  | none => exact nofun
  | some workspace =>
    refine (admits_of_guarded identity workspace _ server).mono ?_
    intro end? after hpasses hok
    obtain ⟨hafter, hadmits⟩ := hpasses hok
    exact ⟨hafter, workspace, rfl, hadmits⟩

/-- The check of a vault passes for a user whom the row of the workspace
admits, if the vault is of that workspace. Any other vault is refused. -/
theorem authorize_passes_of_admits {workspace : String} {resource : String}
    (hbound : identity.workspaceId = some workspace)
    (hadmits : server.database.Admits workspace identity.userId
      fun table => table.holdsOver identity.userId roles resource) :
    (authorize identity roles resource).PassesIff
      (server.database.resources.get? resource = some workspace) server := by
  have hvault : (Call.findResourceOwner resource).run server.database =
      .ok ((server.database.resources.get? resource).map fun owner => ⟨resource, owner⟩,
        server.database) := rfl
  unfold authorize
  refine .bind (.call hvault) ?_
  rw [hbound]
  cases server.database.resources.get? resource with
  | none => exact .of_stopped (.bind_stop (.stop _)) nofun
  | some owner =>
    refine .bind (.done _) (.bind (.done workspace) ?_)
    split
    next hown =>
      obtain ⟨w, hfind, hmember, hholds⟩ := hadmits
      have hisMember := Call.run_isMember_of_find hfind identity.userId
      rw [Option.any_some, hmember] at hisMember
      refine .bind (.bind (.call hisMember)
        (.bind (.call (Call.run_findPermissions_of_find hfind)) (.done w.permissions))) ?_
      subst hown
      exact .guard (iff_of_true hholds rfl) _
    next hother =>
      refine .of_stopped (.stop _) ?_
      rintro ⟨⟩
      exact hother rfl

/-- Who passes the check of the workspace passes the check of a vault if
and only if the vault is of that workspace. Neither check changes
anything. -/
theorem authorize_of_authorizeWorkspace {atWorkspace : Weather} {limit : Option Nat}
    (hclear : atWorkspace.Clear)
    (hpasses : (server.perform atWorkspace limit (authorizeWorkspace identity roles)).1 = .ok ()) :
    (server.perform atWorkspace limit (authorizeWorkspace identity roles)).2 = server ∧
    ∃ workspace, identity.workspaceId = some workspace ∧
      ∀ (vault : String) (atVault : Weather) (limit : Option Nat),
        atVault.Spares limit {} ((authorize identity roles vault).calls server) →
        ∃ end?, server.perform atVault limit (authorize identity roles vault) = (end?, server) ∧
          (end? = .ok () ↔ server.database.resources.get? vault = some workspace) := by
  obtain ⟨hafter, workspace, hbound, w, hfind, hmember, hholds⟩ :=
    (admits_of_authorizeWorkspace identity roles server).perform
      (failStop_authorizeWorkspace identity roles) (fun _ _ _ _ => nofun) hclear limit hpasses
  refine ⟨hafter, workspace, hbound, ?_⟩
  intro vault atVault limit hspares
  have hadmits : server.database.Admits workspace identity.userId
      fun table => table.holdsOver identity.userId roles vault :=
    ⟨w, hfind, hmember, PermissionTable.holdsOver_of_holdsEverywhere hholds vault⟩
  obtain ⟨end?, hend, hiff⟩ := authorize_passes_of_admits hbound hadmits
  exact ⟨end?, hend.perform_of_spares hspares, hiff⟩

end Service

/-! ### The list -/

namespace Database

variable (db : Database) (workspace : String)

/-- The list has the vaults of the workspace and no others. -/
theorem mem_listResources (vault : String) :
    vault ∈ db.listResources workspace ↔ db.resources.get? vault = some workspace := by
  unfold listResources
  rw [SortedMap.get?_eq_some_iff]
  simp

/-- The list increases strictly. -/
theorem listResources_increasing : (db.listResources workspace).Pairwise (· < ·) := by
  unfold listResources
  rw [List.pairwise_map]
  refine (db.resources.increasing.sublist List.filter_sublist).imp ?_
  intro a b hlt
  exact compareOfLessAndEq_eq_lt.1 hlt

end Database

namespace Http

open Service

/-- No refusal is reported as a success. -/
theorem Response.status_ofError_ne (e : AuthError) : (ofError e).status ≠ 200 := by
  cases e with
  | unauthorized title detail =>
    show (if title.isForbidden = true then 403 else 401) ≠ 200
    split <;> decide
  | notFound => exact (by decide : (404 : Nat) ≠ 200)
  | internal => exact (by decide : (500 : Nat) ≠ 200)

/-- A success is reported if and only if the operation has come to its
end. -/
theorem answer_ok_iff {α : Type} {make : α → Response} (hmake : ∀ a, (make a).status = 200)
    (performed : Except Stop α × Server) :
    (∃ response, (answer make performed).1 = .ok response ∧ response.status = 200) ↔
      ∃ a, performed.1 = .ok a := by
  rcases performed with ⟨(e | cause) | a, server⟩
  · refine iff_of_false ?_ nofun
    rintro ⟨_, ⟨⟩, hstatus⟩
    exact Response.status_ofError_ne e hstatus
  · exact iff_of_false nofun nofun
  · exact iff_of_true ⟨_, rfl, hmake a⟩ ⟨a, rfl⟩

/-- Whoever gets the list of vaults, gets the vaults of the own workspace,
each once and in order. The check of a single vault, be it made by itself
or for a request, passes if and only if the list has the vault, and the
answer names the same workspace and the sender. For any roles, who passes
the check of the own workspace passes the check of each of its vaults. -/
theorem Site.vaults_agree (site : Site) (identity : Identity) (server : Server)
    {atList : Weather} (hclear : atList.Clear) :
    ((server.perform atList (some site.timeoutMs)
        (authorizeWorkspace identity Role.all)).1 = .ok () →
      ∃ workspace, identity.workspaceId = some workspace ∧
        let vaults := server.database.listResources workspace
        (∀ request, site.listVaults atList (some identity) request server =
          (.ok (.ofJson 200 (VaultList.form.encode ⟨workspace, vaults⟩)), server)) ∧
        vaults.Pairwise (· < ·) ∧
        (∀ vault, vault ∈ vaults ↔ server.database.resources.get? vault = some workspace) ∧
        ∀ (vault : String) (atVault : Weather),
          atVault.Spares (some site.timeoutMs) {}
            ((authorize identity Role.all vault).calls server) →
          ((server.perform atVault (some site.timeoutMs)
              (authorize identity Role.all vault)).1 = .ok () ↔ vault ∈ vaults) ∧
          ∀ (segment : String) (request : Request),
            Text.percentDecode? segment.toList = some vault →
            let found := site.findVault atVault (some identity) segment request server
            ((∃ response, found.1 = .ok response ∧ response.status = 200) ↔ vault ∈ vaults) ∧
            (vault ∈ vaults → found =
              (.ok (.ofJson 200 (VaultAccess.form.encode ⟨vault, workspace, identity.userId⟩)),
                server))) ∧
    ∀ (roles : List Role) (limit : Option Nat),
      (server.perform atList limit (authorizeWorkspace identity roles)).1 = .ok () →
      ∀ (vault workspace : String) (atVault : Weather) (limit : Option Nat),
        identity.workspaceId = some workspace →
        server.database.resources.get? vault = some workspace →
        atVault.Spares limit {} ((authorize identity roles vault).calls server) →
        (server.perform atVault limit (authorize identity roles vault)).1 = .ok () := by
  constructor
  · intro hpasses
    obtain ⟨hafter, workspace, hbound, hvault⟩ := authorize_of_authorizeWorkspace hclear hpasses
    refine ⟨workspace, hbound, ?_, server.database.listResources_increasing workspace,
      server.database.mem_listResources workspace, ?_⟩
    · intro request
      have hperform : server.perform atList (some site.timeoutMs)
          (authorizeWorkspace identity Role.all) = (.ok (), server) := Prod.ext hpasses hafter
      simp only [listVaults, withSender, identify, hperform, hbound, Option.getD_some, answer]
    · intro vault atVault hspares
      obtain ⟨end?, hperform, hiff⟩ := hvault vault atVault _ hspares
      rw [server.database.mem_listResources workspace, ← hiff, hperform]
      refine ⟨Iff.rfl, ?_⟩
      intro segment request hsegment
      have hfound : site.findVault atVault (some identity) segment request server =
          answer (fun _ => .ofJson 200
            (VaultAccess.form.encode ⟨vault, workspace, identity.userId⟩))
            (end?, server) := by
        simp only [findVault, hsegment, withSender, identify, hperform, hbound, Option.getD_some]
      rw [hfound]
      refine ⟨?_, ?_⟩
      · rw [answer_ok_iff fun _ => rfl]
        exact ⟨fun ⟨_, hok⟩ => hok, fun hok => ⟨(), hok⟩⟩
      · rintro rfl
        rfl
  · intro roles limit hpasses vault workspace atVault limit hbound hown hspares
    obtain ⟨-, _, hbound', hvault⟩ := authorize_of_authorizeWorkspace hclear hpasses
    obtain ⟨end?, hperform, hiff⟩ := hvault vault atVault limit hspares
    rw [hperform]
    rw [hbound] at hbound'
    cases hbound'
    exact hiff.2 hown

/-- Ann makes a workspace and assigns a vault to it that is called by the
wildcard. -/
def starHistory : History :=
  (History.start ⟨{}, .ofCapacity 1, 0, 0⟩).after
    [.create "w" "Main" "ann" true .epoch, .assign ⟨wildcard, "w"⟩]

/-- Ann, at work in the workspace. -/
def annAtWork : Identity :=
  { (default : Identity) with
    user := { (default : UserSnapshot) with id := "ann" }
    workspace := some ⟨"w", "Main", true⟩ }

/-- A request for the vault. -/
def starRequest : Request := { method := "GET", target := "/v1/predicate/*" }

/-- Ann gets to see the vault, and no vault that is not in her list. -/
theorem Site.vaults_agree_of_ann :
    let site := Site.ofSettings {} none
    let server := starHistory.server
    server.database.listResources "w" = [wildcard] ∧
      (∃ response, (site.findVault .fair (some annAtWork) "*" starRequest server).1 = .ok response ∧
        response.status = 200) ∧
      ∀ segment, Text.percentDecode? segment.toList = some "v" →
        ¬ ∃ response, (site.findVault .fair (some annAtWork) segment starRequest server).1 =
          .ok response ∧ response.status = 200 := by
  intro site server
  have hlist : server.database.listResources "w" = [wildcard] := by decide +kernel
  have hkeeps : Keeps starHistory.deeds server.database :=
    History.keeps_after _ (Keeps.empty rfl rfl)
  -- Ann owns the workspace, so she holds every role over everything.
  obtain ⟨end?, hend, hiff⟩ := hkeeps.authorizeWorkspace_passes annAtWork Role.all
  obtain rfl := hiff.2 ⟨"w", rfl, .inl rfl,
    .inr ⟨.owner, by decide, .inr ⟨id, .inl ⟨rfl, rfl, trivial⟩⟩⟩⟩
  have hpasses : (server.perform .fair (some site.timeoutMs)
      (authorizeWorkspace annAtWork Role.all)).1 = .ok () := by
    rw [hend.perform_fair]
  clear_value server
  obtain ⟨workspace, hbound, -, -, -, hvault⟩ :=
    (Site.vaults_agree site annAtWork server Weather.clear_fair).1 hpasses
  obtain rfl : "w" = workspace := Option.some.inj hbound
  have hfound (vault segment : String)
      (hsegment : Text.percentDecode? segment.toList = some vault) :=
    ((hvault vault .fair (Flow.spares_fair_within _ 0 _)).2 segment starRequest hsegment).1
  refine ⟨hlist, (hfound wildcard "*" (by decide +kernel)).2 ?_, ?_⟩
  · rw [hlist]
    exact List.mem_singleton_self _
  · intro segment hsegment
    rw [hfound "v" segment hsegment, hlist]
    decide

end Http

end Gatekeeper

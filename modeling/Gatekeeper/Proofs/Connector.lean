import Gatekeeper.Proofs.Authorize
import Gatekeeper.Proofs.Code.Errand
import Gatekeeper.Proofs.FailStop

/-!
# `Gatekeeper.Proofs.Connector`: how far a dapp connector gets

The credential of a dapp connector stands for the user that the dapp is
tied to, in no workspace, so no check lets it in. But who it stands for may
request a code, and a code stands for its owner in the owner's own
workspace.

A `Chain` is a server that serves requests one after the other. Each of
them presents the connector credential, or a code that was issued to an
earlier one (`Visit`), and each may fare as badly as the database does.
`Sound` is the invariant: the codes that were issued are codes of the user,
and who passed a check presented one of them and was entitled to pass. It
is kept by the resolution of a credential (`Resolves.authenticate`), by the
checks and by the issue of a code, so by every request (`Sound.next`) and
by all of them together (`Sound.after`).

The other direction is a chain of two undisturbed requests (`wayIn`): the
first one is given a code, and the second one passes with it.
`reaches_own_workspace` puts both together: the dapp gets as far as its
user gets at home. `code_of_connector_passes` is a case of it.
-/

set_option autoImplicit false

namespace Gatekeeper

/-! ### Credentials by their marks -/

theorem marked_append (mark start rest : String) :
    marked mark (start ++ rest) = Text.startsWith mark.toList (start.toList ++ rest.toList) := by
  unfold marked
  rw [String.toList_append]

namespace CredentialKind

theorem of_connector (sessionId : String) : of (connectorMark ++ sessionId) = .connector := by
  unfold of
  simp only [marked_append]
  rfl

theorem of_code (rest : String) : of (codeMark ++ rest) = .code := by
  unfold of
  simp only [marked_append]
  rfl

theorem of_cli (rest : String) : of (cliMark ++ rest) = .cli := by
  unfold of
  simp only [marked_append]
  rfl

/-- The text of a code is a code of one kind or the other. -/
theorem of_bears {text : String} {n : Nat} (h : Bears text n) :
    of text = .code ∨ of text = .cli := by
  rcases h with rfl | rfl
  · exact .inl (of_code _)
  · exact .inr (of_cli _)

end CredentialKind

theorem connectorSession_append (sessionId : String) :
    connectorSession (connectorMark ++ sessionId) = sessionId := by
  have hstrip : Text.strip? connectorMark.toList (connectorMark ++ sessionId).toList =
      some sessionId.toList := by
    rw [Text.strip?_eq_some_iff, String.toList_append]
  unfold connectorSession
  rw [hstrip]
  exact String.ofList_toList

/-- A text with a letter in front is not blank. -/
theorem isBlankText_append {mark : String} {c : Char} {cs : List Char} (h : mark.toList = c :: cs)
    (hc : Text.isBlank c = false) (rest : String) : Text.isBlankText (mark ++ rest) = false := by
  simp [Text.isBlankText, String.toList_append, h, hc]

/-! ### Stored records -/

/-- Each user stands under its own id. -/
def Database.UsersKeyed (db : Database) : Prop :=
  ∀ id user, db.users.find User.form id = .ok (some user) → user.id = id

namespace Database.UsersKeyed

variable {db : Database}

theorem empty (h : db.users = .empty) : db.UsersKeyed := by
  intro id user hfind
  rw [h, Table.find_of_get?_none (SortedMap.get?_empty id)] at hfind
  cases hfind

theorem putUser (h : db.UsersKeyed) (user : User) : (db.putUser user).UsersKeyed := by
  intro id found hfind
  by_cases hid : id = user.id
  · subst hid
    have hstored : (db.putUser user).users.find User.form user.id = .ok (some user) :=
      Table.find_of_get? (Table.get?_write_self _ _ _) (User.decode_encode user)
    rw [hstored] at hfind
    cases hfind
    rfl
  · have hrow : (db.putUser user).users.get? id = db.users.get? id :=
      Table.get?_write_of_ne _ _ hid
    refine h id found ?_
    unfold Table.find at hfind ⊢
    rwa [hrow] at hfind

end Database.UsersKeyed

/-- Each workspace stands under its own id. -/
theorem Keeps.id_of_find {deeds : List Deed} {db : Database} (h : Keeps deeds db) {id : String}
    {w : Workspace} (hfind : db.findWorkspace id = .ok (some w)) : w.id = id := by
  cases h.workspaces id with
  | absent hrow =>
    have hnone : db.findWorkspace id = .ok none := Table.find_of_get?_none hrow
    rw [hnone] at hfind
    cases hfind
  | present stored hrow hreflects =>
    rw [Call.findWorkspace_of_get? hrow] at hfind
    cases hfind
    exact hreflects.id_eq

/-- A workspace with a member is stored. -/
theorem Keeps.find_of_member {deeds : List Deed} {db : Database} (h : Keeps deeds db)
    {workspace user : String}
    (hmember : IsOwner workspace user deeds ∨ IsAdded workspace user deeds) :
    ∃ w, db.findWorkspace workspace = .ok (some w) := by
  cases h.workspaces workspace with
  | absent _ hnobody => exact absurd hmember (hnobody user)
  | present w hrow => exact ⟨w, Call.findWorkspace_of_get? hrow⟩

theorem Server.advance_zero (server : Server) : server.advance 0 = server := by
  unfold advance
  rw [Int.add_zero]

namespace Service.History

theorem usersKeyed_next {history : History} (h : history.server.database.UsersKeyed) (act : Act) :
    (history.next act).server.database.UsersKeyed := by
  cases act with
  | putUser user => exact h.putUser user
  | create | assign | putDapp | restart | setClock => exact h
  | change workspace change =>
    show (history.change workspace change).server.database.UsersKeyed
    unfold History.change
    split
    · split
      · exact h
      · exact h
    · exact h
  | operate weather limit flow =>
    obtain ⟨sessions, codes, hafter⟩ := history.server.frame_of_perform weather limit flow
    show (history.server.perform weather limit flow).2.database.UsersKeyed
    rw [hafter]
    exact h

theorem usersKeyed_after (acts : List Act) {history : History}
    (h : history.server.database.UsersKeyed) : (history.after acts).server.database.UsersKeyed := by
  induction acts generalizing history with
  | nil => exact h
  | cons act acts ih => exact ih (usersKeyed_next h act)

/-- What comes of a server that begins with nothing stored. -/
def ofActs (capacity : Nat) (clock : Int) (acts : List Act) : History :=
  (start ⟨{}, .ofCapacity capacity, clock, 0⟩).after acts

theorem keeps_ofActs (capacity : Nat) (clock : Int) (acts : List Act) :
    Keeps (ofActs capacity clock acts).deeds (ofActs capacity clock acts).server.database :=
  keeps_after acts (Keeps.empty rfl rfl)

theorem usersKeyed_ofActs (capacity : Nat) (clock : Int) (acts : List Act) :
    (ofActs capacity clock acts).server.database.UsersKeyed :=
  usersKeyed_after acts (.empty rfl)

end Service.History

namespace Connector

open Service (History Act)

/-! ### Requests in a row -/

/-- A check that lets somebody in. -/
inductive Check where
  | vault (roles : List Role) (resource : String)
  | workspace (roles : List Role)

namespace Check

def flow (identity : Identity) : Check → Flow Unit
  | .vault roles resource => Service.authorize identity roles resource
  | .workspace roles => Service.authorizeWorkspace identity roles

/-- The deeds allow a user who is at work in a workspace to pass. -/
def Allowed (deeds : List Deed) (workspace user : String) : Check → Prop
  | .vault roles resource =>
    vault? resource deeds = some workspace ∧ Permits deeds workspace user roles (·.Covers resource)
  | .workspace roles => Permits deeds workspace user roles (·.CoversAll)

end Check

/-- What is asked for with a credential. -/
inductive Wish where
  /-- Who it stands for. -/
  | identify
  | check (check : Check)
  | requestCode (origin : String) (cli : Bool)
  | signOut

/-- How the calls of an operation fare. They may fail or be slow, and the
operation may have a limit for them. -/
structure Conditions where
  weather : Weather
  clear : weather.Clear
  limit : Option Nat

namespace Conditions

/-- Nothing is disturbed. -/
def fair : Conditions := ⟨.fair, Weather.clear_fair, none⟩

def perform {α : Type} (conditions : Conditions) (flow : Flow α) (server : Server) :
    Except Stop α × Server :=
  server.perform conditions.weather conditions.limit flow

end Conditions

/-- A request. It presents one of the codes that were issued to earlier
requests, by its place among them, latest first, or the connector
credential. -/
structure Visit where
  code : Option Nat
  context : RequestContext
  /-- How far the clock was moved before. -/
  wait : Duration
  wish : Wish
  /-- How it is found out who comes. -/
  authentication : Conditions
  /-- How it is done what is asked for. -/
  operation : Conditions

/-- The server after some requests. -/
structure Chain where
  server : Server
  /-- The codes that were issued to them, latest first. -/
  codes : List String
  /-- The checks that they passed, with the credentials presented. -/
  passed : List (String × Check)

namespace Chain

def start (server : Server) : Chain := ⟨server, [], []⟩

/-- The credential that is presented. -/
def credential (sessionId : String) (chain : Chain) : Option Nat → String
  | some place => (chain.codes[place]?).getD (connectorMark ++ sessionId)
  | none => connectorMark ++ sessionId

theorem presented (sessionId : String) (chain : Chain) (place : Option Nat) :
    chain.credential sessionId place = connectorMark ++ sessionId ∨
      chain.credential sessionId place ∈ chain.codes := by
  cases place with
  | none => exact .inl rfl
  | some place =>
    show (chain.codes[place]?).getD _ = _ ∨ (chain.codes[place]?).getD _ ∈ _
    cases hcode : chain.codes[place]? with
    | none => exact .inl rfl
    | some code => exact .inr (List.mem_of_getElem? hcode)

/-- Who has a good credential is served. -/
def enter (service : Service) (visit : Visit) (raw : String) (chain : Chain)
    (serve : Identity → Chain → Chain) : Chain :=
  match visit.authentication.perform (service.authenticate raw visit.context) chain.server with
  | (.ok identity, server) => serve identity { chain with server }
  | (.error _, server) => { chain with server }

def checked (conditions : Conditions) (raw : String) (check : Check) (identity : Identity)
    (chain : Chain) : Chain :=
  match conditions.perform (check.flow identity) chain.server with
  | (.ok (), server) => { chain with server, passed := (raw, check) :: chain.passed }
  | (.error _, server) => { chain with server }

def issued (service : Service) (conditions : Conditions) (origin : String) (cli : Bool)
    (identity : Identity) (chain : Chain) : Chain :=
  match conditions.perform (service.requestCode identity origin cli) chain.server with
  | (.ok code, server) => { chain with server, codes := code.code :: chain.codes }
  | (.error _, server) => { chain with server }

/-- One more request is served. -/
def next (service : Service) (sessionId : String) (chain : Chain) (visit : Visit) : Chain :=
  let raw := chain.credential sessionId visit.code
  let chain := { chain with server := chain.server.advance visit.wait }
  match visit.wish with
  | .identify => chain.enter service visit raw fun _ chain => chain
  | .check check => chain.enter service visit raw (checked visit.operation raw check)
  | .requestCode origin cli =>
    chain.enter service visit raw (issued service visit.operation origin cli)
  | .signOut =>
    { chain with server := (visit.operation.perform (Service.signOut raw) chain.server).2 }

/-- Many requests are served, one after the other. -/
def after (service : Service) (sessionId : String) (chain : Chain) (visits : List Visit) : Chain :=
  visits.foldl (next service sessionId) chain

end Chain

/-! ### Checks -/

namespace Check

variable {deeds : List Deed} {server : Server}

/-- Only members are allowed to pass. -/
theorem Allowed.member {workspace user : String} {check : Check}
    (h : check.Allowed deeds workspace user) :
    IsOwner workspace user deeds ∨ IsAdded workspace user deeds := by
  cases check with
  | vault => exact h.2.1
  | workspace => exact h.1

/-- A check passes if and only if the deeds allow it in the workspace of
the identity. -/
theorem passes (h : Keeps deeds server.database) (identity : Identity) (check : Check) :
    (check.flow identity).PassesIff
      (∃ workspace, identity.workspaceId = some workspace ∧
        check.Allowed deeds workspace identity.userId) server := by
  cases check with
  | vault roles resource =>
    obtain ⟨end?, hend, hiff⟩ := h.authorize_passes identity roles resource
    refine ⟨end?, hend, hiff.trans (exists_congr ?_)⟩
    intro workspace
    exact and_left_comm
  | workspace roles => exact h.authorizeWorkspace_passes identity roles

/-- No check swallows the error of a call to the database. -/
theorem failStop (identity : Identity) (check : Check) : (check.flow identity).FailStop := by
  cases check with
  | vault roles resource => exact Service.failStop_authorize identity roles resource
  | workspace roles => exact Service.failStop_authorizeWorkspace identity roles

/-- A check that passes in some weather is allowed. -/
theorem of_passed (h : Keeps deeds server.database) {identity : Identity} {check : Check}
    {conditions : Conditions} {after : Server}
    (hpassed : conditions.perform (check.flow identity) server = (.ok (), after)) :
    ∃ workspace, identity.workspaceId = some workspace ∧
      check.Allowed deeds workspace identity.userId := by
  refine ((check.passes h identity).perform fun _ => 0).1 ?_
  exact Flow.perform_fair_of_ok conditions.clear (check.failStop identity)
    (congrArg Prod.fst hpassed)

theorem leavesCodes_memberPermissions (identity : Identity) (workspace : String) :
    (Service.memberPermissions identity workspace).LeavesCodes := by
  refine ⟨rfl, ?_⟩
  intro isMember
  show Flow.LeavesCodes (if isMember = true then _ else _)
  split
  · exact ⟨rfl, fun _ => trivial⟩
  · trivial

theorem leavesCodes (identity : Identity) (check : Check) : (check.flow identity).LeavesCodes := by
  cases check with
  | vault roles resource =>
    refine ⟨rfl, ?_⟩
    intro owner
    refine (Flow.LeavesCodes.require _ owner).bind ?_
    intro owner
    refine (Flow.LeavesCodes.require _ _).bind ?_
    intro workspace
    show Flow.LeavesCodes (if workspace = owner.workspaceId then _ else _)
    split
    · refine (leavesCodes_memberPermissions identity workspace).bind ?_
      intro table
      show Flow.LeavesCodes (if table.holdsOver identity.userId roles resource = true then _ else _)
      split <;> trivial
    · trivial
  | workspace roles =>
    refine (Flow.LeavesCodes.require _ _).bind ?_
    intro workspace
    refine (leavesCodes_memberPermissions identity workspace).bind ?_
    intro table
    show Flow.LeavesCodes (if (roles.isEmpty || table.holdsEverywhere identity.userId roles) = true
      then _ else _)
    split <;> trivial

end Check

/-! ### Whom the credentials stand for -/

/-- The session of the connector is tied to the user. -/
def Bound (db : Database) (sessionId : String) (user : User) : Prop :=
  ∃ dapp, db.dapps.find DappBinding.form sessionId = .ok (some dapp) ∧
    db.users.find User.form dapp.userId = .ok (some user)

/-- The user is also found under the user's own id. -/
theorem Bound.findUser {db : Database} {sessionId : String} {user : User}
    (hkeyed : db.UsersKeyed) (h : Bound db sessionId user) :
    db.users.find User.form user.id = .ok (some user) := by
  obtain ⟨dapp, -, huser⟩ := h
  rwa [hkeyed _ _ huser]

/-- The row of a code is that of a code of the user. -/
structure IsCodeOf (db : Database) (sessionId : String) (codes : Table) (text : String)
    (user : User) (code : RecoverCode) : Prop where
  bears : ∃ n, Bears text n
  row : codes.get? text = some (RecoverCode.form.encode code)
  plain : code.metadata.Plain 2
  bound : Bound db sessionId user
  owner : code.ownerId = user.id

/-- The row does not depend on what is written under other codes. -/
theorem IsCodeOf.write {db : Database} {sessionId : String} {codes : Table} {text other : String}
    {user : User} {code : RecoverCode} (h : IsCodeOf db sessionId codes text user code)
    (hne : text ≠ other) (written : RecoverCode) :
    IsCodeOf db sessionId (codes.write RecoverCode.form other written) text user code :=
  { h with row := (Table.get?_write_of_ne codes written hne).trans h.row }

/-- Since the requests began, only sessions and codes have changed, and
those codes that were issued to them are codes of the user. -/
structure Standing (db : Database) (sessionId : String) (codes : List String) (current : Database) :
    Prop where
  frame : ∃ sessions table, current = { db with sessions, codes := table }
  issued : ∀ text ∈ codes, ∃ user code, IsCodeOf db sessionId current.codes text user code

/-- The identity is that of the user, at work in no workspace or in the
user's own. -/
structure IdentityOf (db : Database) (sessionId : String) (user : User) (identity : Identity) :
    Prop where
  bound : Bound db sessionId user
  snapshot : identity.user = user.snapshot
  workspace : ∀ workspace, identity.workspaceId = some workspace →
    workspace = user.defaultWorkspaceId

/-- A credential is resolved to an identity of the user, which has a
workspace only if the credential is a code. -/
def Resolves (db : Database) (sessionId : String) (codes : List String) (raw : String)
    (end? : Except Stop Identity) (after : Server) : Prop :=
  Standing db sessionId codes after.database ∧
    ∀ identity, end? = .ok identity → ∃ user, IdentityOf db sessionId user identity ∧
      (identity.workspaceId = none ∨ raw ∈ codes)

section
variable {db current : Database} {sessionId : String} {codes : List String}

namespace Standing

theorem users_eq (h : Standing db sessionId codes current) : current.users = db.users := by
  obtain ⟨sessions, table, rfl⟩ := h.frame
  rfl

theorem dapps_eq (h : Standing db sessionId codes current) : current.dapps = db.dapps := by
  obtain ⟨sessions, table, rfl⟩ := h.frame
  rfl

theorem keeps {deeds : List Deed} (h : Standing db sessionId codes current)
    (hkeeps : Keeps deeds db) :
    Keeps deeds current := by
  obtain ⟨sessions, table, rfl⟩ := h.frame
  exact hkeeps.congr rfl rfl

/-- A call that leaves the issued codes as codes of the user keeps things
standing. -/
theorem call (h : Standing db sessionId codes current) {c : Call} {answer : c.Answer}
    {database : Database} (hrun : c.run current = .ok (answer, database))
    (hissued : ∀ text ∈ codes, ∃ user code, IsCodeOf db sessionId database.codes text user code) :
    Standing db sessionId codes database := by
  obtain ⟨sessions, table, rfl⟩ := h.frame
  obtain ⟨sessions', table', rfl⟩ := Call.frame_of_run hrun
  exact ⟨⟨sessions', table', rfl⟩, hissued⟩

theorem call_leaving (h : Standing db sessionId codes current) {c : Call} {answer : c.Answer}
    {database : Database} (hleaves : c.writesCodes = false)
    (hrun : c.run current = .ok (answer, database)) : Standing db sessionId codes database := by
  refine h.call hrun ?_
  rw [Call.codes_of_run hleaves hrun]
  exact h.issued

/-- An operation that leaves the codes alone keeps things standing. -/
theorem ensures {α : Type} {flow : Flow α} {server : Server}
    (h : Standing db sessionId codes server.database) (hleaves : flow.LeavesCodes) :
    flow.Ensures (fun _ after => Standing db sessionId codes after.database) server := by
  induction flow generalizing server with
  | done | stop => exact h
  | step s next failed ih _ =>
    obtain ⟨hstep, hnext⟩ := hleaves
    cases s with
    | call c =>
      exact ⟨fun _ => h, fun answer database hrun =>
        ih answer (h.call_leaving hstep hrun) (hnext answer)⟩
    | readClock => exact ⟨fun now _ => ih now h (hnext now), fun _ => h⟩
    | lookUp | peek | remember | forget | listStale | drawId | lock | unlock =>
      exact ih _ h (hnext _)

/-- A new code of the user is one more of the issued codes. -/
theorem insert (h : Standing db sessionId codes current) {user : User} {issued : RecoverCode}
    (hbound : Bound db sessionId user) (howner : issued.ownerId = user.id)
    (hplain : issued.metadata.Plain 2) (hbears : ∃ n, Bears issued.code n) :
    Standing db sessionId (issued.code :: codes)
      { current with codes := current.codes.write RecoverCode.form issued.code issued } := by
  obtain ⟨sessions, table, rfl⟩ := h.frame
  refine ⟨⟨sessions, _, rfl⟩, ?_⟩
  intro text hmem
  by_cases htext : text = issued.code
  · subst htext
    exact ⟨user, issued, hbears, Table.get?_write_self _ _ _, hplain, hbound, howner⟩
  · -- The rows of the other codes are as before.
    obtain ⟨owner, code, hcode⟩ := h.issued text ((List.mem_cons.1 hmem).resolve_left htext)
    exact ⟨owner, code, hcode.write htext issued⟩

theorem of_cons {text : String} (h : Standing db sessionId (text :: codes) current) :
    Standing db sessionId codes current :=
  ⟨h.frame, fun other hmem => h.issued other (List.mem_cons_of_mem _ hmem)⟩

/-- A use of a code that is accepted leaves it a code of the user. -/
theorem consume (h : Standing db sessionId codes current) {text : String} (hmem : text ∈ codes)
    {kind : CodeKind} {maxUses : UInt32} {time : Timestamp} {use : CodeUse} {database : Database}
    (hrun : (Call.consumeCode text kind maxUses time).run current = .ok (use, database)) :
    Standing db sessionId codes database ∧ ∀ used, use = .consumed used →
      ∃ user, Bound db sessionId user ∧ used.ownerId = user.id := by
  obtain ⟨user, code, hcode⟩ := h.issued text hmem
  have hfind := Table.find_of_get? hcode.row (RecoverCode.decode_encode hcode.plain (by decide))
  rcases Call.of_run_consumeCode hrun with
    ⟨record, used, hfound, -, -, huse, rfl, rfl⟩ | ⟨hnot, rfl⟩
  · -- The use is counted, and all else is as it was.
    obtain rfl : record = code := by
      rw [hfind] at hfound
      exact (Option.some.inj (Except.ok.inj hfound)).symm
    obtain ⟨-, rfl⟩ := RecoverCode.recordUse?_eq_some_iff.1 huse
    refine ⟨h.call hrun ?_, ?_⟩
    · intro other hother
      by_cases htext : other = text
      · subst htext
        exact ⟨user, _, hcode.bears, Table.get?_write_self _ _ _, hcode.plain, hcode.bound,
          hcode.owner⟩
      · obtain ⟨owner, code, hcode⟩ := h.issued other hother
        exact ⟨owner, code, hcode.write htext _⟩
    · rintro _ ⟨⟩
      exact ⟨user, hcode.bound, hcode.owner⟩
  · exact ⟨h, fun used heq => absurd heq (hnot used)⟩

end Standing

/-! ### Who is served -/

variable {deeds : List Deed} {server : Server} {raw : String}

namespace Resolves

/-- Who is refused is not resolved. -/
theorem refused (h : Standing db sessionId codes server.database) (why : Stop) :
    Resolves db sessionId codes raw (.error why) server :=
  ⟨h, fun _ hend => by cases hend⟩

/-- A connector credential stands for the user, in no workspace. -/
theorem connector (h : Standing db sessionId codes server.database) :
    (Credential.resolveConnector (connectorMark ++ sessionId)).Ensures
      (Resolves db sessionId codes raw) server := by
  unfold Credential.resolveConnector
  rw [connectorSession_append]
  show Flow.Ensures _ (if sessionId = "" then _ else _) _
  split
  · exact refused h _
  refine ⟨fun why => refused h why, ?_⟩
  intro dapp database hrun
  obtain ⟨hdapp, rfl⟩ := Call.lookedUp_iff.1 hrun
  cases dapp with
  | none => exact refused h _
  | some dapp =>
    refine ⟨fun why => refused h why, ?_⟩
    intro user database hrun
    obtain ⟨huser, rfl⟩ := Call.lookedUp_iff.1 hrun
    cases user with
    | none => exact refused h _
    | some user =>
      refine ⟨h, ?_⟩
      rintro _ ⟨⟩
      refine ⟨user, ⟨⟨dapp, ?_, ?_⟩, rfl, nofun⟩, .inl rfl⟩
      · rwa [← h.dapps_eq]
      · rwa [← h.users_eq]

/-- A code stands for its owner, at work in the owner's own workspace. -/
theorem code (hkeeps : Keeps deeds db) (hkeyed : db.UsersKeyed)
    (h : Standing db sessionId codes server.database) (hmem : raw ∈ codes) (maxUses : UInt32) :
    (Credential.resolveCode maxUses raw).Ensures (Resolves db sessionId codes raw) server := by
  refine ⟨?_, fun _ => refused h _⟩
  intro now _
  refine ⟨fun why => refused h why, ?_⟩
  intro use database hrun
  obtain ⟨h, howner⟩ := h.consume hmem hrun
  cases use with
  | rejected | notFound => exact refused h _
  | consumed used =>
    obtain ⟨user, hbound, howner⟩ := howner used rfl
    refine ⟨fun why => refused h why, ?_⟩
    intro owner database hrun
    obtain ⟨hfound, rfl⟩ := Call.lookedUp_iff.1 hrun
    cases owner with
    | none => exact refused h _
    | some owner =>
      -- The owner of the code is the user, as both stand under one id.
      have hsame : owner = user := by
        have huser := hbound.findUser hkeyed
        rw [← h.users_eq, ← howner, hfound] at huser
        cases huser
        rfl
      subst hsame
      refine ⟨fun why => refused h why, ?_⟩
      intro workspace database hrun
      obtain ⟨hworkspace, rfl⟩ := Call.lookedUp_iff.1 hrun
      refine ⟨h, ?_⟩
      rintro _ ⟨⟩
      refine ⟨owner, ⟨hbound, rfl, ?_⟩, .inr hmem⟩
      intro home hhome
      cases workspace with
      | none => cases hhome
      | some w =>
        cases hhome
        exact (h.keeps hkeeps).id_of_find hworkspace

/-- Whichever credential of the connector is presented, it is resolved as
is said. -/
theorem authenticate (hkeeps : Keeps deeds db) (hkeyed : db.UsersKeyed)
    (h : Standing db sessionId codes server.database)
    (hraw : raw = connectorMark ++ sessionId ∨ raw ∈ codes) (service : Service)
    (context : RequestContext) :
    (service.authenticate raw context).Ensures (Resolves db sessionId codes raw) server := by
  unfold Service.authenticate
  split
  · exact refused h _
  rcases hraw with rfl | hmem
  · rw [CredentialKind.of_connector]
    exact connector h
  · obtain ⟨user, record, hrecord⟩ := h.issued raw hmem
    obtain ⟨n, hbears⟩ := hrecord.bears
    rcases CredentialKind.of_bears hbears with hkind | hkind
    · rw [hkind]
      exact code hkeeps hkeyed h hmem service.maxUses
    · rw [hkind]
      -- A code for some routes is one that may be refused in the end.
      refine (Flow.ensures_bind _ _ _).2 ((code hkeeps hkeyed h hmem service.maxUses).mono ?_)
      intro end? after hend
      cases end? with
      | error why => exact refused hend.1 why
      | ok identity =>
        show Flow.Ensures _ (if service.routes.any (·.admits context) = true then _ else _) _
        split
        · exact hend
        · exact refused hend.1 _

end Resolves

/-- A code is issued as one of the user, or the codes are as before. -/
def Issues (db : Database) (sessionId : String) (codes : List String)
    (end? : Except Stop RecoverCode) (after : Server) : Prop :=
  Standing db sessionId codes after.database ∧
    ∀ issued : RecoverCode, end? = .ok issued →
      Standing db sessionId (issued.code :: codes) after.database

/-- A code that is requested for the user is issued as one of the user. -/
theorem Issues.requestCode (h : Standing db sessionId codes server.database) {user : User}
    (hbound : Bound db sessionId user) {identity : Identity} (hid : identity.userId = user.id)
    (service : Service) (origin : String) (cli : Bool) :
    (service.requestCode identity origin cli).Ensures (Issues db sessionId codes) server := by
  have hstop (why : Stop) : Issues db sessionId codes (.error why) server :=
    ⟨h, fun _ hend => by cases hend⟩
  refine ⟨?_, fun _ => hstop _⟩
  intro now _
  show ((Flow.inCalendar (now.add? service.codeTtl)).bind _).Ensures _ _
  cases now.add? service.codeTtl with
  | none => exact hstop _
  | some validAt =>
    -- Two numbers are drawn, and the text of the code bears the second one.
    have hissues {issued : RecoverCode} {after : Server}
        (hissued : Standing db sessionId (issued.code :: codes) after.database) :
        Issues db sessionId codes (.ok issued) after := by
      refine ⟨hissued.of_cons, ?_⟩
      rintro _ ⟨⟩
      exact hissued
    refine ⟨fun why => hstop why, ?_⟩
    rintro _ database ⟨⟩
    exact hissues (h.insert hbound hid (Service.plain_uses cli) ⟨_, bears_marked cli _⟩)

end

/-! ### The chain as a whole -/

/-- The user of the connector may pass the check, at work in the user's own
workspace. -/
def Entitled (history : History) (sessionId : String) (check : Check) : Prop :=
  ∃ user, Bound history.server.database sessionId user ∧
    check.Allowed history.deeds user.defaultWorkspaceId user.id

/-- What holds after every request: the issued codes are codes of the user,
and who passed a check presented one of them and was entitled to pass. -/
structure Sound (history : History) (sessionId : String) (chain : Chain) : Prop where
  standing : Standing history.server.database sessionId chain.codes chain.server.database
  passed : ∀ raw check, (raw, check) ∈ chain.passed →
    raw ∈ chain.codes ∧ Entitled history sessionId check

namespace Sound

variable {history : History} {sessionId raw : String} {chain : Chain} {identity : Identity}
  {user : User}

theorem start (history : History) (sessionId : String) :
    Sound history sessionId (.start history.server) where
  standing := ⟨⟨_, _, rfl⟩, nofun⟩
  passed := nofun

/-- Whoever is served is the user. -/
theorem enter (hkeeps : Keeps history.deeds history.server.database)
    (hkeyed : history.server.database.UsersKeyed) (h : Sound history sessionId chain)
    (hraw : raw = connectorMark ++ sessionId ∨ raw ∈ chain.codes) (service : Service)
    (visit : Visit) {serve : Identity → Chain → Chain}
    (hserve : ∀ user identity server, Sound history sessionId { chain with server } →
      IdentityOf history.server.database sessionId user identity →
      (identity.workspaceId = none ∨ raw ∈ chain.codes) →
      Sound history sessionId (serve identity { chain with server })) :
    Sound history sessionId (chain.enter service visit raw serve) := by
  have hends := (Resolves.authenticate hkeeps hkeyed h.standing hraw service visit.context).perform
    (service.failStop_authenticate raw visit.context) (fun _ _ _ hend => ⟨hend.1, hend.2⟩)
    visit.authentication.clear visit.authentication.limit
  unfold Chain.enter Conditions.perform
  split
  next identity server heq =>
    rw [heq] at hends
    obtain ⟨hstanding, hresolved⟩ := hends
    obtain ⟨user, hidentity, hcode⟩ := hresolved identity rfl
    exact hserve user identity server ⟨hstanding, h.passed⟩ hidentity hcode
  next heq =>
    rw [heq] at hends
    exact ⟨hends.1, h.passed⟩

/-- Who passes a check is entitled to. -/
theorem checked (hkeeps : Keeps history.deeds history.server.database)
    (h : Sound history sessionId chain)
    (hidentity : IdentityOf history.server.database sessionId user identity)
    (hcode : identity.workspaceId = none ∨ raw ∈ chain.codes) (conditions : Conditions)
    (check : Check) : Sound history sessionId (chain.checked conditions raw check identity) := by
  have hends := (h.standing.ensures (check.leavesCodes identity)).perform
    (check.failStop identity) (fun _ _ _ hend => hend) conditions.clear conditions.limit
  unfold Chain.checked
  split
  next server heq =>
    obtain ⟨workspace, hworkspace, hallowed⟩ := Check.of_passed (h.standing.keeps hkeeps) heq
    rw [Conditions.perform] at heq
    rw [heq] at hends
    refine ⟨hends, ?_⟩
    intro other otherCheck hmem
    rcases List.mem_cons.1 hmem with hnew | hold
    · cases hnew
      -- Without a workspace no check passes, so it was a code that was presented.
      refine ⟨hcode.resolve_left (by simp [hworkspace]), user, hidentity.bound, ?_⟩
      rw [← hidentity.workspace workspace hworkspace]
      rwa [Identity.userId, hidentity.snapshot] at hallowed
    · exact h.passed other otherCheck hold
  next heq =>
    rw [Conditions.perform] at heq
    rw [heq] at hends
    exact ⟨hends, h.passed⟩

/-- A code that the user requests is one more of the issued codes. -/
theorem issued (h : Sound history sessionId chain)
    (hidentity : IdentityOf history.server.database sessionId user identity) (service : Service)
    (conditions : Conditions) (origin : String) (cli : Bool) :
    Sound history sessionId (chain.issued service conditions origin cli identity) := by
  have hid : identity.userId = user.id := by
    rw [Identity.userId, hidentity.snapshot]
    rfl
  have hends := (Issues.requestCode h.standing hidentity.bound hid service origin cli).perform
    (service.failStop_requestCode identity origin cli)
    (fun _ _ _ hend => ⟨hend.1, fun _ hok => by cases hok⟩) conditions.clear conditions.limit
  unfold Chain.issued Conditions.perform
  split
  next code server heq =>
    rw [heq] at hends
    refine ⟨hends.2 code rfl, ?_⟩
    intro other check hmem
    obtain ⟨hcode, hentitled⟩ := h.passed other check hmem
    exact ⟨List.mem_cons_of_mem _ hcode, hentitled⟩
  next heq =>
    rw [heq] at hends
    exact ⟨hends.1, h.passed⟩

/-- Every request keeps it. -/
theorem next (hkeeps : Keeps history.deeds history.server.database)
    (hkeyed : history.server.database.UsersKeyed) (h : Sound history sessionId chain)
    (service : Service) (visit : Visit) :
    Sound history sessionId (chain.next service sessionId visit) := by
  have hraw := chain.presented sessionId visit.code
  have hwaited : Sound history sessionId
      { chain with server := chain.server.advance visit.wait } := ⟨h.standing, h.passed⟩
  unfold Chain.next
  dsimp only
  split
  next =>
    exact hwaited.enter hkeeps hkeyed hraw service visit fun _ _ _ hserved _ _ => hserved
  next check _ =>
    exact hwaited.enter hkeeps hkeyed hraw service visit fun _ _ _ hserved hidentity hcode =>
      hserved.checked hkeeps hidentity hcode visit.operation check
  next origin cli _ =>
    exact hwaited.enter hkeeps hkeyed hraw service visit fun _ _ _ hserved hidentity _ =>
      hserved.issued hidentity service visit.operation origin cli
  next =>
    have hleaves : (Service.signOut (chain.credential sessionId visit.code)).LeavesCodes :=
      (SessionStore.leavesCodes_remove _).bind fun _ => trivial
    exact ⟨(hwaited.standing.ensures hleaves).perform (Service.failStop_signOut _)
      (fun _ _ _ hend => hend) visit.operation.clear visit.operation.limit, h.passed⟩

/-- All requests together keep it. -/
theorem after (hkeeps : Keeps history.deeds history.server.database)
    (hkeyed : history.server.database.UsersKeyed) (service : Service) (visits : List Visit)
    {chain : Chain} (h : Sound history sessionId chain) :
    Sound history sessionId (chain.after service sessionId visits) := by
  induction visits generalizing chain with
  | nil => exact h
  | cons visit visits ih => exact ih (h.next hkeeps hkeyed service visit)

end Sound

/-! ### A way in -/

/-- A code for any route that has just been issued to the user. -/
structure Fresh (current : Database) (now : Instant) (user : User) (issued : RecoverCode) :
    Prop where
  kind : issued.kind = .oneTime
  text : ∃ rest, issued.code = codeMark ++ rest
  row : current.codes.get? issued.code = some (RecoverCode.form.encode issued)
  plain : issued.metadata.Plain 2
  owner : issued.ownerId = user.id
  usable : issued.isUsable now = true
  unused : issued.usesCount = 0

section
variable {server : Server} {sessionId : String} {user : User} {now : Instant} {service : Service}

/-- The connector of the user gets to be known. -/
theorem yields_connector (service : Service) (hsession : sessionId ≠ "")
    (hbound : Bound server.database sessionId user) (context : RequestContext) :
    (service.authenticate (connectorMark ++ sessionId) context).Yields
      (fun identity after => identity.userId = user.id ∧ after = server) server := by
  obtain ⟨dapp, hdapp, huser⟩ := hbound
  have hfindDapp : (Call.findDapp sessionId).run server.database =
    .ok (some dapp, server.database) :=
    Call.lookedUp_iff.2 ⟨hdapp, rfl⟩
  have hfindUser : (Call.findUser dapp.userId).run server.database =
    .ok (some user, server.database) :=
    Call.lookedUp_iff.2 ⟨huser, rfl⟩
  unfold Service.authenticate
  rw [isBlankText_append rfl (by decide), CredentialKind.of_connector]
  show (Credential.resolveConnector _).Yields _ _
  unfold Credential.resolveConnector
  rw [connectorSession_append]
  show Flow.Yields _ (if sessionId = "" then _ else _) _
  rw [if_neg hsession]
  exact .call hfindDapp (.call hfindUser ⟨rfl, rfl⟩)

/-- A code that the user requests is fresh, and bears the second of the
numbers that are drawn for it. -/
theorem yields_requestCode (hnow : server.now? = some now) (httl : 0 < service.codeTtl)
    {validAt : Instant} (hvalid : now.add? service.codeTtl = some validAt) {identity : Identity}
    (hid : identity.userId = user.id) (origin : String) :
    (service.requestCode identity origin false).Yields
      (fun issued after => Fresh after.database now user issued ∧ after.clock = server.clock ∧
        issued.code = codeMark ++ SerialId.plain (server.idsDrawn + 2)) server := by
  refine .readClock hnow ?_
  show ((Flow.inCalendar (now.add? service.codeTtl)).bind _).Yields _ _
  rw [hvalid]
  refine .drawId (.drawId (.call rfl ⟨⟨rfl, ⟨_, rfl⟩, Table.get?_write_self _ _ _,
    Service.plain_uses false, hid, ?_, rfl⟩, rfl, rfl⟩))
  have hlater := Timestamp.ofInstant_lt_of_add? hvalid httl
  simpa [RecoverCode.isUsable] using hlater

/-- Who presents a fresh code is known as its owner, at work in the owner's
own workspace. -/
theorem yields_code (service : Service) {issued : RecoverCode} (hnow : server.now? = some now)
    (hfresh : Fresh server.database now user issued)
    (huser : server.database.users.find User.form user.id = .ok (some user)) {w : Workspace}
    (hworkspace : server.database.findWorkspace user.defaultWorkspaceId = .ok (some w))
    (context : RequestContext) :
    (service.authenticate issued.code context).Yields
      (fun identity after => identity.userId = user.id ∧ identity.workspaceId = some w.id ∧
        ∃ codes, after.database = { server.database with codes }) server := by
  obtain ⟨rest, htext⟩ := hfresh.text
  -- A code that was never used can be used once at least.
  obtain ⟨used, huse⟩ : ∃ used, issued.recordUse? service.maxUses = some used := by
    unfold RecoverCode.recordUse?
    rw [hfresh.unused, if_pos (by decide)]
    exact ⟨_, rfl⟩
  have howner : used.ownerId = user.id := by
    rw [(RecoverCode.recordUse?_eq_some_iff.1 huse).2]
    exact hfresh.owner
  have hfind := Table.find_of_get? hfresh.row (RecoverCode.decode_encode hfresh.plain (by decide))
  have hconsume := Call.run_consumeCode_consumed hfind hfresh.kind hfresh.usable huse
  have hblank : Text.isBlankText issued.code = false := by
    rw [htext]
    exact isBlankText_append rfl (by decide) rest
  have hkind : CredentialKind.of issued.code = .code := by
    rw [htext]
    exact CredentialKind.of_code rest
  have hfindUser (codes : Table) : (Call.findUser used.ownerId).run { server.database with codes } =
      .ok (some user, { server.database with codes }) :=
    Call.lookedUp_iff.2 ⟨by rwa [howner], rfl⟩
  have hfindWorkspace (codes : Table) :
      (Call.findWorkspace user.defaultWorkspaceId).run { server.database with codes } =
        .ok (some w, { server.database with codes }) :=
    Call.lookedUp_iff.2 ⟨hworkspace, rfl⟩
  unfold Service.authenticate
  rw [hblank, hkind]
  exact .readClock hnow
    (.call hconsume (.call (hfindUser _) (.call (hfindWorkspace _) ⟨rfl, rfl, _, rfl⟩)))

/-- A request that is served at once and without disturbance. -/
def Visit.undisturbed (code : Option Nat) (wish : Wish) : Visit :=
  ⟨code, default, 0, wish, .fair, .fair⟩

/-- The connector is given a fresh code of the user. -/
theorem next_requestCode (hsession : sessionId ≠ "") (httl : 0 < service.codeTtl)
    (hnow : server.now? = some now) {validAt : Instant}
    (hvalid : now.add? service.codeTtl = some validAt)
    (hbound : Bound server.database sessionId user) :
    ∃ issued after, (Chain.start server).next service sessionId
        (.undisturbed none (.requestCode "" false)) = ⟨after, [issued.code], []⟩ ∧
      Fresh after.database now user issued ∧ after.now? = some now ∧
      ∃ sessions codes, after.database = { server.database with sessions, codes } := by
  obtain ⟨identity, hknown, hid, hsame⟩ :=
    (yields_connector service hsession hbound default).perform
  obtain ⟨issued, hissued, hfresh, hclock, -⟩ :=
    (yields_requestCode hnow httl hvalid hid "").perform
  have hfirst : server.perform .fair none
      (service.authenticate (connectorMark ++ sessionId) default) = (.ok identity, server) :=
    Prod.ext hknown hsame
  have hsecond : server.perform .fair none (service.requestCode identity "" false) =
      (.ok issued, (server.perform .fair none (service.requestCode identity "" false)).2) :=
    Prod.ext hissued rfl
  refine ⟨issued, _, ?_, hfresh, ?_, server.frame_of_perform _ _ _⟩
  · simp only [Chain.next, Visit.undisturbed, Chain.start, Chain.credential, Server.advance_zero,
      Chain.enter, Conditions.perform, Conditions.fair, hfirst, Chain.issued]
    rw [hsecond]
  · unfold Server.now?
    rwa [hclock]

/-- Who presents a fresh code of the user passes the checks that the user
may pass at home. -/
theorem next_check {deeds : List Deed} (hkeeps : Keeps deeds server.database) {issued : RecoverCode}
    (hnow : server.now? = some now) (hfresh : Fresh server.database now user issued)
    (huser : server.database.users.find User.form user.id = .ok (some user)) {check : Check}
    (hallowed : check.Allowed deeds user.defaultWorkspaceId user.id) :
    (issued.code, check) ∈ ((Chain.mk server [issued.code] []).next service sessionId
      (.undisturbed (some 0) (.check check))).passed := by
  obtain ⟨w, hworkspace⟩ := hkeeps.find_of_member hallowed.member
  obtain ⟨identity, hknown, hid, hhome, codes, hcodes⟩ :=
    (yields_code service hnow hfresh huser hworkspace default).perform
  generalize hafter : (server.perform .fair none (service.authenticate issued.code default)).2 =
    after at hcodes
  have hfirst : server.perform .fair none (service.authenticate issued.code default) =
      (.ok identity, after) := Prod.ext hknown hafter
  have hkept : Keeps deeds after.database := by
    rw [hcodes]
    exact hkeeps.congr rfl rfl
  have hpasses : (after.perform .fair none (check.flow identity)).1 = .ok () := by
    refine ((check.passes hkept identity).perform fun _ => 0).2 ⟨w.id, hhome, ?_⟩
    rwa [hid, hkeeps.id_of_find hworkspace]
  have hsecond : after.perform .fair none (check.flow identity) =
      (.ok (), (after.perform .fair none (check.flow identity)).2) := Prod.ext hpasses rfl
  simp only [Chain.next, Visit.undisturbed, Chain.credential, Server.advance_zero, Chain.enter,
    Conditions.perform, Conditions.fair, List.getElem?_cons_zero, Option.getD_some, hfirst,
    Chain.checked]
  rw [hsecond]
  exact List.mem_singleton_self _

end

/-- The connector requests a code and goes through the check with it. -/
def wayIn (check : Check) : List Visit :=
  [.undisturbed none (.requestCode "" false), .undisturbed (some 0) (.check check)]

/-- Who is entitled to pass a check gets through with two requests. -/
theorem passes_wayIn {history : History} (hkeeps : Keeps history.deeds history.server.database)
    (hkeyed : history.server.database.UsersKeyed) {service : Service} {sessionId : String}
    (hsession : sessionId ≠ "") (httl : 0 < service.codeTtl) {now validAt : Instant}
    (hnow : history.server.now? = some now) (hvalid : now.add? service.codeTtl = some validAt)
    {check : Check} (hentitled : Entitled history sessionId check) :
    ∃ raw, (raw, check) ∈
      ((Chain.start history.server).after service sessionId (wayIn check)).passed := by
  obtain ⟨user, hbound, hallowed⟩ := hentitled
  obtain ⟨issued, after, hfirst, hfresh, hnow, sessions, codes, hframe⟩ :=
    next_requestCode hsession httl hnow hvalid hbound
  refine ⟨issued.code, ?_⟩
  unfold Chain.after wayIn
  rw [List.foldl_cons, hfirst]
  refine next_check ?_ hnow hfresh ?_ hallowed
  · rw [hframe]
    exact hkeeps.congr rfl rfl
  · rw [hframe]
    exact hbound.findUser hkeyed

/-- Whatever happened before, no credential of a connector itself passes a
check, and no code that is issued to the connector passes one that its user
may not pass in the user's own workspace. But as long as codes can be
issued, the connector passes all of those with a code that it requests
first. -/
theorem reaches_own_workspace (service : Service) (capacity : Nat) (clock : Int) (acts : List Act)
    (sessionId : String) :
    let history := History.ofActs capacity clock acts
    let passed (visits : List Visit) :=
      ((Chain.start history.server).after service sessionId visits).passed
    (∀ visits raw check, (raw, check) ∈ passed visits →
      raw ≠ connectorMark ++ sessionId ∧ Entitled history sessionId check) ∧
    (sessionId ≠ "" → 0 < service.codeTtl →
      (∃ now validAt, history.server.now? = some now ∧ now.add? service.codeTtl = some validAt) →
      ∀ check, Entitled history sessionId check → ∃ raw, (raw, check) ∈ passed (wayIn check)) := by
  intro history passed
  have hkeeps : Keeps history.deeds history.server.database := History.keeps_ofActs _ _ _
  have hkeyed : history.server.database.UsersKeyed := History.usersKeyed_ofActs _ _ _
  constructor
  · intro visits raw check hmem
    have hsound := Sound.after hkeeps hkeyed service visits (.start history sessionId)
    obtain ⟨hissued, hentitled⟩ := hsound.passed raw check hmem
    refine ⟨?_, hentitled⟩
    -- It was a code, and a code does not begin as a connector credential does.
    rintro rfl
    obtain ⟨user, code, hcode⟩ := hsound.standing.issued _ hissued
    obtain ⟨n, hbears⟩ := hcode.bears
    have hkind := CredentialKind.of_bears hbears
    rw [CredentialKind.of_connector] at hkind
    rcases hkind with hkind | hkind <;> cases hkind
  · rintro hsession httl ⟨now, validAt, hnow, hvalid⟩ check hentitled
    exact passes_wayIn hkeeps hkeyed hsession httl hnow hvalid hentitled

/-- Ann, with a workspace of her own. -/
def ann : User := { (default : User) with id := "ann", defaultWorkspaceId := "w" }

/-- The tie of a dapp to Ann. -/
def annsDapp : DappBinding := { (default : DappBinding) with sessionId := "s", userId := "ann" }

/-- A history in which Ann makes a workspace and connects a dapp. -/
def annsHistory : History :=
  .ofActs 1 0 [.create "w" "Main" "ann" true .epoch, .putUser ann, .putDapp annsDapp]

theorem bound_ann : Bound annsHistory.server.database "s" ann :=
  ⟨annsDapp, Table.find_of_get? (Table.get?_write_self _ _ _) (DappBinding.decode_encode _),
    Table.find_of_get? (Table.get?_write_self _ _ _) (User.decode_encode _)⟩

/-- Ann owns her workspace, so she may list its vaults. -/
theorem entitled_ann : Entitled annsHistory "s" (.workspace Role.all) := by
  refine ⟨ann, bound_ann, .inl rfl, .inr ⟨.owner, by decide, .inl ⟨rfl, rfl, ?_⟩⟩⟩
  trivial

theorem reaches_own_workspace_of_ann :
    ∃ raw, (raw, .workspace Role.all) ∈ ((Chain.start annsHistory.server).after
      (.ofSettings {} none) "s" (wayIn (.workspace Role.all))).passed ∧
        raw ≠ connectorMark ++ "s" := by
  have hreaches := reaches_own_workspace (.ofSettings {} none) 1 0
    [.create "w" "Main" "ann" true .epoch, .putUser ann, .putDapp annsDapp] "s"
  obtain ⟨raw, hmem⟩ := hreaches.2 (by decide) (by decide) ⟨_, _, rfl, rfl⟩ _ entitled_ann
  exact ⟨raw, hmem, (hreaches.1 _ _ _ hmem).1⟩

/-- The dapp of Ann may not do anything in her workspace, but it may list
the vaults there with a code that it requests. -/
theorem code_of_connector_passes :
    Bound annsHistory.server.database "s" ann ∧
      ∃ raw, (raw, .workspace Role.all) ∈ ((Chain.start annsHistory.server).after
        (.ofSettings {} none) "s"
        [.undisturbed none (.requestCode "" false),
          .undisturbed (some 0) (.check (.workspace Role.all))]).passed :=
  ⟨bound_ann, passes_wayIn (History.keeps_ofActs _ _ _) (History.usersKeyed_ofActs _ _ _)
    (by decide) (by decide) rfl rfl entitled_ann⟩

end Connector

end Gatekeeper

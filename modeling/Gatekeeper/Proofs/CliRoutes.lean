import Gatekeeper.Proofs.SignIn
import Gatekeeper.Proofs.Text.Parts

/-!
# `Gatekeeper.Proofs.CliRoutes`: where a code for some routes gets

`Opens text context` says which requests a list of routes is meant for, in
terms of the text alone: the parts between its commas, the first space of a
part, and the blanks around both. `mem_parseList_iff` says the same of the
routes that are read from the text, and so the two agree
(`any_admits_parseList`). A route that is read has a method and a path
(`Written.ne_empty`); a route with an empty path would be in every path.

The code is used up before the routes are looked at. Whether it passes is
told by the routes alone (`undisturbed_resolveCli`), and so it is after
everything that can have happened before (`perform_authenticate_cli`).
`cli_confined` is the main result.
-/

set_option autoImplicit false

namespace Gatekeeper

namespace CliRoute

/-- An entry says a route: without the blanks around it, it is the method,
up to its first space, and then the path with blanks around. -/
def Written (entry : List Char) (route : CliRoute) : Prop :=
  ∃ rest, Text.Trimmed (route.method.toList ++ ' ' :: rest) entry ∧
    ' ' ∉ route.method.toList ∧ Text.Trimmed route.path.toList rest

/-- Some entry of the text is meant for the request: it says the method of
the request and a part of its path. -/
def Opens (text : String) (context : RequestContext) : Prop :=
  ∃ entry ∈ text.toList.splitOn ',', ∃ rest part,
    Text.Trimmed (context.method.toList ++ ' ' :: rest) entry ∧
    ' ' ∉ context.method.toList ∧ Text.Trimmed part rest ∧ part <:+: context.path.toList

/-! ### The routes in a text -/

/-- The route that stands in a part of a text, if there is one. -/
def read? (entry : List Char) : Option CliRoute :=
  let entry := Text.trimChars entry
  if entry.isEmpty then none else parse? entry

theorem parseList_eq (text : String) :
    parseList text = (text.toList.splitOn ',').filterMap read? := by
  unfold parseList
  rw [Text.split_eq_splitOn]
  rfl

/-- The route that is read is the one that the entry says. -/
theorem read?_eq_some_iff {entry : List Char} {route : CliRoute} :
    read? entry = some route ↔ route.Written entry := by
  have hcore := (Text.trimmed_trimChars entry).trimChars_core
  unfold read? parse?
  dsimp only
  rw [hcore]
  constructor
  · intro h
    split at h
    · cases h
    · obtain ⟨⟨method, path⟩, hsplit, hroute⟩ := Option.map_eq_some_iff.1 h
      cases hroute
      obtain ⟨hspace, htrim⟩ := Text.splitOnce_eq_some_iff.1 hsplit
      refine ⟨path, ?_, ?_, ?_⟩
      · rw [String.toList_ofList]
        exact Text.trimChars_eq_iff.1 htrim
      · rwa [String.toList_ofList]
      · rw [String.toList_ofList]
        exact Text.trimmed_trimChars path
  · rintro ⟨rest, hentry, hspace, hpath⟩
    rw [hentry.trimChars_eq, Text.splitOnce_eq_some_iff.2 ⟨hspace, rfl⟩, Option.map_some,
      hpath.trimChars_eq, String.ofList_toList, String.ofList_toList, if_neg]
    simp

/-- The routes that are read are those that the entries say. -/
theorem mem_parseList_iff {text : String} {route : CliRoute} :
    route ∈ parseList text ↔ ∃ entry ∈ text.toList.splitOn ',', route.Written entry := by
  rw [parseList_eq, List.mem_filterMap]
  simp only [read?_eq_some_iff]

/-- A route that is read has a method and a path. -/
theorem Written.ne_empty {entry : List Char} {route : CliRoute} (h : route.Written entry) :
    route.method ≠ "" ∧ route.path ≠ "" := by
  obtain ⟨rest, hentry, -, hpath⟩ := h
  obtain ⟨hmethod, hpart⟩ := hentry.ne_nil_of_blank (by decide) hpath
  exact ⟨fun h => hmethod (by rw [h]; rfl), fun h => hpart (by rw [h]; rfl)⟩

/-- The texts on both sides of a comma are read apart from each other. -/
theorem parseList_append (left right : String) :
    parseList (left ++ "," ++ right) = parseList left ++ parseList right := by
  have htext : (left ++ "," ++ right).toList = left.toList ++ ',' :: right.toList := by
    simp [String.toList_append]
  rw [parseList_eq, htext, List.splitOn_append_cons_self, List.filterMap_append, ← parseList_eq,
    ← parseList_eq]

/-- A text with neither a comma nor a space between other characters has no
route in it. -/
theorem parseList_of_malformed {text : String} (hcomma : ',' ∉ text.toList)
    (hspace : ∀ core, Text.Trimmed core text.toList → ' ' ∉ core) : parseList text = [] := by
  rw [List.eq_nil_iff_forall_not_mem]
  intro route hroute
  obtain ⟨entry, hentry, rest, htrimmed, -⟩ := mem_parseList_iff.1 hroute
  rw [List.splitOn_eq_singleton hcomma, List.mem_singleton] at hentry
  subst hentry
  exact hspace _ htrimmed (by simp)

/-- The routes of a text allow the requests that the text is meant for. -/
theorem any_admits_parseList (text : String) (context : RequestContext) :
    (parseList text).any (·.admits context) = true ↔ Opens text context := by
  rw [List.any_eq_true]
  constructor
  · rintro ⟨route, hroute, hadmits⟩
    obtain ⟨entry, hentry, rest, htrimmed, hspace, hpath⟩ := mem_parseList_iff.1 hroute
    obtain ⟨hmethod, hholds⟩ := Bool.and_eq_true_iff.1 hadmits
    obtain ⟨before, after, hwhole⟩ := Text.holds_iff.1 hholds
    rw [beq_iff_eq] at hmethod
    rw [← hmethod] at htrimmed hspace
    exact ⟨entry, hentry, rest, _, htrimmed, hspace, hpath, before, after, hwhole.symm⟩
  · rintro ⟨entry, hentry, rest, part, htrimmed, hspace, hpart, before, after, hwhole⟩
    refine ⟨⟨context.method, String.ofList part⟩, ?_, ?_⟩
    · refine mem_parseList_iff.2 ⟨entry, hentry, rest, htrimmed, hspace, ?_⟩
      rwa [String.toList_ofList]
    · refine Bool.and_eq_true_iff.2 ⟨beq_self_eq_true _, Text.holds_iff.2 ⟨before, after, ?_⟩⟩
      rw [String.toList_ofList]
      exact hwhole.symm

end CliRoute

/-! ### A code for some routes -/

namespace Credential

variable {server : Server} {raw : String} {code used : RecoverCode} {owner : User}
  {maxUses : UInt32} {found : Option Workspace}

/-- A code that can be used stands for its owner. -/
theorem undisturbed_resolveCode (hcan : server.CanUse raw code)
    (huse : code.recordUse? maxUses = some used)
    (howner : server.database.users.find User.form code.ownerId = .ok (some owner))
    (hworkspace : server.database.findWorkspace owner.defaultWorkspaceId = .ok found) :
    (resolveCode maxUses raw).undisturbed server =
      (.ok ⟨owner.snapshot, found.map (·.toRef), code.network, none⟩,
        { server with
          database.codes := server.database.codes.write RecoverCode.form raw used }) := by
  obtain ⟨hfind, hkind, now, hnow, husable⟩ := hcan
  have hconsume := Call.run_consumeCode_consumed hfind hkind husable huse
  have hused := (RecoverCode.recordUse?_eq_some_iff.1 huse).2
  have hnetwork : used.network = code.network := by rw [hused]
  have hid : used.ownerId = code.ownerId := by rw [hused]
  let spent : Server :=
    { server with database.codes := server.database.codes.write RecoverCode.form raw used }
  have hfindUser : (Call.findUser used.ownerId).run spent.database =
      .ok (some owner, spent.database) :=
    Call.lookedUp_iff.2 ⟨by rwa [hid], rfl⟩
  have hfindWorkspace : (Call.findWorkspace owner.defaultWorkspaceId).run spent.database =
      .ok (found, spent.database) :=
    Call.lookedUp_iff.2 ⟨hworkspace, rfl⟩
  rw [← hnetwork]
  refine (Flow.undisturbed_readClock hnow _ _).trans ?_
  refine (Flow.undisturbed_call hconsume _ _).trans ?_
  show Flow.undisturbed _ spent = _
  refine (Flow.undisturbed_call hfindUser _ _).trans ?_
  show Flow.undisturbed _ spent = _
  exact Flow.undisturbed_call hfindWorkspace _ _

/-- A code for some routes that can be used passes if and only if one of
the routes allows the request. -/
theorem undisturbed_resolveCli (hcan : server.CanUse raw code)
    (huse : code.recordUse? maxUses = some used)
    (howner : server.database.users.find User.form code.ownerId = .ok (some owner))
    (hworkspace : server.database.findWorkspace owner.defaultWorkspaceId = .ok found)
    (routes : List CliRoute) (context : RequestContext) :
    ((resolveCli maxUses routes raw context).undisturbed server).1 =
      if routes.any (·.admits context) then
        .ok ⟨owner.snapshot, found.map (·.toRef), code.network, none⟩
      else .error (.refused .routeNotAvailable) := by
  have hresolved := undisturbed_resolveCode hcan huse howner hworkspace
  have hresolve := Flow.undisturbed_bind_ok hresolved fun identity =>
    if routes.any (·.admits context) then Flow.done identity else Flow.refuse .routeNotAvailable
  show ((Flow.bind (resolveCode maxUses raw) _).undisturbed server).1 = _
  refine (congrArg Prod.fst hresolve).trans ?_
  split <;> rfl

end Credential

namespace Service

/-- Whatever happened before, a code for some routes that can be used passes
if and only if one of the routes allows the request. -/
theorem perform_authenticate_cli (capacity : Nat) (clock : Int) (turns : List Turn)
    (service : Service) {rest : String} {code : RecoverCode} {owner : User}
    (context : RequestContext) {weather : Weather} {limit : Option Nat}
    (hcan : (Course.ofTurns capacity clock turns).server.CanUse (cliMark ++ rest) code)
    (howner : (Course.ofTurns capacity clock turns).server.database.users.find User.form
      code.ownerId = .ok (some owner))
    (hspares : weather.Spares limit {} ((service.authenticate (cliMark ++ rest) context).calls
      (Course.ofTurns capacity clock turns).server)) :
    ∃ identity, ((Course.ofTurns capacity clock turns).server.perform weather limit
        (service.authenticate (cliMark ++ rest) context)).1 =
      if service.routes.any (·.admits context) then .ok identity
      else .error (.refused .routeNotAvailable) := by
  have hsound : (Course.ofTurns capacity clock turns).Sound := .ofTurns capacity clock turns
  have hreadable := Course.readable_ofTurns capacity clock turns
  -- A code that can be used has room for one more use.
  obtain ⟨used, huse⟩ : ∃ used, code.recordUse? service.maxUses = some used := by
    obtain ⟨hfind, -, now, -, husable⟩ := hcan
    obtain ⟨-, issued, usesCount, wasUsed, -, -, rfl, hroom⟩ := hsound.backed.code_of_find hfind
    have hunused := (RecoverCode.isUsable_iff.1 husable).1
    exact ⟨_, RecoverCode.recordUse?_eq_some_iff.2 ⟨hroom hunused, rfl⟩⟩
  -- Whether the owner's workspace is stored makes no difference.
  obtain ⟨found, hworkspace⟩ :=
    Table.exists_find (hreadable .workspaces).decodes owner.defaultWorkspaceId
  have hkind : service.authenticate (cliMark ++ rest) context =
      Credential.resolveCli service.maxUses service.routes (cliMark ++ rest) context := by
    unfold authenticate
    rw [isBlankText_append rfl (by decide) rest, CredentialKind.of_cli]
    rfl
  rw [Flow.perform_fst_of_spares hspares, hkind]
  exact ⟨_, Credential.undisturbed_resolveCli hcan huse howner hworkspace service.routes context⟩

/-- Whatever happened before, a code for some routes gets to where the text
of the routes is meant to let it, and is refused anywhere else. The entries
of the text are read one by one, what is no route is passed over, and no
route has an empty method or an empty path. -/
theorem cli_confined (text : String) :
    (∀ left right, text = left ++ "," ++ right →
      CliRoute.parseList text = CliRoute.parseList left ++ CliRoute.parseList right) ∧
    (',' ∉ text.toList → (∀ core, Text.Trimmed core text.toList → ' ' ∉ core) →
      CliRoute.parseList text = []) ∧
    (∀ route ∈ CliRoute.parseList text, route.method ≠ "" ∧ route.path ≠ "") ∧
    ∀ (capacity : Nat) (clock : Int) (turns : List Turn) (lookup : String → Option String)
      (verifier : Option Verifier) (rest : String) (code : RecoverCode) (owner : User)
      (context : RequestContext) (weather : Weather) (limit : Option Nat),
      let server := (Course.ofTurns capacity clock turns).server
      let service := Service.ofSettings (.ofLookup lookup) verifier
      let asks := service.authenticate (cliMark ++ rest) context
      let answer := (server.perform weather limit asks).1
      let refusal := AuthError.unauthorized .unauthorizedResource
        "Route not available to CLI credentials"
      lookup "CLI_ROUTES" = some text →
      server.CanUse (cliMark ++ rest) code →
      server.database.users.find User.form code.ownerId = .ok (some owner) →
      weather.Spares limit {} (asks.calls server) →
        ((∃ identity, answer = .ok identity) ↔ CliRoute.Opens text context) ∧
        (¬ CliRoute.Opens text context → answer = .error (.refused refusal)) ∧
        (CliRoute.parseList text = [] → answer = .error (.refused refusal)) := by
  refine ⟨?_, CliRoute.parseList_of_malformed, ?_, ?_⟩
  · rintro left right rfl
    exact CliRoute.parseList_append left right
  · intro route hroute
    obtain ⟨entry, -, hwritten⟩ := CliRoute.mem_parseList_iff.1 hroute
    exact hwritten.ne_empty
  intro capacity clock turns lookup verifier rest code owner context weather limit server service
    asks answer refusal hset hcan howner hspares
  obtain ⟨identity, hanswer⟩ : ∃ identity, answer =
      if service.routes.any (·.admits context) then .ok identity else .error (.refused refusal) :=
    perform_authenticate_cli capacity clock turns service context hcan howner hspares
  have hroutes : service.routes = CliRoute.parseList text := by
    show ((lookup "CLI_ROUTES").map CliRoute.parseList).getD CliRoute.defaults = _
    rw [hset]
    rfl
  have hopens := CliRoute.any_admits_parseList text context
  rw [hroutes] at hanswer
  by_cases hany : (CliRoute.parseList text).any (·.admits context) = true
  · rw [if_pos hany] at hanswer
    refine ⟨iff_of_true ⟨identity, hanswer⟩ (hopens.1 hany), ?_, ?_⟩
    · intro hcloses
      exact absurd (hopens.1 hany) hcloses
    · intro hnone
      rw [hnone] at hany
      cases hany
  · rw [if_neg hany] at hanswer
    refine ⟨iff_of_false ?_ (mt hopens.2 hany), fun _ => hanswer, fun _ => hanswer⟩
    rintro ⟨other, hok⟩
    rw [hanswer] at hok
    cases hok

/-! ### Ann at her command line -/

/-- A code for some routes that is requested can be used at once. -/
theorem yields_requestCli {service : Service} {server : Server} {now : Instant}
    (hnow : server.now? = some now) (httl : 0 < service.codeTtl) {validAt : Instant}
    (hvalid : now.add? service.codeTtl = some validAt) (identity : Identity) (origin : String) :
    (service.requestCode identity origin true).Yields
      (fun issued after => after.CanUse issued.code issued ∧ issued.ownerId = identity.userId ∧
        issued.code = cliMark ++ SerialId.plain (server.idsDrawn + 2)) server := by
  have hlater := Timestamp.ofInstant_lt_of_add? hvalid httl
  refine .readClock hnow ?_
  show ((Flow.inCalendar (now.add? service.codeTtl)).bind _).Yields _ _
  rw [hvalid]
  refine .drawId (.drawId (.call rfl ⟨⟨?_, rfl, now, hnow, ?_⟩, rfl, rfl⟩))
  · exact Table.find_of_get? (Table.get?_write_self _ _ _)
      (RecoverCode.decode_encode (Service.plain_uses true) (by decide))
  · simpa [RecoverCode.isUsable] using hlater

/-- Ann gets to be stored, and requests a code for her command line. -/
def commandLineTurns : List Turn :=
  [.putUser Connector.ann,
    .operate (.ofSettings {} none) (.requestCode Course.annsIdentity "" true) .fair]

/-- Ann has a code that she can use. -/
theorem canUse_commandLineTurns : ∃ code,
    let server := (Course.ofTurns 1 0 commandLineTurns).server
    server.CanUse (cliMark ++ SerialId.plain 2) code ∧
      server.database.users.find User.form code.ownerId = .ok (some Connector.ann) := by
  let before := Course.ofTurns 1 0 (commandLineTurns.take 1)
  let requests := Service.requestCode (.ofSettings {} none) Course.annsIdentity "" true
  have hnow : before.server.now? = some .epoch := rfl
  have hrequested : requests.Yields _ before.server :=
    yields_requestCli hnow (by decide) rfl Course.annsIdentity ""
  obtain ⟨code, -, hcan, howned, htext⟩ := hrequested.perform
  obtain ⟨sessions, codes, hframe⟩ := before.server.frame_of_perform .fair none requests
  have hserver : (Course.ofTurns 1 0 commandLineTurns).server =
      (before.server.perform .fair none requests).2 :=
    before.server_operate (.ofSettings {} none) (.requestCode Course.annsIdentity "" true) .fair
  rw [← hserver] at hcan hframe
  have hcode : code.code = cliMark ++ SerialId.plain 2 := htext
  rw [hcode] at hcan
  refine ⟨code, hcan, ?_⟩
  rw [howned, hframe]
  exact Table.find_of_get? (Table.get?_write_self _ _ _) (User.decode_encode _)

/-- The routes are set to reading predicates. The other entries are no
routes. -/
def predicatesOnly (name : String) : Option String :=
  if name = "CLI_ROUTES" then some " GET  /predicate,POST," else none

/-- With her code, Ann reads a predicate and writes none. -/
theorem cli_confined_of_ann :
    let server := (Course.ofTurns 1 0 commandLineTurns).server
    let service := Service.ofSettings (.ofLookup predicatesOnly) none
    let raw := cliMark ++ SerialId.plain 2
    (∃ code, server.CanUse raw code) ∧
    (∃ identity, (server.perform .fair none
      (service.authenticate raw ⟨"GET", "/v1/predicate"⟩)).1 = .ok identity) ∧
    (server.perform .fair none (service.authenticate raw ⟨"POST", "/v1/predicate"⟩)).1 =
      .error (.refused .routeNotAvailable) := by
  obtain ⟨code, hcan, howner⟩ := canUse_commandLineTurns
  -- From here on it does not matter what the turns were.
  generalize commandLineTurns = turns at *
  obtain ⟨-, -, -, hconfined⟩ := cli_confined " GET  /predicate,POST,"
  have hreads := hconfined 1 0 turns predicatesOnly none (SerialId.plain 2) code Connector.ann
    ⟨"GET", "/v1/predicate"⟩ .fair none (if_pos rfl) hcan howner (Flow.spares_fair _ _)
  have hwrites := hconfined 1 0 turns predicatesOnly none (SerialId.plain 2) code Connector.ann
    ⟨"POST", "/v1/predicate"⟩ .fair none (if_pos rfl) hcan howner (Flow.spares_fair _ _)
  refine ⟨⟨code, hcan⟩, hreads.1.2 ?_, hwrites.2.1 ?_⟩
  · exact (CliRoute.any_admits_parseList _ _).1 (by decide +kernel)
  · exact mt (CliRoute.any_admits_parseList _ _).2 (by decide +kernel)

end Service

end Gatekeeper

import Gatekeeper.Http.Handler
import Gatekeeper.Proofs.Separation

/-!
# `Gatekeeper.Proofs.OneUse`: one request, one use

A request to a protected endpoint asks for its sender twice: before
anything else, and then where the endpoint needs it. The credential is
resolved the first time only. What comes then does not even see it:
`Site.serveProtected_anonymous` says that the answer to a sender who is
known is the same without the credential.

So a request uses a code at most once, and it does use the code that it
presents, if the code can be used (`Service.codes_of_authenticate`). What
it does afterwards changes no code that is stored: the only code that it
may write is a new one, which bears a number of its own
(`Service.ensures_keepsCodes_requestCode`). `Site.uses_once` puts these
together.

It speaks of the states that turns lead to. Requests lead to no others, for
a request does nothing but operations of the service (`Site.leads_respond`).
-/

set_option autoImplicit false

namespace Gatekeeper

open Connector (Conditions)

/-! ### Codes that stay -/

/-- Every code that was stored is stored as it was. -/
def Server.KeepsCodes (server after : Server) : Prop :=
  ∀ text row, server.database.codes.get? text = some row →
    after.database.codes.get? text = some row

namespace Flow.LeavesCodes

variable {α : Type} {flow : Flow α} {weather : Weather}

/-- An operation that changes no code leaves the codes as they are, however
far it comes. -/
theorem ensures (h : flow.LeavesCodes) (server : Server) :
    flow.Ensures (fun _ after => after.database.codes = server.database.codes) server := by
  induction flow generalizing server with
  | done | stop => rfl
  | step s next failed ih _ =>
    have hnext {answer : s.Answer} {after : Server}
        (hcodes : after.database.codes = server.database.codes) :
        (next answer).Ensures
          (fun _ last => last.database.codes = server.database.codes) after := by
      rw [← hcodes]
      exact ih answer (h.2 answer) after
    cases s with
    | call c => exact ⟨fun _ => rfl, fun answer database hrun => hnext (Call.codes_of_run h.1 hrun)⟩
    | readClock => exact ⟨fun now _ => hnext rfl, fun _ => rfl⟩
    | lookUp | peek | remember | forget | listStale | drawId | lock | unlock => exact hnext rfl

theorem perform (h : flow.LeavesCodes) (hfail : flow.FailStop) (hclear : weather.Clear)
    (limit : Option Nat) (server : Server) :
    (server.perform weather limit flow).2.database.codes = server.database.codes :=
  (h.ensures server).perform hfail (fun _ _ _ hcodes => hcodes) hclear limit

end Flow.LeavesCodes

/-- Every stored code bears a number that has been drawn. -/
theorem Course.Sound.numbered_of_row {course : Course} (h : course.Sound) {text row : String}
    (hrow : course.server.database.codes.get? text = some row) :
    ∃ n ≤ course.server.idsDrawn, Numbered text n := by
  obtain ⟨_, rfl, ⟨issued, _, _, hissued, -, rfl, -⟩, -⟩ := h.backed.codes text row hrow
  rcases hissued with hmem | ⟨requester, hmem⟩
  · exact h.numbered _ hmem
  · exact h.numbered _ hmem

/-- A new code bears a number of its own, so it takes no other one's
place. -/
theorem Service.ensures_keepsCodes_requestCode (service : Service) {server : Server}
    (hnumbered : ∀ text row, server.database.codes.get? text = some row →
      ∃ n ≤ server.idsDrawn, Numbered text n) (identity : Identity) (origin : String) (cli : Bool) :
    (service.requestCode identity origin cli).Ensures (fun _ after => server.KeepsCodes after)
      server := by
  have hsame : server.KeepsCodes server := fun _ _ hrow => hrow
  refine ⟨fun now _ => ?_, fun _ => hsame⟩
  show Flow.Ensures _ (Flow.bind (Flow.inCalendar (now.add? service.codeTtl)) _) server
  cases now.add? service.codeTtl with
  | none => exact hsame
  | some validAt =>
    refine ⟨fun _ => hsame, fun _ database hrun => ?_⟩
    cases hrun
    intro text row hrow
    refine (Table.get?_write_of_ne _ _ ?_).trans hrow
    -- A row that stood there before would bear the number drawn just now.
    rintro rfl
    obtain ⟨n, hle, hn⟩ := hnumbered _ row hrow
    have := hn.unique (.inr (bears_marked cli (server.idsDrawn + 2)))
    omega

/-- An operation leaves the tables as its run does. -/
theorem Server.database_perform {α : Type} (weather : Weather) (limit : Option Nat) (flow : Flow α)
    (server : Server) : (server.perform weather limit flow).2.database =
      (flow.run weather limit {} server).2.database := by
  unfold perform
  split
  next heq => rw [heq]
  next heq => rw [heq]

section
variable {server : Server} {raw : String} {weather : Weather} {limit : Option Nat}

/-- If the call that uses a code is spared, and no code is changed after it,
the codes are as the call left them. -/
theorem Flow.codes_of_consume {α : Type} (hclear : weather.Clear) {kind : CodeKind}
    {maxUses : UInt32} {now : Instant} (hnow : server.now? = some now)
    (hspares : weather.SparesCall limit {} (.consumeCode raw kind maxUses now)) {use : CodeUse}
    {database : Database}
    (hrun : (Call.consumeCode raw kind maxUses now).run server.database = .ok (use, database))
    {next : Instant → CodeUse → Flow α} {failed : Instant → StoreError → Flow α}
    {unread : StoreError → Flow α} (hleaves : (next now use).LeavesCodes)
    (hfail : (next now use).FailStop) :
    (server.perform weather limit (.step .readClock
      (fun now => .step (.call (.consumeCode raw kind maxUses now)) (next now) (failed now))
      unread)).2.database.codes = database.codes := by
  have hspared : ∀ call ∈ (Step.call (.consumeCode raw kind maxUses now)).call?,
      weather.SparesCall limit {} call := by
    rintro _ ⟨⟩
    exact hspares
  have hclock : Step.readClock.run weather limit {} server = .ok (now, {}, server) := by
    simp only [Step.run, hnow]
  obtain ⟨progress, hcall, -⟩ := Step.run_of_spares hspared server
  rw [Step.undisturbed_call, hrun] at hcall
  rw [Server.database_perform]
  unfold Flow.run
  rw [hclock]
  show (Flow.run weather limit (.step (.call (.consumeCode raw kind maxUses now)) (next now)
    (failed now)) {} server).2.database.codes = _
  unfold Flow.run
  rw [hcall]
  exact (hleaves.ensures { server with database }).run hfail hclear limit progress

/-- A credential that is a code is not blank. -/
theorem isBlankText_of_code (h : CredentialKind.of raw = .code ∨ CredentialKind.of raw = .cli) :
    Text.isBlankText raw = false := by
  have hmarked {mark : String} {c : Char} {cs : List Char} (hmark : mark.toList = c :: cs)
      (hc : Text.isBlank c = false) (hstarts : marked mark raw = true) :
      Text.isBlankText raw = false := by
    obtain ⟨rest, hrest⟩ := Option.isSome_iff_exists.1 hstarts
    rw [Text.strip?_eq_some_iff, hmark] at hrest
    simp [Text.isBlankText, hrest, hc]
  unfold CredentialKind.of at h
  split at h
  next hcli => exact hmarked rfl (by decide) hcli
  next =>
    split at h
    next hcode => exact hmarked rfl (by decide) hcode
    next => split at h <;> rcases h with h | h <;> cases h

/-- A code that can be used is used, if the call that does so is spared. -/
theorem Service.codes_of_authenticate (service : Service) (context : RequestContext)
    (hclear : weather.Clear) (hcode : CredentialKind.of raw = .code ∨ CredentialKind.of raw = .cli)
    {code used : RecoverCode} (hcan : server.CanUse raw code)
    (huse : code.recordUse? service.maxUses = some used)
    (hspares : ∀ now, server.now? = some now →
      weather.SparesCall limit {} (.consumeCode raw .oneTime service.maxUses now)) :
    (server.perform weather limit (service.authenticate raw context)).2.database.codes =
      server.database.codes.write RecoverCode.form raw used := by
  obtain ⟨hfind, hkind, now, hnow, husable⟩ := hcan
  have hrun := Call.run_consumeCode_consumed hfind hkind husable huse
  have hblank := isBlankText_of_code hcode
  -- Afterwards the owner is looked for, and the owner's workspace.
  have hresolve {α : Type} {f : Identity → Flow α} (hleaves : ∀ identity, (f identity).LeavesCodes)
      (hfail : ∀ identity, (f identity).FailStop) :
      (server.perform weather limit
        ((Credential.resolveCode service.maxUses raw).bind f)).2.database.codes =
        server.database.codes.write RecoverCode.form raw used := by
    refine Flow.codes_of_consume hclear hnow (hspares now hnow) hrun ⟨rfl, fun owner => ?_⟩
      ⟨fun owner => ?_, fun _ => rfl⟩
    · cases owner with
      | none => trivial
      | some owner => exact ⟨rfl, fun workspace => hleaves _⟩
    · cases owner with
      | none => trivial
      | some owner => exact ⟨fun workspace => hfail _, fun _ => rfl⟩
  unfold authenticate
  rcases hcode with hcode | hcode <;> rw [hblank, hcode]
  · have h := hresolve (f := Flow.done) (fun _ => trivial) fun _ => trivial
    rw [Flow.bind_done] at h
    exact h
  · refine hresolve (fun identity => ?_) fun identity => ?_
    · show Flow.LeavesCodes (if service.routes.any (·.admits context) = true then _ else _)
      split <;> trivial
    · show Flow.FailStop (if service.routes.any (·.admits context) = true then _ else _)
      split <;> trivial

/-- What the resolution of a credential does to a code that is not the
credential, or cannot be used: nothing. -/
theorem Server.ChangesAtMost.codes_of_not {ttl : Duration} {after : Server}
    (h : server.ChangesAtMost ttl raw after)
    {text row : String} (hrow : server.database.codes.get? text = some row)
    (hnot : raw = text → (CredentialKind.of raw = .code ∨ CredentialKind.of raw = .cli) →
      ∀ code, ¬ server.CanUse text code) :
    after.database.codes.get? text = some row := by
  have hcode (hchanges : Server.ChangesCode raw server after)
      (hkind : CredentialKind.of raw = .code ∨ CredentialKind.of raw = .cli) :
      after.database.codes.get? text = some row := by
    by_cases htext : text = raw
    · subst htext
      rcases hchanges.own with hsame | ⟨code, _, hcan, -⟩
      · exact hsame.trans hrow
      · exact absurd hcan (hnot rfl hkind code)
    · exact (hchanges.others text htext).trans hrow
  unfold ChangesAtMost at h
  cases hkind : CredentialKind.of raw <;> rw [hkind] at h
  case bearer => rwa [h.frame]
  case code => exact hcode h (.inl hkind)
  case cli => exact hcode h (.inr hkind)
  case connector => rwa [h]

end

/-! ### Requests are turns of a course -/

/-- A few turns lead from one state to the other. -/
def Server.Leads (server after : Server) : Prop :=
  ∀ course : Course, course.server = server →
    ∃ turns : List Turn, (turns.foldl Course.next course).server = after

namespace Server.Leads

variable {server mid after : Server} {α : Type}

theorem refl (server : Server) : server.Leads server :=
  fun _ hcourse => ⟨[], hcourse⟩

theorem trans (h : server.Leads mid) (h' : mid.Leads after) : server.Leads after := by
  intro course hcourse
  obtain ⟨turns, hmid⟩ := h course hcourse
  obtain ⟨turns', hafter⟩ := h' _ hmid
  refine ⟨turns ++ turns', ?_⟩
  rw [List.foldl_append]
  exact hafter

/-- An operation of a service is one turn. -/
theorem operate (service : Service) (operation : Operation α) {weather : Weather}
    (hclear : weather.Clear) (limit : Option Nat) :
    server.Leads (server.perform weather limit (operation.flow service)).2 := by
  rintro course rfl
  exact ⟨[.operate service operation ⟨weather, hclear, limit⟩],
    course.server_operate service operation ⟨weather, hclear, limit⟩⟩

end Server.Leads

namespace Http

/-! ### Requests that are answered without their credential -/

namespace Request

/-- The request without its credential. -/
def anonymous (request : Request) : Request :=
  { request with headers := request.headers.filter fun header => header.1 != "authorization" }

/-- There is no credential left. -/
theorem credential_anonymous (request : Request) :
    request.anonymous.credential = .error .missingCredentials := by
  unfold credential header? anonymous
  rw [lookup_filter_ne, if_pos rfl]
  rfl

/-- The other headers are there. -/
theorem header?_anonymous (request : Request) {name : String} (h : name ≠ "authorization") :
    request.anonymous.header? name = request.header? name := by
  unfold header? anonymous
  rw [lookup_filter_ne, if_neg h]

/-- The request presents the code as its credential. -/
def Presents (request : Request) (text : String) : Prop :=
  request.credential = .ok text ∧
    (CredentialKind.of text = .code ∨ CredentialKind.of text = .cli)

end Request

/-- The body of a request is read without its credential. -/
theorem withBody_anonymous {α β : Type} (form : Json.Form α) (request : Request)
    (reject : Response → β) (accept : α → β) :
    withBody form request.anonymous reject accept = withBody form request reject accept := by
  unfold withBody
  rw [request.header?_anonymous (by decide)]
  rfl

/-- A body is rejected or accepted. -/
theorem of_withBody {α β : Type} {form : Json.Form α} {request : Request} {reject : Response → β}
    {accept : α → β} {p : β → Prop} (hreject : ∀ response, p (reject response))
    (haccept : ∀ a, p (accept a)) : p (withBody form request reject accept) := by
  unfold withBody
  split
  · exact hreject _
  split
  · exact hreject _
  split
  · exact haccept _
  · exact hreject _

/-- An answer leaves the state as the operation does. -/
theorem answer_snd {α : Type} (make : α → Response) (ended : Except Stop α × Server) :
    (answer make ended).2 = ended.2 := by
  rcases ended with ⟨(_ | _) | _, _⟩ <;> rfl

namespace Site

variable (site : Site) (weather : Weather)

/-- Once the sender of a request is known, its credential is not looked at. -/
theorem serveProtected_anonymous (endpoint : Endpoint) (identity : Identity) (request : Request)
    (server : Server) :
    site.serveProtected weather endpoint (some identity) request.anonymous server =
      site.serveProtected weather endpoint (some identity) request server := by
  cases endpoint with
  | requestCode =>
    simp only [serveProtected, requestCode, withSender, identify, withBody_anonymous]
  | _ => rfl

/-! #### What a request does to the state -/

theorem requestCode_snd (identity : Identity) (request : Request) (server : Server) :
    (site.requestCode weather (some identity) request server).2 = server ∨
      ∃ origin cli, (site.requestCode weather (some identity) request server).2 =
        (server.perform weather none (site.service.requestCode identity origin cli)).2 :=
  of_withBody (p := fun served : Except Stop Response × Server => served.2 = server ∨
    ∃ origin cli, served.2 =
      (server.perform weather none (site.service.requestCode identity origin cli)).2)
    (fun _ => .inl rfl) fun body => .inr ⟨body.origin, body.cli, answer_snd _ _⟩

theorem findVault_snd (identity : Identity) (segment : String) (request : Request)
    (server : Server) :
    (site.findVault weather (some identity) segment request server).2 = server ∨
      ∃ vault, (site.findVault weather (some identity) segment request server).2 =
        (server.perform weather (some site.timeoutMs)
          (Service.authorize identity Role.all vault)).2 := by
  unfold findVault
  cases Text.percentDecode? segment.toList with
  | none => exact .inl rfl
  | some vault => exact .inr ⟨vault, answer_snd _ _⟩

/-- For a sender who is known, a code is issued, or access is checked, or
nothing is done to the state. -/
theorem serveProtected_snd (endpoint : Endpoint) (identity : Identity) (request : Request)
    (server : Server) :
    let after := (site.serveProtected weather endpoint (some identity) request server).2
    after = server ∨
      (∃ origin cli, after =
        (server.perform weather none (site.service.requestCode identity origin cli)).2) ∨
      ∃ check : Connector.Check, after =
        (server.perform weather (some site.timeoutMs) (check.flow identity)).2 := by
  intro after
  cases endpoint with
  | requestCode => exact (site.requestCode_snd weather identity request server).imp_right .inl
  | vaults => exact .inr (.inr ⟨.workspace Role.all, answer_snd _ _⟩)
  | vault segment =>
    rcases site.findVault_snd weather identity segment request server with hsame | ⟨vault, hchecked⟩
    · exact .inl hsame
    · exact .inr (.inr ⟨.vault Role.all vault, hchecked⟩)
  | _ => exact .inl rfl

variable {weather} {server : Server}

/-- What is done for a sender who is known changes no stored code. -/
theorem keepsCodes_serveProtected (hclear : weather.Clear)
    (hnumbered : ∀ text row, server.database.codes.get? text = some row →
      ∃ n ≤ server.idsDrawn, Numbered text n)
    (endpoint : Endpoint) (identity : Identity) (request : Request) :
    server.KeepsCodes (site.serveProtected weather endpoint (some identity) request server).2 := by
  rcases site.serveProtected_snd weather endpoint identity request server with
    hsame | ⟨origin, cli, hissued⟩ | ⟨check, hchecked⟩
  · rw [hsame]
    exact fun _ _ hrow => hrow
  · rw [hissued]
    exact (site.service.ensures_keepsCodes_requestCode hnumbered identity origin cli).perform
      (site.service.failStop_requestCode identity origin cli)
      (fun _ _ _ hkeeps => hkeeps) hclear none
  · rw [hchecked]
    intro text row hrow
    rwa [(check.leavesCodes identity).perform (check.failStop identity) hclear]

/-- To find out the sender takes one turn at most. -/
theorem leads_identify (hclear : weather.Clear) (known : Option Identity) (request : Request) :
    server.Leads (site.identify weather known request server).2 := by
  unfold identify
  cases known with
  | some identity => exact .refl server
  | none =>
    cases request.credential with
    | error => exact .refl server
    | ok raw => exact .operate site.service (.authenticate raw request.context) hclear _

theorem leads_withSender (hclear : weather.Clear) {known : Option Identity} {request : Request}
    {handle : Identity → Server → Except Stop Response × Server}
    (hhandle : ∀ identity (mid : Server), mid.Leads (handle identity mid).2) :
    server.Leads (site.withSender weather known request server handle).2 := by
  have hidentify : server.Leads (site.identify weather known request server).2 :=
    site.leads_identify hclear known request
  unfold withSender
  generalize site.identify weather known request server = identified at hidentify
  obtain ⟨(error | cause) | identity, mid⟩ := identified
  · exact hidentify
  · exact hidentify
  · exact hidentify.trans (hhandle identity mid)

theorem leads_serveProtected (hclear : weather.Clear) (endpoint : Endpoint) (identity : Identity)
    (request : Request) :
    server.Leads (site.serveProtected weather endpoint (some identity) request server).2 := by
  rcases site.serveProtected_snd weather endpoint identity request server with
    hsame | ⟨origin, cli, hissued⟩ | ⟨⟨roles, vault⟩ | ⟨roles⟩, hchecked⟩
  · rw [hsame]
    exact .refl server
  · rw [hissued]
    exact .operate site.service (.requestCode identity origin cli) hclear none
  · rw [hchecked]
    exact .operate site.service (.authorize identity roles vault) hclear _
  · rw [hchecked]
    exact .operate site.service (.authorizeWorkspace identity roles) hclear _

theorem leads_serveOpen (hclear : weather.Clear) (endpoint : Endpoint) (request : Request) :
    server.Leads (site.serveOpen weather endpoint request server).2 := by
  cases endpoint with
  | challenge =>
    refine of_withBody (p := fun served : Except Stop Response × Server => server.Leads served.2)
      (fun _ => .refl server) fun body => ?_
    rw [answer_snd]
    exact .operate site.service (.issueChallenge body.address body.origin body.network) hclear none
  | signIn =>
    refine of_withBody (p := fun served : Except Stop Response × Server => server.Leads served.2)
      (fun _ => .refl server) fun body => ?_
    rw [answer_snd]
    exact .operate site.service (.signIn body) hclear none
  | signOut =>
    show server.Leads (signOut weather request server).2
    unfold signOut
    cases request.credential with
    | error => exact .refl server
    | ok token =>
      show server.Leads (answer _ _).2
      rw [answer_snd]
      exact .operate site.service (.signOut token) hclear none
  | _ => exact .refl server

theorem leads_checkMethod {endpoint : Endpoint} {request : Request}
    {served : Except Stop Response × Server} (h : server.Leads served.2) :
    server.Leads (checkMethod endpoint request server served).2 := by
  unfold checkMethod
  split
  · exact h
  · exact .refl server

/-- A request does nothing to the state but a few operations of the
service. -/
theorem leads_respond (hclear : weather.Clear) (request : Request) :
    server.Leads (site.respond weather request server).2 := by
  unfold respond
  split
  · exact .refl server
  cases Endpoint.ofPath? request.path with
  | none => exact .refl server
  | some endpoint =>
    show server.Leads (site.serve weather endpoint request server).2
    unfold serve
    split
    · exact site.leads_withSender hclear fun identity mid =>
        leads_checkMethod (site.leads_serveProtected hclear endpoint identity request)
    · exact leads_checkMethod (site.leads_serveOpen hclear endpoint request)

/-! #### The codes after a request -/

section
variable {course : Course}

/-- To find out the sender leaves the course sound. -/
theorem sound_identify (hsound : course.Sound) (hclear : weather.Clear) (request : Request) :
    Course.Sound
      { course with server := (site.identify weather none request course.server).2 } := by
  unfold identify
  cases request.credential with
  | error => exact hsound
  | ok raw =>
    exact hsound.performed_quiet
      (fun _ hnone => Accountable.authenticate hsound hnone site.service raw request.context)
      (site.service.failStop_authenticate raw request.context)
      ⟨weather, hclear, some site.timeoutMs⟩

/-- A request to a protected endpoint changes no stored code once its sender
is found out. -/
theorem keepsCodes_serve (hsound : course.Sound) (hclear : weather.Clear) (endpoint : Endpoint)
    (request : Request) :
    (site.identify weather none request course.server).2.KeepsCodes
      (site.withSender weather none request course.server fun identity known =>
        checkMethod endpoint request known
          (site.serveProtected weather endpoint (some identity) request known)).2 := by
  have hknown := site.sound_identify hsound hclear request
  unfold withSender
  generalize site.identify weather none request course.server = identified at hknown
  have hsame : identified.2.KeepsCodes identified.2 := fun _ _ hrow => hrow
  obtain ⟨(error | cause) | identity, known⟩ := identified
  · exact hsame
  · exact hsame
  · show known.KeepsCodes (checkMethod endpoint request known _).2
    unfold checkMethod
    split
    · exact site.keepsCodes_serveProtected hclear (fun _ _ hrow => hknown.numbered_of_row hrow)
        endpoint identity request
    · exact hsame

/-- To find out the sender changes no code but the one that is presented, and
that one only if it can be used. -/
theorem get?_identify_of_not (horderly : course.server.Orderly) (hclear : weather.Clear)
    {request : Request} {text row : String}
    (hrow : course.server.database.codes.get? text = some row)
    (hnot : request.Presents text → ∀ code, ¬ course.server.CanUse text code) :
    (site.identify weather none request course.server).2.database.codes.get? text = some row := by
  unfold identify
  cases hraw : request.credential with
  | error => exact hrow
  | ok raw =>
    have hchanges := (site.service.ensures_changes_authenticate raw request.context
      horderly).perform_snd (site.service.failStop_authenticate raw request.context)
      (fun _ hchanges => hchanges.idsDrawn_eq) ⟨weather, hclear, some site.timeoutMs⟩
    refine hchanges.codes_of_not hrow ?_
    rintro rfl hkind
    exact hnot ⟨hraw, hkind⟩

/-- To find out the sender uses the code that is presented, if it can be
used. -/
theorem get?_identify_of_presents (hsound : course.Sound) (hclear : weather.Clear)
    {request : Request} {text : String} {code : RecoverCode} (hpresents : request.Presents text)
    (hcan : course.server.CanUse text code)
    (hspares : ∀ now, course.server.now? = some now → weather.SparesCall (some site.timeoutMs) {}
      (.consumeCode text .oneTime site.service.maxUses now)) :
    ∃ used, Stored course.minted { code with usesCount := code.usesCount + 1, used } ∧
      (site.identify weather none request course.server).2.database.codes.get? text =
        some (RecoverCode.form.encode { code with usesCount := code.usesCount + 1, used }) ∧
      (code.usesCount + 1).toNat = code.usesCount.toNat + 1 := by
  obtain ⟨hraw, hcode⟩ := hpresents
  obtain ⟨-, hstored⟩ := hsound.backed.code_of_find hcan.1
  -- As it is not used up, its uses can be counted.
  have hcount : code.usesCount.toNat + 1 < UInt32.size := by
    obtain ⟨-, -, now, -, husable⟩ := hcan
    obtain ⟨issued, usesCount, used, -, -, rfl, hroom⟩ := hstored
    refine hroom ?_
    simpa using (Bool.and_eq_true_iff.1 husable).2
  have huse : code.recordUse? site.service.maxUses = some _ :=
    RecoverCode.recordUse?_eq_some_iff.2 ⟨hcount, rfl⟩
  refine ⟨_, hstored.recordUse? huse, ?_, ?_⟩
  · unfold identify
    rw [hraw]
    show (course.server.perform weather (some site.timeoutMs) _).2.database.codes.get? text = _
    rw [site.service.codes_of_authenticate request.context hclear hcode hcan huse hspares]
    exact Table.get?_write_self _ _ _
  · rw [UInt32.toNat_add]
    exact Nat.mod_eq_of_lt hcount

end

/-- Whatever happened before, a request to a protected endpoint has its
credential resolved once, and what comes of it does not depend on the
credential any more. If the credential is a code that can be used, it is
used once, whatever the response is. Every other code that is stored stays
as it is. -/
theorem uses_once (capacity : Nat) (clock : Int) (turns : List Turn) (weather : Weather)
    (request : Request) (endpoint : Endpoint) (hclear : weather.Clear)
    (hpath : Endpoint.ofPath? request.path = some endpoint)
    (hprotected : endpoint.isProtected = true) (hmethod : request.method ≠ "OPTIONS") :
    let before := (Course.ofTurns capacity clock turns).server
    let after := (site.respond weather request before).2
    site.respond weather request before = conclude request
      (site.withSender weather none request before fun identity known =>
        checkMethod endpoint request known
          (site.serveProtected weather endpoint (some identity) request.anonymous known)) ∧
    ∀ text code, before.database.codes.find RecoverCode.form text = .ok (some code) →
      (request.Presents text → before.CanUse text code →
        (∀ now, before.now? = some now → weather.SparesCall (some site.timeoutMs) {}
          (.consumeCode text .oneTime site.service.maxUses now)) →
        ∃ used, after.database.codes.find RecoverCode.form text =
            .ok (some { code with usesCount := code.usesCount + 1, used }) ∧
          (code.usesCount + 1).toNat = code.usesCount.toNat + 1) ∧
      (¬ (request.Presents text ∧ before.CanUse text code) →
        after.database.codes.find RecoverCode.form text = .ok (some code)) := by
  intro before after
  have hsound : (Course.ofTurns capacity clock turns).Sound := .ofTurns capacity clock turns
  have horderly : before.Orderly := Course.orderly_ofTurns capacity clock turns
  have hrespond : site.respond weather request before = conclude request
      (site.withSender weather none request before fun identity known =>
        checkMethod endpoint request known
          (site.serveProtected weather endpoint (some identity) request known)) := by
    unfold respond serve
    rw [if_neg hmethod, hpath]
    show conclude request (if endpoint.isProtected = true then _ else _) = _
    rw [if_pos hprotected]
  refine ⟨?_, fun text code hfind => ?_⟩
  · rw [hrespond]
    simp only [serveProtected_anonymous]
  -- Whatever becomes of a code comes of finding out the sender.
  have hkeeps : (site.identify weather none request before).2.KeepsCodes after := by
    show Server.KeepsCodes _ (site.respond weather request before).2
    rw [hrespond]
    exact site.keepsCodes_serve hsound hclear endpoint request
  constructor
  · intro hpresents hcan hspares
    obtain ⟨used, hstored, hrow, hcount⟩ :=
      site.get?_identify_of_presents hsound hclear hpresents hcan hspares
    exact ⟨used, Table.find_of_get? (hkeeps text _ hrow) hstored.decode_encode, hcount⟩
  · intro hnot
    obtain ⟨row, hrow, hdecode⟩ := Table.row_of_find hfind
    have hafter := hkeeps text row (site.get?_identify_of_not horderly hclear hrow ?_)
    · rw [← hfind]
      exact Table.find_congr (hafter.trans hrow.symm)
    · intro hpresents other hcan
      cases hfind.symm.trans hcan.1
      exact hnot ⟨hpresents, hcan⟩

/-- Ann asks who she is, and presents the code that she requested. -/
def annAsks : Request :=
  { method := "GET", target := "/v1/auth/me",
    headers := [("authorization", codeMark ++ SerialId.plain 2)] }

/-- Her code is used once then. -/
theorem uses_once_of_ann : ∃ code used,
    (Course.ofTurns 1 0 Course.annsTurns).server.database.codes.find RecoverCode.form code.code =
      .ok (some code) ∧
    ((Site.ofSettings {} none).respond .fair annAsks
      (Course.ofTurns 1 0 Course.annsTurns).server).2.database.codes.find RecoverCode.form
        code.code = .ok (some { code with usesCount := code.usesCount + 1, used }) := by
  obtain ⟨issued, hfresh, htext, hnow, -, -⟩ := Course.fresh_annsTurns
  have hfind := Table.find_of_get? hfresh.row (RecoverCode.decode_encode hfresh.plain (by decide))
  have hpresents : annAsks.Presents issued.code := by
    rw [htext]
    exact ⟨rfl, .inl (CredentialKind.of_code _)⟩
  have hcan : (Course.ofTurns 1 0 Course.annsTurns).server.CanUse issued.code issued :=
    ⟨hfind, hfresh.kind, .epoch, hnow, hfresh.usable⟩
  obtain ⟨used, hused, -⟩ :=
    ((uses_once (Site.ofSettings {} none) 1 0 Course.annsTurns .fair annAsks .me
      Weather.clear_fair (by decide) rfl (by decide)).2 issued.code issued hfind).1 hpresents hcan
        fun _ _ => ⟨rfl, fun _ _ => Nat.zero_le _⟩
  exact ⟨issued, used, hfind, hused⟩

end Site

end Http

end Gatekeeper

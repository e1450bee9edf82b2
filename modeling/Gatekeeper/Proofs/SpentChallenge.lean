import Gatekeeper.Proofs.SignIn

/-!
# `Gatekeeper.Proofs.SpentChallenge`: what a failed sign-in leaves

A sign-in checks the request first, then it uses the challenge up, and only
then it looks for the workspace and opens a session. If it fails before the
challenge is used up, nothing has changed, and the challenge can be answered
again. If it fails afterwards, the challenge is lost, and nothing else has
changed: there is no session.

`Service.Mishap` says what can go wrong once the challenge is used up, and
`Service.signIn_failed` that a failed sign-in leaves everything as it was
unless the request answered the challenge and met with a mishap.
`Service.challenge_lost` is a run in which that happens.
-/

set_option autoImplicit false

namespace Gatekeeper

/-! ### Failures of the parts -/

section
variable {server : Server} {text : String}

/-- Looking for a challenge changes nothing. -/
theorem CodeStore.ensures_findChallenge (text : String) (server : Server) :
    (findChallenge text).Ensures (fun end? after => after = server ∧
      ∀ code, end? = .ok code → ∃ now : Instant, server.now? = some now ∧
        server.database.codes.find RecoverCode.form text = .ok (some code) ∧
        code.kind = .challenge ∧ code.isUsable now = true) server := by
  have hstop (why : Stop) : server = server ∧ ∀ code, Except.error why = .ok code →
      ∃ now : Instant, server.now? = some now ∧
        server.database.codes.find RecoverCode.form text = .ok (some code) ∧
        code.kind = .challenge ∧ code.isUsable now = true := ⟨rfl, fun _ hend => by cases hend⟩
  refine ⟨hstop, ?_⟩
  intro found database hrun
  obtain ⟨hfind, rfl⟩ := Call.lookedUp_iff.1 hrun
  cases found with
  | none => exact hstop _
  | some record =>
    show Flow.Ensures _ (if record.kind = .challenge then _ else _) server
    split
    case isFalse => exact hstop _
    next hkind =>
      refine ⟨fun now hnow => ?_, fun _ => hstop _⟩
      show Flow.Ensures _ (if record.isUsable now = true then _ else _) server
      split
      case isFalse => exact hstop _
      next husable =>
        refine ⟨rfl, ?_⟩
        rintro _ ⟨⟩
        exact ⟨now, hnow, hfind, hkind, husable⟩

/-- A challenge is used up, or nothing changes. -/
theorem CodeStore.ensures_consumeChallenge (text : String) (server : Server) :
    (consumeChallenge text).Ensures (fun end? after =>
      match end? with
      | .ok used => ∃ code, server.database.codes.find RecoverCode.form text = .ok (some code) ∧
          code.usesCount.toNat + 1 < UInt32.size ∧ used = code.spent ∧
          after = server.spending text code
      | .error _ => after = server) server := by
  refine ⟨fun now hnow => ⟨fun _ => rfl, ?_⟩, fun _ => rfl⟩
  intro use database hrun
  rcases Call.of_run_consumeCode hrun with ⟨code, used, hfind, -, -, huse, rfl, rfl⟩ | ⟨hnot, rfl⟩
  · have hcount := (RecoverCode.recordUse?_eq_some_iff.1 huse).1
    rw [RecoverCode.recordUse?_one hcount] at huse
    cases huse
    exact ⟨code, hfind, hcount, rfl, rfl⟩
  · cases use with
    | consumed used => exact absurd rfl (hnot used)
    | rejected | notFound => rfl

/-- A session that is not opened leaves nothing, but for the numbers that
were drawn. -/
theorem Service.ensures_openSession (service : Service) (owner : User) (network : Network)
    (server : Server) :
    (service.openSession owner network).Ensures (fun end? after =>
      ∀ why, end? = .error why → after = { server with idsDrawn := after.idsDrawn }) server := by
  refine ⟨fun _ _ _ => rfl, ?_⟩
  intro found database hrun
  obtain ⟨-, rfl⟩ := Call.lookedUp_iff.1 hrun
  cases found with
  | none => exact fun _ _ => rfl
  | some w =>
    refine ⟨fun now hnow => ?_, fun _ _ _ => rfl⟩
    show Flow.Ensures _ (((Flow.inCalendar (now.add? service.sessionTtl)).bind _).bind _) server
    cases now.add? service.sessionTtl with
    | none => exact fun _ _ => rfl
    | some expiresAt =>
      -- Once the row is written, nothing stops the sign-in any more.
      refine ⟨fun _ _ _ => rfl, fun _ _ hrow => ?_⟩
      cases hrow
      exact fun _ hend => by cases hend

end

/-! ### Failed sign-ins -/

namespace Service

/-- What can go wrong once the challenge is used up: there is no workspace
to work in, the calendar has no end for the session, or the server cannot
tell. -/
inductive Mishap (service : Service) (server : Server) (now : Instant) (owner : User) : Stop → Prop
  | homeless (hfind : server.database.findWorkspace owner.defaultWorkspaceId = .ok none) :
      Mishap service server now owner (.refused (.notFound "Workspace"))
  | endless (hexpires : now.add? service.sessionTtl = none) :
      Mishap service server now owner (.overflow .time)
  | unanswered (reason : String) : Mishap service server now owner (.refused (.internal reason))

/-- The request answers a challenge, which is used up in the end. -/
structure Spends (service : Service) (request : SignInRequest) (server : Server)
    (verifier : Verifier) (now : Instant) (challenge : RecoverCode) (owner : User)
    (after : Server) :
    Prop where
  configured : service.verifier = some verifier
  shown : server.now? = some now
  answers : request.Answers server verifier now challenge owner
  counted : challenge.usesCount.toNat + 1 < UInt32.size
  spent : after = server.spending request.digest challenge

variable {service : Service} {request : SignInRequest} {server : Server}

/-- But for the numbers that were drawn, a sign-in that stops leaves the
server as it was, or with the challenge used up. -/
theorem ensures_signIn (service : Service) (request : SignInRequest) (server : Server) :
    (service.signIn request).Ensures (fun end? after => ∀ why, end? = .error why →
      { after with idsDrawn := server.idsDrawn } = server ∨
      ∃ verifier now challenge owner, service.Spends request server verifier now challenge owner
        { after with idsDrawn := server.idsDrawn }) server := by
  cases hverifier : service.verifier with
  | none =>
    unfold signIn
    rw [hverifier]
    exact fun _ _ => .inl rfl
  | some verifier =>
    unfold signIn
    rw [hverifier]
    show Flow.Ensures _ ((CodeStore.findChallenge request.digest).bind _) server
    rw [Flow.ensures_bind]
    refine (CodeStore.ensures_findChallenge request.digest server).mono ?_
    rintro end? after ⟨hsame, hfound⟩
    rw [hsame]
    cases end? with
    | error why => exact fun _ _ => .inl rfl
    | ok challenge =>
      obtain ⟨now, hnow, hstored, hkind, husable⟩ := hfound challenge rfl
      obtain ⟨hunused, hinTime⟩ := RecoverCode.isUsable_iff.1 husable
      refine ⟨fun _ _ _ => .inl rfl, fun found database hrun => ?_⟩
      obtain ⟨howned, rfl⟩ := Call.lookedUp_iff.1 hrun
      cases found with
      | none => exact fun _ _ => .inl rfl
      | some owner =>
        show Flow.Ensures _ (service.signInAs verifier request owner) server
        by_cases hsigned : request.SignedBy verifier owner
        case neg =>
          rw [signInAs_unsigned hsigned]
          exact fun _ _ => .inl rfl
        rw [signInAs_signed hsigned]
        split
        case isTrue => exact fun _ _ => .inl rfl
        next hencoder =>
          rw [Flow.ensures_bind]
          refine (CodeStore.ensures_consumeChallenge request.digest server).mono ?_
          intro end? spent hend
          cases end? with
          | error why =>
            cases hend
            exact fun _ _ => .inl rfl
          | ok used =>
            obtain ⟨code, hfind, hcount, rfl, rfl⟩ := hend
            -- What is used up is the challenge that was found.
            cases hfind.symm.trans hstored
            refine (ensures_openSession service owner _ _).mono fun end? after hafter why hwhy => ?_
            have hanswers : request.Answers server verifier now challenge owner :=
              ⟨⟨hstored, hkind, hunused, hinTime⟩, howned, hsigned, Classical.not_not.1 hencoder⟩
            refine .inr ⟨verifier, now, challenge, owner, hverifier, hnow, hanswers, hcount, ?_⟩
            rw [hafter why hwhy]
            rfl

variable {verifier : Verifier} {now : Instant} {challenge : RecoverCode} {owner : User}
  {after : Server}

/-- No session is opened if the workspace cannot be read. -/
theorem undisturbed_openSession_unread {network : Network} {e : StoreError}
    (hfind : server.database.findWorkspace owner.defaultWorkspaceId = .error e) :
    (service.openSession owner network).undisturbed server =
      (.error (.refused (.ofStore e)), server) := by
  have hrun : (Call.findWorkspace owner.defaultWorkspaceId).run server.database =
      .error (.store e) := by
    simp only [Call.run, hfind]
    rfl
  exact Flow.undisturbed_call_error hrun _ _

/-- No session is opened that the calendar has no end for. -/
theorem undisturbed_openSession_endless {network : Network} {w : Workspace}
    (hnow : server.now? = some now)
    (hfind : server.database.findWorkspace owner.defaultWorkspaceId = .ok (some w))
    (hexpires : now.add? service.sessionTtl = none) :
    (service.openSession owner network).undisturbed server =
      (.error (.overflow .time), server) := by
  have hrun : (Call.findWorkspace owner.defaultWorkspaceId).run server.database =
      .ok (some w, server.database) := Call.lookedUp_iff.2 ⟨hfind, rfl⟩
  refine (Flow.undisturbed_call hrun _ _).trans ?_
  refine (Flow.undisturbed_readClock hnow _ _).trans ?_
  show Flow.undisturbed (((Flow.inCalendar (now.add? service.sessionTtl)).bind _).bind _) server = _
  rw [hexpires]
  rfl

/-- If no session is opened although nothing is disturbed, there is a
mishap. -/
theorem mishap_openSession {network : Network} {why : Stop} (hnow : server.now? = some now)
    (hstopped : ((service.openSession owner network).undisturbed server).1 = .error why) :
    service.Mishap server now owner why := by
  cases hfind : server.database.findWorkspace owner.defaultWorkspaceId with
  | error e =>
    rw [undisturbed_openSession_unread hfind] at hstopped
    cases hstopped
    exact .unanswered _
  | ok found =>
    cases found with
    | none =>
      rw [undisturbed_openSession_homeless network hfind] at hstopped
      cases hstopped
      exact .homeless hfind
    | some w =>
      cases hexpires : now.add? service.sessionTtl with
      | none =>
        rw [undisturbed_openSession_endless hnow hfind hexpires] at hstopped
        cases hstopped
        exact .endless hexpires
      | some expiresAt =>
        rw [undisturbed_openSession server network hnow hexpires hfind] at hstopped
        cases hstopped

/-- A sign-in that stops although it answers a challenge has met with a
mishap. -/
theorem Spends.mishap (h : service.Spends request server verifier now challenge owner after)
    {weather : Weather} (hclear : weather.Clear) {limit : Option Nat} {why : Stop}
    (hstopped : (server.perform weather limit (service.signIn request)).1 = .error why) :
    service.Mishap server now owner why := by
  by_cases hspares : weather.Spares limit {} ((service.signIn request).calls server)
  · -- The workspaces are as they were before the challenge was used up.
    rw [Flow.perform_fst_of_spares hspares,
      undisturbed_signIn_of_answers h.configured h.shown h.answers h.counted] at hstopped
    have hnow : (server.spending request.digest challenge).now? = some now :=
      (server.now?_spending _ _).trans h.shown
    cases mishap_openSession hnow hstopped with
    | homeless hfind => exact .homeless ((server.findWorkspace_spending _ _ _).symm.trans hfind)
    | endless hexpires => exact .endless hexpires
    | unanswered reason => exact .unanswered reason
  · obtain ⟨reason, hreason⟩ :=
      Flow.outcome_of_not_spares hclear (service.failStop_signIn request) hspares
    rw [Server.perform_fst] at hstopped
    cases hstopped.symm.trans hreason
    exact .unanswered reason

/-- Whatever the state and however the calls fare, a sign-in that fails
leaves everything as it was, unless it answered the challenge and met with
a mishap after the challenge was used up. Then the challenge is lost, and
everything else is as it was. -/
theorem signIn_failed (service : Service) (request : SignInRequest) (server : Server)
    (weather : Weather) (hclear : weather.Clear) (limit : Option Nat) (why : Stop) (after : Server)
    (h : server.perform weather limit (service.signIn request) = (.error why, after)) :
    after = server ∨ ∃ verifier now challenge owner,
      service.Spends request server verifier now challenge owner after ∧
        service.Mishap server now owner why := by
  have hends := (ensures_signIn service request server).perform (service.failStop_signIn request)
    (fun _ _ _ hpost => hpost) hclear limit why (congrArg Prod.fst h)
  have hids : { after with idsDrawn := server.idsDrawn } = after := by
    rw [← Server.idsDrawn_of_stopped h]
  rw [h, hids] at hends
  refine hends.imp_right ?_
  rintro ⟨verifier, now, challenge, owner, hspends⟩
  exact ⟨verifier, now, challenge, owner, hspends, hspends.mishap hclear (congrArg Prod.fst h)⟩

/-- Whoever answers a challenge without a workspace to work in loses it. -/
theorem perform_signIn_homeless (hverifier : service.verifier = some verifier)
    (hnow : server.now? = some now) (h : request.Answers server verifier now challenge owner)
    (hcount : challenge.usesCount.toNat + 1 < UInt32.size)
    (hfind : server.database.findWorkspace owner.defaultWorkspaceId = .ok none)
    {weather : Weather} {limit : Option Nat}
    (hspares : weather.Spares limit {} ((service.signIn request).calls server)) :
    server.perform weather limit (service.signIn request) =
      (.error (.refused (.notFound "Workspace")), server.spending request.digest challenge) := by
  refine Flow.perform_error_of_spares hspares
    (?_ : _ = (_, server.spending request.digest challenge))
  rw [undisturbed_signIn_of_answers hverifier hnow h hcount]
  exact undisturbed_openSession_homeless challenge.network
    ((server.findWorkspace_spending _ _ _).trans hfind)

/-- A challenge that is used up is refused from then on, also once there is a
workspace. -/
theorem perform_signIn_spent (hverifier : service.verifier = some verifier)
    (hnow : server.now? = some now) (hkind : challenge.kind = .challenge)
    (hspent : server.database.codes.find RecoverCode.form request.digest =
      .ok (some challenge.spent))
    (w : Workspace) {weather : Weather} {limit : Option Nat}
    (hspares : weather.Spares limit {} ((service.signIn request).calls
      { server with database := server.database.putWorkspace w })) :
    (Server.perform weather limit (service.signIn request)
      { server with database := server.database.putWorkspace w }).1 =
        .error (.refused .expiredCode) := by
  have hlater : Server.now? { server with database := server.database.putWorkspace w } =
      some now := hnow
  refine (Flow.perform_fst_of_spares hspares).trans
    (undisturbed_signIn_of_lacks hverifier hlater ?_ (.usableChallenge hspent hkind (.inl rfl)))
  -- No challenge that is named can be used, so there is nothing to count.
  intro other hnames
  cases hspent.symm.trans hnames.stored
  cases hnames.unused

/-- As long as Ann has no workspace to work in, she loses the challenge that
she answers. -/
theorem homeless_challengeTurns :
    let server := (Course.ofTurns 1 0 challengeTurns).server
    ∃ challenge, annsAnswer.Answers server trusting .epoch challenge signingAnn ∧
      challenge.usesCount = 0 ∧ server.now? = some .epoch ∧
      (server.spending annsAnswer.digest challenge).database.codes.find RecoverCode.form
        annsAnswer.digest = .ok (some challenge.spent) ∧
      server.perform .fair none ((Service.ofSettings {} (some trusting)).signIn annsAnswer) =
        (.error (.refused (.notFound "Workspace")),
          server.spending annsAnswer.digest challenge) := by
  obtain ⟨challenge, hanswers, hunused, hnow, hworkspaces⟩ := @answers_challengeTurns [] rfl rfl
  rw [List.nil_append] at hanswers hnow hworkspaces
  have hcount : challenge.usesCount.toNat + 1 < UInt32.size := by
    rw [hunused]
    decide
  have hfind : (Course.ofTurns 1 0 challengeTurns).server.database.findWorkspace
      signingAnn.defaultWorkspaceId = .ok none := by
    unfold Database.findWorkspace
    rw [hworkspaces]
    rfl
  -- What is used up was issued, so it is read back.
  have hstored := ((Course.Sound.ofTurns 1 0 challengeTurns).backed.code_of_find
    hanswers.names.stored).2.recordUse? (RecoverCode.recordUse?_one hcount)
  have hspent (server : Server) (text : String) :
      (server.spending text challenge).database.codes.find RecoverCode.form text =
        .ok (some challenge.spent) :=
    Table.find_of_get? (Table.get?_write_self _ _ _) hstored.decode_encode
  generalize (Course.ofTurns 1 0 challengeTurns).server = server at hanswers hnow hfind
  exact ⟨challenge, hanswers, hunused, hnow, hspent _ _,
    perform_signIn_homeless rfl hnow hanswers hcount hfind (Flow.spares_fair _ _)⟩

/-- The lack of a workspace is the mishap to which Ann loses her challenge. -/
theorem signIn_failed_of_homeless : ∃ after verifier now challenge owner,
    let server := (Course.ofTurns 1 0 challengeTurns).server
    let service := Service.ofSettings {} (some trusting)
    server.perform .fair none (service.signIn annsAnswer) =
      (.error (.refused (.notFound "Workspace")), after) ∧
    service.Spends annsAnswer server verifier now challenge owner after ∧
    service.Mishap server now owner (.refused (.notFound "Workspace")) := by
  obtain ⟨challenge, hanswers, -, -, hspent, hfailed⟩ := homeless_challengeTurns
  generalize (Course.ofTurns 1 0 challengeTurns).server = server at hanswers hspent hfailed ⊢
  rcases signIn_failed _ _ _ _ Weather.clear_fair _ _ _ hfailed with hsame | hlost
  · -- The challenge was not used up before.
    rw [hsame, hanswers.names.stored] at hspent
    have hused : challenge.used = true := by
      rw [Option.some.inj (Except.ok.inj hspent)]
      rfl
    cases hanswers.names.unused.symm.trans hused
  · obtain ⟨verifier, now, lost, owner, hspends, hmishap⟩ := hlost
    exact ⟨_, verifier, now, lost, owner, hfailed, hspends, hmishap⟩

/-- A challenge can be lost to a sign-in that fails. Ann can answer her
challenge, but she has no workspace yet, so she is refused. The challenge is
used up then, and once she has a workspace it is of no use. -/
theorem challenge_lost : ∃ challenge after,
    let server := (Course.ofTurns 1 0 challengeTurns).server
    let signsIn := (Service.ofSettings {} (some trusting)).signIn annsAnswer
    annsAnswer.Names server .epoch challenge ∧
    server.perform .fair none signsIn = (.error (.refused (.notFound "Workspace")), after) ∧
    after.database.codes.find RecoverCode.form annsAnswer.digest =
      .ok (some { challenge with usesCount := 1, used := true }) ∧
    (Server.perform .fair none signsIn
      { after with database := after.database.putWorkspace annsWorkspace }).1 =
        .error (.refused .expiredCode) := by
  obtain ⟨challenge, hanswers, hunused, hnow, hspent, hfailed⟩ := homeless_challengeTurns
  generalize (Course.ofTurns 1 0 challengeTurns).server = server at hanswers hnow hspent hfailed ⊢
  have hone : challenge.spent = { challenge with usesCount := 1, used := true } := by
    unfold RecoverCode.spent
    rw [hunused]
    rfl
  have hafter : (server.spending annsAnswer.digest challenge).now? = some .epoch :=
    (server.now?_spending _ _).trans hnow
  exact ⟨challenge, _, hanswers.names, hfailed, hone ▸ hspent,
    perform_signIn_spent rfl hafter hanswers.names.kind hspent annsWorkspace (Flow.spares_fair _ _)⟩

end Service

end Gatekeeper

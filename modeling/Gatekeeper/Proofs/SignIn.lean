import Gatekeeper.Proofs.Readable
import Gatekeeper.Proofs.Separation

/-!
# `Gatekeeper.Proofs.SignIn`: what a sign-in needs, and what it leaves

A sign-in exchanges a challenge for a session. `SignInRequest.InOrder` says
what that takes: the request names a challenge that can be used, the owner
of the challenge has signed it, and there is a workspace to work in.
`SignInRequest.Lacks` lists the refusals, by the first thing that is
missing. `Service.SignedIn` tells what there is afterwards, and
`Service.KnowsUntil` what the token is good for.

Each part of a sign-in has an equation for its run without a disturbance,
under what it is going to read. The equation of the whole sign-in is put
together from them, one for the request that is in order and one for each
thing that it can lack.

There is always one or the other, as every row can be read
(`Course.readable_ofTurns`). The token is new, as it bears a number that is
drawn once only (`Course.Sound.fresh`). Both hold in every course, and so
does the main result, `Service.signIn_exact`.
-/

set_option autoImplicit false

namespace Gatekeeper

open Gatekeeper.Flow (call take)

/-! ### What a request needs -/

/-- The challenge once it is used up. -/
def RecoverCode.spent (c : RecoverCode) : RecoverCode :=
  { c with usesCount := c.usesCount + 1, used := true }

namespace SignInRequest

variable (request : SignInRequest) (server : Server) (verifier : Verifier) (now : Instant)

/-- The request names a challenge that is stored and can be used now. -/
structure Names (challenge : RecoverCode) : Prop where
  stored : server.database.codes.find RecoverCode.form request.digest = .ok (some challenge)
  kind : challenge.kind = .challenge
  unused : challenge.used = false
  inTime : Timestamp.ofInstant now < challenge.validAt

/-- The signature is one that the user gave, as the verifier tells. -/
def SignedBy (user : User) : Prop :=
  ∃ signer, verifier request.encoder request.digest request.signature = some signer ∧
    sameUpToCase signer user.address = true

/-- The request answers a challenge of the user, as the user signs. -/
structure Answers (challenge : RecoverCode) (owner : User) : Prop where
  names : request.Names server now challenge
  owned : server.database.users.find User.form challenge.ownerId = .ok (some owner)
  signed : request.SignedBy verifier owner
  encoder : request.encoder = owner.accountType

/-- The request has all that it needs to be exchanged for a session: it
answers a challenge, and the workspace to work in is stored. -/
structure InOrder (challenge : RecoverCode) (owner : User) (w : Workspace) : Prop
    extends request.Answers server verifier now challenge owner where
  workspace : server.database.findWorkspace owner.defaultWorkspaceId = .ok (some w)

/-- What the request is refused with, by the first thing that it lacks. -/
inductive Lacks : AuthError → Prop
  /-- There is no challenge with the digest. -/
  | challenge {found : Option RecoverCode}
      (hfind : server.database.codes.find RecoverCode.form request.digest = .ok found)
      (hkind : ∀ code ∈ found, code.kind ≠ .challenge) : Lacks .unknownCode
  /-- The challenge is used up, or it is expired. -/
  | usableChallenge {code : RecoverCode}
      (hfind : server.database.codes.find RecoverCode.form request.digest = .ok (some code))
      (hkind : code.kind = .challenge)
      (hover : code.used = true ∨ code.validAt ≤ Timestamp.ofInstant now) : Lacks .expiredCode
  /-- The owner of the challenge is not stored. -/
  | owner {challenge : RecoverCode} (hnames : request.Names server now challenge)
      (hfind : server.database.users.find User.form challenge.ownerId = .ok none) :
      Lacks .invalidCredentials
  /-- The signature is not one of the owner. -/
  | signature {challenge : RecoverCode} {owner : User} (hnames : request.Names server now challenge)
      (hfind : server.database.users.find User.form challenge.ownerId = .ok (some owner))
      (hnot : ¬ request.SignedBy verifier owner) : Lacks .invalidCredentials
  /-- The owner signs with another encoder. -/
  | encoder {challenge : RecoverCode} {owner : User} (hnames : request.Names server now challenge)
      (hfind : server.database.users.find User.form challenge.ownerId = .ok (some owner))
      (hsigned : request.SignedBy verifier owner) (hnot : request.encoder ≠ owner.accountType) :
      Lacks (.unauthorized .invalidEncoder "Encoder does not match the account type")
  /-- The workspace of the owner is not stored. -/
  | workspace {challenge : RecoverCode} {owner : User}
      (hanswers : request.Answers server verifier now challenge owner)
      (hfind : server.database.findWorkspace owner.defaultWorkspaceId = .ok none) :
      Lacks (.notFound "Workspace")

end SignInRequest

/-! ### The parts of a sign-in -/

section
variable {server : Server} {now : Instant} {code : RecoverCode} {text : String}

theorem RecoverCode.isUsable_iff {time : Timestamp} :
    code.isUsable time = true ↔ code.used = false ∧ time < code.validAt := by
  simp [RecoverCode.isUsable, and_comm]

/-- One use is all that a challenge is good for. -/
theorem RecoverCode.recordUse?_one (hcount : code.usesCount.toNat + 1 < UInt32.size) :
    code.recordUse? 1 = some code.spent := by
  have hone : (1 : UInt32) ≤ code.usesCount + 1 := by
    rw [UInt32.le_iff_toNat_le, UInt32.toNat_add]
    have hsize : UInt32.size = 2 ^ 32 := rfl
    rw [Nat.mod_eq_of_lt (hsize ▸ hcount)]
    exact Nat.le_add_left _ _
  simp [RecoverCode.recordUse?, RecoverCode.spent, hcount, hone]

namespace CodeStore

/-- A challenge is found if it can be used. -/
theorem undisturbed_findChallenge
    (hfind : server.database.codes.find RecoverCode.form text = .ok (some code))
    (hkind : code.kind = .challenge) (hnow : server.now? = some now) :
    (findChallenge text).undisturbed server =
      (if code.isUsable now then .ok code else .error (.refused .expiredCode), server) := by
  have hrun : (Call.findCode text).run server.database = .ok (some code, server.database) :=
    Call.lookedUp_iff.2 ⟨hfind, rfl⟩
  refine (Flow.undisturbed_call hrun _ _).trans ?_
  show Flow.undisturbed (if code.kind = .challenge then _ else _) server = _
  rw [if_pos hkind]
  refine (Flow.undisturbed_readClock hnow _ _).trans ?_
  show Flow.undisturbed (if code.isUsable now = true then _ else _) server = _
  split <;> rfl

/-- A code that is no challenge is not found as one. -/
theorem undisturbed_findChallenge_unknown {found : Option RecoverCode}
    (hfind : server.database.codes.find RecoverCode.form text = .ok found)
    (hkind : ∀ code ∈ found, code.kind ≠ .challenge) :
    (findChallenge text).undisturbed server = (.error (.refused .unknownCode), server) := by
  have hrun : (Call.findCode text).run server.database = .ok (found, server.database) :=
    Call.lookedUp_iff.2 ⟨hfind, rfl⟩
  refine (Flow.undisturbed_call hrun _ _).trans ?_
  cases found with
  | none => rfl
  | some code =>
    show Flow.undisturbed (if code.kind = .challenge then _ else _) server = _
    rw [if_neg (hkind code rfl)]
    rfl

/-- A challenge that can be used is used up. -/
theorem undisturbed_consumeChallenge
    (hfind : server.database.codes.find RecoverCode.form text = .ok (some code))
    (hkind : code.kind = .challenge) (hnow : server.now? = some now)
    (husable : code.isUsable now = true) (hcount : code.usesCount.toNat + 1 < UInt32.size) :
    (consumeChallenge text).undisturbed server = (.ok code.spent, { server with
      database.codes := server.database.codes.write RecoverCode.form text code.spent }) := by
  have hrun := Call.run_consumeCode_consumed hfind hkind husable
    (RecoverCode.recordUse?_one hcount)
  refine (Flow.undisturbed_readClock hnow _ _).trans ?_
  exact Flow.undisturbed_call hrun _ _

end CodeStore

namespace Service

/-- A new session bears the second of the numbers that are drawn for it. -/
theorem undisturbed_startSession {ttl : Duration} {expiresAt : Instant}
    (hnow : server.now? = some now)
    (hexpires : now.add? ttl = some expiresAt) (user : UserSnapshot) (workspace : WorkspaceRef)
    (network : Network) :
    (startSession ttl user workspace network).undisturbed server =
      (.ok ⟨SerialId.grouped (server.idsDrawn + 1), SerialId.grouped (server.idsDrawn + 2), user,
        workspace, network, now, expiresAt⟩, { server with idsDrawn := server.idsDrawn + 2 }) := by
  refine (Flow.undisturbed_readClock hnow _ _).trans ?_
  show Flow.undisturbed ((Flow.inCalendar (now.add? ttl)).bind _) server = _
  rw [hexpires]
  rfl

end Service

/-- The server with a session in its row and in the cache. -/
def Server.withSession (server : Server) (session : Session) : Server :=
  { server with
    database.sessions := server.database.sessions.write Session.form session.token session
    cache := server.cache.put (.persisted session) }

theorem SessionStore.undisturbed_add (session : Session) :
    (add session).undisturbed server = (.ok (), server.withSession session) := by
  unfold add
  rw [Flow.undisturbed_locked]
  exact Flow.undisturbed_call rfl _ _

end

/-! ### A sign-in as a whole -/

section
variable {server : Server} {verifier : Verifier} {now : Instant} {request : SignInRequest}
  {challenge : RecoverCode} {owner : User} {w : Workspace} {service : Service}

namespace Service

/-- A session for the user, in the workspace of the user. It is the part of
a sign-in that comes once the challenge is used up. -/
def openSession (service : Service) (owner : User) (network : Network) : Flow Session := do
  let workspace ← Flow.require (.notFound "Workspace")
    (← call (.findWorkspace owner.defaultWorkspaceId))
  let session ← startSession service.sessionTtl owner.snapshot workspace.toRef network
  SessionStore.add session
  return session

/-- The part of a sign-in that comes once the owner of the challenge is
known. -/
def signInAs (service : Service) (verifier : Verifier) (request : SignInRequest) (owner : User) :
    Flow Session := do
  let signer ← Flow.require .invalidCredentials
    (verifier request.encoder request.digest request.signature)
  if !sameUpToCase signer owner.address then Flow.refuse .invalidCredentials
  else if request.encoder ≠ owner.accountType then
    Flow.refuse (.unauthorized .invalidEncoder "Encoder does not match the account type")
  else
    let challenge ← CodeStore.consumeChallenge request.digest
    service.openSession owner challenge.network

end Service

/-- The server with the challenge used up. -/
def Server.spending (server : Server) (digest : String) (challenge : RecoverCode) : Server :=
  { server with
    database.codes := server.database.codes.write RecoverCode.form digest challenge.spent }

@[simp] theorem Server.now?_spending (server : Server) (digest : String)
    (challenge : RecoverCode) : (server.spending digest challenge).now? = server.now? := rfl

@[simp] theorem Server.findWorkspace_spending (server : Server) (digest : String)
    (challenge : RecoverCode) (id : String) :
    (server.spending digest challenge).database.findWorkspace id =
      server.database.findWorkspace id := rfl

/-- The server with two more numbers drawn. -/
def Server.drawingTwo (server : Server) : Server := { server with idsDrawn := server.idsDrawn + 2 }

/-- The session that is opened next, from now on. -/
def Server.nextSession (server : Server) (owner : User) (w : Workspace) (network : Network)
    (now expiresAt : Instant) : Session :=
  ⟨SerialId.grouped (server.idsDrawn + 1), SerialId.grouped (server.idsDrawn + 2), owner.snapshot,
    w.toRef, network, now, expiresAt⟩

namespace Service

theorem undisturbed_openSession (server : Server) (network : Network)
    (hnow : server.now? = some now)
    {expiresAt : Instant} (hexpires : now.add? service.sessionTtl = some expiresAt)
    (hworkspace : server.database.findWorkspace owner.defaultWorkspaceId = .ok (some w)) :
    (service.openSession owner network).undisturbed server =
      (.ok (server.nextSession owner w network now expiresAt),
        server.drawingTwo.withSession (server.nextSession owner w network now expiresAt)) := by
  have hrun : (Call.findWorkspace owner.defaultWorkspaceId).run server.database =
      .ok (some w, server.database) := Call.lookedUp_iff.2 ⟨hworkspace, rfl⟩
  refine (Flow.undisturbed_call hrun _ _).trans ?_
  refine (Flow.undisturbed_bind_ok (undisturbed_startSession hnow hexpires _ _ _) _).trans ?_
  exact Flow.undisturbed_bind_ok (SessionStore.undisturbed_add _) _

theorem undisturbed_openSession_homeless (network : Network)
    (hworkspace : server.database.findWorkspace owner.defaultWorkspaceId = .ok none) :
    (service.openSession owner network).undisturbed server =
      (.error (.refused (.notFound "Workspace")), server) := by
  have hrun : (Call.findWorkspace owner.defaultWorkspaceId).run server.database =
      .ok (none, server.database) := Call.lookedUp_iff.2 ⟨hworkspace, rfl⟩
  exact Flow.undisturbed_call hrun _ _

/-- A request that names a challenge is judged by the owner of it. -/
theorem undisturbed_signIn (hverifier : service.verifier = some verifier)
    (hnow : server.now? = some now) (hnames : request.Names server now challenge)
    {found : Option User}
    (hfind : server.database.users.find User.form challenge.ownerId = .ok found) :
    (service.signIn request).undisturbed server =
      ((Flow.require .invalidCredentials found).bind
        (service.signInAs verifier request)).undisturbed server := by
  have hfound : (CodeStore.findChallenge request.digest).undisturbed server =
      (.ok challenge, server) := by
    rw [CodeStore.undisturbed_findChallenge hnames.stored hnames.kind hnow,
      if_pos (RecoverCode.isUsable_iff.2 ⟨hnames.unused, hnames.inTime⟩)]
  have hrun : (Call.findUser challenge.ownerId).run server.database =
    .ok (found, server.database) :=
    Call.lookedUp_iff.2 ⟨hfind, rfl⟩
  unfold signIn
  rw [hverifier]
  refine (Flow.undisturbed_bind_ok hfound _).trans ?_
  exact Flow.undisturbed_call hrun _ _

/-- Who has not signed is not known. -/
theorem signInAs_unsigned (hnot : ¬ request.SignedBy verifier owner) :
    service.signInAs verifier request owner = Flow.refuse .invalidCredentials := by
  unfold signInAs
  cases hsigner : verifier request.encoder request.digest request.signature with
  | none => rfl
  | some signer =>
    have hother : sameUpToCase signer owner.address = false :=
      Bool.eq_false_iff.2 fun hsame => hnot ⟨signer, hsigner, hsame⟩
    show (if (!sameUpToCase signer owner.address) = true then _ else _) = _
    rw [hother]
    rfl

/-- Who has signed has to have done so with the right encoder. -/
theorem signInAs_signed (hsigned : request.SignedBy verifier owner) :
    service.signInAs verifier request owner =
      if request.encoder ≠ owner.accountType then
        Flow.refuse (.unauthorized .invalidEncoder "Encoder does not match the account type")
      else (CodeStore.consumeChallenge request.digest).bind fun challenge =>
        service.openSession owner challenge.network := by
  obtain ⟨signer, hsigner, hsame⟩ := hsigned
  unfold signInAs
  rw [hsigner]
  show (if (!sameUpToCase signer owner.address) = true then _ else _) = _
  rw [hsame]
  rfl

/-- A request that answers a challenge uses it up, and then a session is
opened. -/
theorem undisturbed_signIn_of_answers (hverifier : service.verifier = some verifier)
    (hnow : server.now? = some now) (h : request.Answers server verifier now challenge owner)
    (hcount : challenge.usesCount.toNat + 1 < UInt32.size) :
    (service.signIn request).undisturbed server =
      (service.openSession owner challenge.network).undisturbed
        (server.spending request.digest challenge) := by
  obtain ⟨hnames, howned, hsigned, hencoder⟩ := h
  rw [undisturbed_signIn hverifier hnow hnames howned]
  show (service.signInAs verifier request owner).undisturbed server = _
  rw [signInAs_signed hsigned, if_neg (not_not_intro hencoder)]
  have husable := RecoverCode.isUsable_iff.2 ⟨hnames.unused, hnames.inTime⟩
  exact Flow.undisturbed_bind_ok
    (CodeStore.undisturbed_consumeChallenge hnames.stored hnames.kind hnow husable hcount) _

/-- Whoever lacks something is refused with it. -/
theorem undisturbed_signIn_of_lacks (hverifier : service.verifier = some verifier)
    (hnow : server.now? = some now)
    (hcount : ∀ challenge, request.Names server now challenge →
      challenge.usesCount.toNat + 1 < UInt32.size)
    {refusal : AuthError} (h : request.Lacks server verifier now refusal) :
    ((service.signIn request).undisturbed server).1 = .error (.refused refusal) := by
  cases h with
  | challenge hfind hkind =>
    unfold signIn
    rw [hverifier]
    exact congrArg Prod.fst
      (Flow.undisturbed_bind_error (CodeStore.undisturbed_findChallenge_unknown hfind hkind) _)
  | @usableChallenge code hfind hkind hover =>
    have hunusable : ¬ code.isUsable now = true := by
      rw [RecoverCode.isUsable_iff]
      rintro ⟨hunused, hinTime⟩
      rcases hover with hused | hlate
      · cases hunused.symm.trans hused
      · exact Timestamp.not_lt.2 hlate hinTime
    have hfound := CodeStore.undisturbed_findChallenge hfind hkind hnow
    rw [if_neg hunusable] at hfound
    unfold signIn
    rw [hverifier]
    exact congrArg Prod.fst (Flow.undisturbed_bind_error hfound _)
  | owner hnames hfind =>
    rw [undisturbed_signIn hverifier hnow hnames hfind]
    rfl
  | signature hnames hfind hnot =>
    rw [undisturbed_signIn hverifier hnow hnames hfind]
    show ((service.signInAs verifier request _).undisturbed server).1 = _
    rw [signInAs_unsigned hnot]
    rfl
  | encoder hnames hfind hsigned hnot =>
    rw [undisturbed_signIn hverifier hnow hnames hfind]
    show ((service.signInAs verifier request _).undisturbed server).1 = _
    rw [signInAs_signed hsigned, if_pos hnot]
    rfl
  | workspace hanswers hfind =>
    rw [undisturbed_signIn_of_answers hverifier hnow hanswers (hcount _ hanswers.names),
      undisturbed_openSession_homeless]
    exact hfind

end Service

end

/-! ### Every course can be read -/

/-- Every row of the tables that operations only look into can be read. -/
def Database.Furnished (db : Database) : Prop :=
  ∀ shelf : Shelf, shelf ≠ .sessions → shelf ≠ .codes → shelf.Holds (shelf.table db)

/-- Operations leave those tables as they are. -/
theorem Database.Furnished.perform {server : Server} (h : server.database.Furnished) {α : Type}
    (weather : Weather) (limit : Option Nat) (flow : Flow α) :
    (server.perform weather limit flow).2.database.Furnished := by
  obtain ⟨sessions, codes, hframe⟩ := server.frame_of_perform weather limit flow
  rw [hframe]
  intro shelf hsessions hcodes
  cases shelf with
  | sessions => exact absurd rfl hsessions
  | codes => exact absurd rfl hcodes
  | users | workspaces | dapps => exact h _ hsessions hcodes

namespace Course

variable {course : Course}

theorem furnished_next (h : course.server.database.Furnished) (turn : Turn) :
    (course.next turn).server.database.Furnished := by
  cases turn with
  | operate service operation conditions =>
    show (course.operate service operation conditions).server.database.Furnished
    rw [server_operate]
    exact h.perform _ _ _
  | sweepRound conditions retention =>
    exact Server.sweepRound_snd (p := fun server => server.database.Furnished)
      (h.perform _ _ sweepNow) fun _ hswept => hswept.perform _ _ (CodeStore.purge retention)
  | sweep | purge => exact h.perform _ _ _
  | restart | setClock | putResource => exact h
  | putUser user =>
    intro shelf hsessions hcodes
    cases shelf with
    | users => exact Shelf.Holds.write (h .users hsessions hcodes) user.id trivial
    | sessions | codes | workspaces | dapps => exact h _ hsessions hcodes
  | putWorkspace w =>
    intro shelf hsessions hcodes
    cases shelf with
    | workspaces => exact Shelf.Holds.write (h .workspaces hsessions hcodes) w.id trivial
    | sessions | codes | users | dapps => exact h _ hsessions hcodes
  | putDapp dapp =>
    intro shelf hsessions hcodes
    cases shelf with
    | dapps => exact Shelf.Holds.write (h .dapps hsessions hcodes) dapp.sessionId trivial
    | sessions | codes | users | workspaces => exact h _ hsessions hcodes

/-- Whatever happens in a course, every row can be read. -/
theorem readable_ofTurns (capacity : Nat) (clock : Int) (turns : List Turn) :
    (ofTurns capacity clock turns).server.database.Readable := by
  have hbacked := (Sound.ofTurns capacity clock turns).backed
  have hfurnished : (ofTurns capacity clock turns).server.database.Furnished :=
    List.foldlRecOn (motive := fun course : Course => course.server.database.Furnished) turns next
      (fun shelf _ _ => Database.Readable.empty shelf) fun _ h turn _ => furnished_next h turn
  -- Sessions and codes were all written by the service, in their own form.
  intro shelf
  cases shelf with
  | sessions =>
    intro token row hrow
    obtain ⟨session, -, -, heq⟩ := hbacked.rows token row hrow
    exact ⟨session, trivial, heq⟩
  | codes =>
    intro text row hrow
    obtain ⟨code, -, hstored, heq⟩ := hbacked.codes text row hrow
    refine ⟨code, ?_, heq⟩
    obtain ⟨issued, usesCount, used, -, hplain, rfl, -⟩ := hstored
    exact Json.Value.Plain.mono (by decide) hplain
  | users | workspaces | dapps => exact hfurnished _ nofun nofun

end Course

/-- Where every row can be read, a request has all that it needs, or there
is a first thing that it lacks. -/
theorem SignInRequest.inOrder_or_lacks {server : Server} (hreadable : server.database.Readable)
    (verifier : Verifier) (now : Instant) (request : SignInRequest) :
    (∃ challenge owner w, request.InOrder server verifier now challenge owner w) ∨
      ∃ refusal, request.Lacks server verifier now refusal := by
  -- What is needed is looked for in the order of the refusals.
  obtain ⟨found, hstored⟩ := Table.exists_find (hreadable .codes).decodes request.digest
  by_cases hkind : ∃ code ∈ found, code.kind = .challenge
  case neg => exact .inr ⟨_, .challenge hstored fun code hmem hkind' => hkind ⟨code, hmem, hkind'⟩⟩
  obtain ⟨challenge, rfl, hkind⟩ := hkind
  by_cases hover : challenge.used = true ∨ challenge.validAt ≤ Timestamp.ofInstant now
  case pos => exact .inr ⟨_, .usableChallenge hstored hkind hover⟩
  obtain ⟨hunused, hinTime⟩ := not_or.1 hover
  have hnames : request.Names server now challenge :=
    ⟨hstored, hkind, Bool.eq_false_iff.2 hunused, Timestamp.not_le.1 hinTime⟩
  obtain ⟨owner?, howned⟩ := Table.exists_find (hreadable .users).decodes challenge.ownerId
  cases owner? with
  | none => exact .inr ⟨_, .owner hnames howned⟩
  | some owner =>
    by_cases hsigned : request.SignedBy verifier owner
    case neg => exact .inr ⟨_, .signature hnames howned hsigned⟩
    by_cases hencoder : request.encoder = owner.accountType
    case neg => exact .inr ⟨_, .encoder hnames howned hsigned hencoder⟩
    have hanswers : request.Answers server verifier now challenge owner :=
      ⟨hnames, howned, hsigned, hencoder⟩
    obtain ⟨w?, hworkspace⟩ :=
      Table.exists_find (hreadable .workspaces).decodes owner.defaultWorkspaceId
    cases w? with
    | none => exact .inr ⟨_, .workspace hanswers hworkspace⟩
    | some w => exact .inl ⟨challenge, owner, w, hanswers, hworkspace⟩

/-! ### A new token -/

section
variable {n : Nat}

theorem SerialId.exists_toList_grouped (n : Nat) : ∃ rest, (grouped n).toList = '0' :: rest :=
  List.head?_eq_some_iff.1 (head?_grouped n)

/-- No mark begins with a digit. -/
theorem CredentialKind.of_grouped (n : Nat) : of (SerialId.grouped n) = .bearer := by
  obtain ⟨rest, hrest⟩ := SerialId.exists_toList_grouped n
  unfold of marked
  rw [hrest]
  rfl

theorem isBlankText_grouped (n : Nat) : Text.isBlankText (SerialId.grouped n) = false := by
  obtain ⟨rest, hrest⟩ := SerialId.exists_toList_grouped n
  have hdigit : Text.isBlank '0' = false := by decide
  simp [Text.isBlankText, hrest, hdigit]

/-- A session that was given out bears a number that was drawn. -/
theorem Course.Sound.idsDrawn_of_held {course : Course} (h : course.Sound) {session : Session}
    (hheld : Held course.minted session) (htoken : session.token = SerialId.grouped n) :
    n ≤ course.server.idsDrawn := by
  obtain ⟨request, given, expiry, hmem, rfl⟩ := hheld
  obtain ⟨m, hle, hnumbered⟩ := h.numbered _ hmem
  rwa [hnumbered.unique (.inl htoken)] at hle

/-- Nothing is stored under a token with a number that is still to be
drawn. -/
theorem Course.Sound.fresh {course : Course} (h : course.Sound) (hn : course.server.idsDrawn < n) :
    course.server.database.sessions.get? (SerialId.grouped n) = none ∧
      course.server.cache.peek (SerialId.grouped n) = none := by
  constructor
  · rw [Option.eq_none_iff_forall_ne_some]
    intro row hrow
    obtain ⟨session, htoken, hheld, -⟩ := h.backed.rows _ row hrow
    exact Nat.not_lt.2 (h.idsDrawn_of_held hheld htoken) hn
  · rw [Option.eq_none_iff_forall_ne_some]
    intro entry hentry
    obtain ⟨htoken, hheld⟩ := h.backed.entries _ entry hentry
    exact Nat.not_lt.2 (h.idsDrawn_of_held hheld htoken) hn

end

namespace Service

/-- Whoever presents the token is taken for the identity, at any time before
the expiry from which the session can be renewed. -/
def KnowsUntil (service : Service) (server : Server) (token : String) (identity : Identity)
    (expiresAt : Timestamp) : Prop :=
  ∀ (clock : Int) (now renewedUntil : Instant) (context : RequestContext) (weather : Weather)
    (limit : Option Nat),
    Instant.ofClock? clock = some now → Timestamp.ofInstant now < expiresAt →
    now.add? service.sessionTtl = some renewedUntil →
    weather.Spares limit {} ((service.authenticate token context).calls { server with clock }) →
    (Server.perform weather limit (service.authenticate token context)
      { server with clock }).1 = .ok identity

/-- A new session that is in its row and in the cache is known until it
expires. -/
theorem knowsUntil_of_cached (service : Service) (server : Server) {session : Session} {n : Nat}
    (htoken : session.token = SerialId.grouped n)
    (hrow : server.database.sessions.get? session.token = some (Session.form.encode session))
    (hcached : server.cache.peek session.token = some (.persisted session)) :
    service.KnowsUntil server session.token
      ⟨session.user, some session.workspace, session.network, none⟩ session.expiresAt := by
  intro clock now renewedUntil context weather limit hclock hbefore hrenewed hspares
  rw [Flow.perform_fst_of_spares hspares]
  have hnow : Server.now? { server with clock } = some now := hclock
  have hlive : (CachedSession.persisted session).session.isExpired now = false :=
    decide_eq_false (Timestamp.not_le.2 hbefore)
  obtain ⟨after, hget, hafter⟩ :=
    SessionStore.undisturbed_get service.sessionTtl hnow (.cached hcached) hrow
  have hpresented : SessionStore.presented service.sessionTtl now (.persisted session) =
      .ok (some (SessionStore.renewed (.persisted session) renewedUntil).session) := by
    simp [SessionStore.presented, hlive, hrenewed]
  rw [hpresented] at hget
  have hnow' : after.now? = some now := by
    unfold Server.now?
    rw [hafter]
    exact hclock
  -- The token is taken for one of a session, as it bears no mark.
  unfold authenticate
  rw [htoken, isBlankText_grouped, CredentialKind.of_grouped, ← htoken]
  refine congrArg Prod.fst (?_ : _ = (Except.ok _, after))
  refine (Flow.undisturbed_bind_ok hget _).trans ?_
  refine (Flow.undisturbed_readClock hnow' _ _).trans ?_
  -- The expiry is looked at once more, but a renewal never brings it forward.
  have hrenewedLive := SessionStore.isExpired_renewed hlive renewedUntil
  show Flow.undisturbed (if (SessionStore.renewed (.persisted session)
    renewedUntil).session.isExpired now = true then _ else _) after = _
  rw [hrenewedLive, if_neg (by decide)]
  unfold SessionStore.renewed
  split <;> rfl

/-- What a sign-in leaves. The session is new, in its row and in the cache,
the challenge is used up, and nothing else is written. -/
structure SignedIn (service : Service) (request : SignInRequest) (server : Server)
    (challenge : RecoverCode) (owner : User) (w : Workspace) (now expiresAt : Instant)
    (session : Session) (after : Server) : Prop where
  given : session = server.nextSession owner w challenge.network now expiresAt
  fresh : server.database.sessions.get? session.token = none ∧
    server.cache.peek session.token = none
  row : after.database.sessions.get? session.token = some (Session.form.encode session)
  cached : after.cache.peek session.token = some (.persisted session)
  spent : after.database.codes.get? request.digest = some (RecoverCode.form.encode challenge.spent)
  counted : challenge.spent.usesCount.toNat = challenge.usesCount.toNat + 1
  rows : ∀ token, token ≠ session.token →
    after.database.sessions.get? token = server.database.sessions.get? token
  codes : ∀ text, text ≠ request.digest →
    after.database.codes.get? text = server.database.codes.get? text
  entries : ∀ token, token ≠ session.token →
    after.cache.peek token = none ∨ after.cache.peek token = server.cache.peek token
  frame : after = { server with
    database.sessions := after.database.sessions
    database.codes := after.database.codes
    cache := after.cache
    idsDrawn := server.idsDrawn + 2 }
  known : service.KnowsUntil after session.token
    ⟨owner.snapshot, some w.toRef, challenge.network, none⟩ expiresAt

section
variable {service : Service} {verifier : Verifier} {server : Server} {now expiresAt : Instant}
  {request : SignInRequest} {challenge : RecoverCode} {owner : User} {w : Workspace}

/-- A request that has all that it needs is exchanged for a session. -/
theorem undisturbed_signIn_of_inOrder (hverifier : service.verifier = some verifier)
    (hnow : server.now? = some now) (hexpires : now.add? service.sessionTtl = some expiresAt)
    (h : request.InOrder server verifier now challenge owner w)
    (hcount : challenge.usesCount.toNat + 1 < UInt32.size) :
    (service.signIn request).undisturbed server =
      (.ok (server.nextSession owner w challenge.network now expiresAt),
        (server.spending request.digest challenge).drawingTwo.withSession
          (server.nextSession owner w challenge.network now expiresAt)) := by
  rw [undisturbed_signIn_of_answers hverifier hnow h.toAnswers hcount]
  exact undisturbed_openSession (server.spending request.digest challenge) challenge.network hnow
    hexpires h.workspace

/-- What the exchange leaves, if the token of the session is new. -/
theorem signedIn_of_fresh (htidy : server.cache.Tidy) (request : SignInRequest)
    (hcount : challenge.usesCount.toNat + 1 < UInt32.size) {session : Session}
    (hgiven : session = server.nextSession owner w challenge.network now expiresAt)
    (hfresh : server.database.sessions.get? session.token = none ∧
      server.cache.peek session.token = none) :
    service.SignedIn request server challenge owner w now expiresAt session
      ((server.spending request.digest challenge).drawingTwo.withSession session) := by
  have htoken : session.token = SerialId.grouped (server.idsDrawn + 2) := by rw [hgiven]; rfl
  have hrow : (server.database.sessions.write Session.form session.token session).get?
      session.token = some (Session.form.encode session) := Table.get?_write_self _ _ _
  have hcached := htidy.peek_put_self (.persisted session)
  refine ⟨hgiven, hfresh, hrow, hcached, Table.get?_write_self _ _ _, ?_, ?_, ?_, ?_, rfl, ?_⟩
  · show (challenge.usesCount + 1).toNat = _
    rw [UInt32.toNat_add]
    exact Nat.mod_eq_of_lt hcount
  · exact fun _ hne => Table.get?_write_of_ne _ _ hne
  · exact fun _ hne => Table.get?_write_of_ne _ _ hne
  · exact fun _ hne => SessionCache.peek_put_of_ne _ _ hne
  · have hknown := service.knowsUntil_of_cached
      ((server.spending request.digest challenge).drawingTwo.withSession session) htoken hrow
      hcached
    rw [hgiven] at hknown ⊢
    exact hknown

end

/-- Whatever happened before, a sign-in whose calls are all answered in time
gives a session if and only if the request has all that it needs, and is
refused with the first thing that it lacks otherwise. -/
theorem signIn_exact (capacity : Nat) (clock : Int) (turns : List Turn) (service : Service)
    (verifier : Verifier) (request : SignInRequest) (now expiresAt : Instant) (weather : Weather)
    (limit : Option Nat) (hverifier : service.verifier = some verifier)
    (hnow : (Course.ofTurns capacity clock turns).server.now? = some now)
    (hexpires : now.add? service.sessionTtl = some expiresAt)
    (hspares : weather.Spares limit {}
      ((service.signIn request).calls (Course.ofTurns capacity clock turns).server)) :
    let server := (Course.ofTurns capacity clock turns).server
    let ended := server.perform weather limit (service.signIn request)
    ((∃ session, ended.1 = .ok session) ↔
      ∃ challenge owner w, request.InOrder server verifier now challenge owner w) ∧
    (∀ why, ended.1 = .error why ↔
      ∃ refusal, why = .refused refusal ∧ request.Lacks server verifier now refusal) ∧
    ∀ session challenge owner w, ended.1 = .ok session →
      request.InOrder server verifier now challenge owner w →
        service.SignedIn request server challenge owner w now expiresAt session ended.2 := by
  intro server ended
  have hsound : (Course.ofTurns capacity clock turns).Sound := .ofTurns capacity clock turns
  have horderly : server.Orderly := Course.orderly_ofTurns capacity clock turns
  have hreadable : server.database.Readable := Course.readable_ofTurns capacity clock turns
  -- A challenge that was issued and not used yet has room for one use.
  have hcount (challenge : RecoverCode) (hnames : request.Names server now challenge) :
      challenge.usesCount.toNat + 1 < UInt32.size := by
    obtain ⟨-, issued, usesCount, used, -, -, rfl, hroom⟩ :=
      hsound.backed.code_of_find hnames.stored
    exact hroom hnames.unused
  have hgives {challenge : RecoverCode} {owner : User} {w : Workspace}
      (h : request.InOrder server verifier now challenge owner w) :
      ended = (.ok (server.nextSession owner w challenge.network now expiresAt),
        (server.spending request.digest challenge).drawingTwo.withSession
          (server.nextSession owner w challenge.network now expiresAt)) :=
    Flow.perform_ok_of_spares hspares
      (undisturbed_signIn_of_inOrder hverifier hnow hexpires h (hcount _ h.names))
  have hrefuses {refusal : AuthError} (h : request.Lacks server verifier now refusal) :
      ended.1 = .error (.refused refusal) :=
    (Flow.perform_fst_of_spares hspares).trans
      (undisturbed_signIn_of_lacks hverifier hnow hcount h)
  refine ⟨⟨?_, ?_⟩, fun why => ⟨?_, ?_⟩, ?_⟩
  · rintro ⟨session, hok⟩
    rcases request.inOrder_or_lacks hreadable verifier now with horder | ⟨refusal, hlacks⟩
    · exact horder
    · cases hok.symm.trans (hrefuses hlacks)
  · rintro ⟨challenge, owner, w, horder⟩
    exact ⟨_, congrArg Prod.fst (hgives horder)⟩
  · intro herror
    rcases request.inOrder_or_lacks hreadable verifier now with
      ⟨_, _, _, horder⟩ | ⟨refusal, hlacks⟩
    · rw [hgives horder] at herror
      cases herror
    · exact ⟨refusal, Except.error.inj (herror.symm.trans (hrefuses hlacks)), hlacks⟩
  · rintro ⟨refusal, rfl, hlacks⟩
    exact hrefuses hlacks
  · intro session challenge owner w hok horder
    rw [hgives horder] at hok ⊢
    cases hok
    -- The number of the token is still to be drawn, so there is no such token.
    exact signedIn_of_fresh horderly.tidy request (hcount _ horder.names) rfl
      (hsound.fresh (Nat.lt_add_of_pos_right Nat.two_pos))

/-! ### Ann signs in -/

/-- A challenge that is issued to a user can be answered by the user. It
bears the second of the numbers that are drawn for it. -/
theorem yields_issueChallenge {service : Service} {server : Server} {user : User} {now : Instant}
    (hnow : server.now? = some now) (httl : 0 < service.codeTtl) {validAt : Instant}
    (hvalid : now.add? service.codeTtl = some validAt) {address : String}
    (haddress : server.database.addresses.get? (Text.lowercase address) = some user.id)
    (huser : server.database.users.find User.form user.id = .ok (some user)) (origin : String)
    (network : Network) :
    (service.issueChallenge address origin network).Yields (fun issued after =>
      (∀ signature encoder,
        SignInRequest.Names ⟨issued.code, signature, encoder⟩ after now issued) ∧
        issued.code = codeMark ++ SerialId.plain (server.idsDrawn + 2) ∧
        issued.ownerId = user.id ∧ issued.usesCount = 0 ∧ after.clock = server.clock ∧
        ∃ codes, after.database = { server.database with codes }) server := by
  have hfind : (Call.findUserByAddress address).run server.database =
      .ok (some user, server.database) := by
    simp only [Call.run, haddress]
    exact Call.lookedUp_iff.2 ⟨huser, rfl⟩
  have hlater := Timestamp.ofInstant_lt_of_add? hvalid httl
  refine .call hfind (.readClock hnow ?_)
  show ((Flow.inCalendar (now.add? service.codeTtl)).bind _).Yields _ _
  rw [hvalid]
  refine .drawId (.drawId (.call rfl ⟨fun signature encoder => ?_, rfl, rfl, rfl, rfl, _, rfl⟩))
  have hplain : (Json.Value.object []).Plain 2 :=
    ⟨.nil, fun _ hmember => absurd hmember List.not_mem_nil⟩
  exact ⟨Table.find_of_get? (Table.get?_write_self _ _ _)
    (RecoverCode.decode_encode hplain (by decide)), rfl, rfl, hlater⟩

/-- Ann, as one who signs with an address. -/
def signingAnn : User := { Connector.ann with address := "0xA" }

/-- Every signature is taken for Ann's. -/
def trusting : Verifier := fun _ _ _ => some "0xa"

/-- Ann gets to be stored, and a challenge is issued to her. -/
def challengeTurns : List Turn :=
  [.putUser signingAnn,
    .operate (.ofSettings {} none) (.issueChallenge "0xa" "" default) .fair]

/-- What Ann sends to sign in. -/
def annsAnswer : SignInRequest := ⟨codeMark ++ SerialId.plain 2, "", .fuel⟩

/-- Ann can answer the challenge, and has not done so yet. -/
theorem answers_challengeTurns {turns : List Turn}
    (hclock : (Course.ofTurns 1 0 turns).server.clock = 0)
    (hids : (Course.ofTurns 1 0 turns).server.idsDrawn = 0) :
    ∃ challenge,
      annsAnswer.Answers (Course.ofTurns 1 0 (turns ++ challengeTurns)).server trusting .epoch
        challenge signingAnn ∧ challenge.usesCount = 0 ∧
      (Course.ofTurns 1 0 (turns ++ challengeTurns)).server.now? = some .epoch ∧
      (Course.ofTurns 1 0 (turns ++ challengeTurns)).server.database.workspaces =
        (Course.ofTurns 1 0 turns).server.database.workspaces := by
  have hcourse : Course.ofTurns 1 0 (turns ++ challengeTurns) =
      challengeTurns.foldl Course.next (Course.ofTurns 1 0 turns) := List.foldl_append
  let before := (Course.ofTurns 1 0 turns).next (.putUser signingAnn)
  have hnow : before.server.now? = some .epoch := by
    show Instant.ofClock? (Course.ofTurns 1 0 turns).server.clock = _
    rw [hclock]
    rfl
  have hlower : Text.lowercase "0xa" = "0xa" := by decide
  have hsigner : Text.lowercase signingAnn.address = "0xa" := by decide
  have haddress : before.server.database.addresses.get? (Text.lowercase "0xa") =
      some signingAnn.id := by
    show (SortedMap.insert _ (Text.lowercase signingAnn.address) _).get? _ = _
    rw [hsigner, hlower]
    exact SortedMap.get?_insert_self _ _ _
  have huser : before.server.database.users.find User.form signingAnn.id = .ok (some signingAnn) :=
    Table.find_of_get? (Table.get?_write_self _ _ _) (User.decode_encode _)
  let issues := Service.issueChallenge (.ofSettings {} none) "0xa" "" default
  have hissued : issues.Yields _ before.server :=
    yields_issueChallenge hnow (by decide) rfl haddress huser "" default
  obtain ⟨challenge, -, hnames, htext, howner, hunused, hafter, codes, hdatabase⟩ := hissued.perform
  have hserver : (Course.ofTurns 1 0 (turns ++ challengeTurns)).server =
      (before.server.perform .fair none issues).2 := by
    rw [hcourse]
    exact before.server_operate (.ofSettings {} none) (.issueChallenge "0xa" "" default) .fair
  rw [← hserver] at hnames hafter hdatabase
  have hbefore : before.server.idsDrawn = 0 := hids
  have hdigest : challenge.code = annsAnswer.digest := by
    rw [htext, hbefore]
    rfl
  refine ⟨challenge, ⟨?_, ?_, ⟨"0xa", rfl, by decide⟩, rfl⟩, hunused, ?_, ?_⟩
  · have hnames := hnames "" .fuel
    rwa [hdigest] at hnames
  · rw [howner, hdatabase]
    exact huser
  · unfold Server.now?
    rw [hafter]
    exact hnow
  · rw [hdatabase]
    rfl

/-- Ann's workspace. -/
def annsWorkspace : Workspace := { (default : Workspace) with id := "w" }

/-- With a workspace to work in, Ann gets a session. -/
theorem signIn_exact_of_ann : ∃ challenge session after,
    let server := (Course.ofTurns 1 0 ([.putWorkspace annsWorkspace] ++ challengeTurns)).server
    let service := Service.ofSettings {} (some trusting)
    annsAnswer.InOrder server trusting .epoch challenge signingAnn annsWorkspace ∧
      server.perform .fair none (service.signIn annsAnswer) = (.ok session, after) ∧
      session.user = signingAnn.snapshot ∧
      after.database.sessions.get? session.token = some (Session.form.encode session) ∧
      challenge.usesCount = 0 ∧ after.database.codes.get? annsAnswer.digest =
        some (RecoverCode.form.encode { challenge with usesCount := 1, used := true }) := by
  let service := Service.ofSettings {} (some trusting)
  obtain ⟨challenge, hanswers, hunused, hnow, hworkspaces⟩ :=
    @answers_challengeTurns [.putWorkspace annsWorkspace] rfl rfl
  have horder : annsAnswer.InOrder
      (Course.ofTurns 1 0 ([.putWorkspace annsWorkspace] ++ challengeTurns)).server
      trusting .epoch challenge signingAnn annsWorkspace := by
    refine ⟨hanswers, ?_⟩
    unfold Database.findWorkspace
    rw [hworkspaces]
    exact Table.find_of_get? (Table.get?_write_self _ _ _) (Workspace.decode_encode _)
  obtain ⟨expiresAt, hexpires⟩ :
      ∃ expiresAt, Instant.epoch.add? service.sessionTtl = some expiresAt :=
    ⟨_, rfl⟩
  -- From here on it does not matter what the turns were.
  generalize [.putWorkspace annsWorkspace] ++ challengeTurns = turns at *
  obtain ⟨hiff, -, hgives⟩ := signIn_exact 1 0 turns service trusting annsAnswer .epoch expiresAt
    .fair none rfl hnow hexpires (Flow.spares_fair _ _)
  obtain ⟨session, hok⟩ := hiff.2 ⟨_, _, _, horder⟩
  have hsigned := hgives session _ _ _ hok horder
  generalize hended : Server.perform .fair none (service.signIn annsAnswer) _ = ended
    at hok hsigned
  obtain ⟨_, after⟩ := ended
  cases hok
  refine ⟨challenge, session, after, horder, hended, ?_, hsigned.row, hunused, ?_⟩
  · rw [hsigned.given]
    rfl
  · rw [hsigned.spent]
    unfold RecoverCode.spent
    rw [hunused]
    rfl

end Service

end Gatekeeper

import Gatekeeper.Proofs.Course

/-!
# `Gatekeeper.Proofs.Provenance`: whom a credential stands for

Whoever is authenticated presents something that was given out, and is
taken for the one that it was given out to. `Course.Stands` says so for
each kind of credential. A session token stands for the owner of the
challenge that the sign-in answered, a code for who requested it as the
user is stored now, and a connector credential for the user that the dapp
is bound to.

Each operation is accountable for what it writes. There is one lemma for
each of its parts in the namespace `Accountable`, up to
`Accountable.operation`. The one about `authenticate` says on the way whom
the credential stands for. `Course.Sound` is what holds of a course after
every turn (`Sound.next`), and `Course.authenticated` puts both together.
-/

set_option autoImplicit false

namespace Gatekeeper

open Connector (Conditions)

/-- What was given out was given out properly, and is told apart by its
text. -/
structure Course.Sound (course : Course) : Prop where
  users : course.server.database.UsersKeyed
  backed : Backed course.minted course.server
  proper : ∀ mint ∈ course.minted, mint.Proper course.minted
  numbered : ∀ mint ∈ course.minted, ∃ n ≤ course.server.idsDrawn, Numbered mint.credential n
  distinct : (course.minted.map Mint.credential).Nodup

namespace Course

/-- The session token stands for the owner of the challenge that the sign-in
answered, as the session says. -/
def StandsAsToken (course : Course) (raw : String) (identity : Identity) : Prop :=
  ∃ request given challenge, .session request given ∈ course.minted ∧ given.token = raw ∧
    identity = ⟨given.user, some given.workspace, given.network, none⟩ ∧
    .challenge challenge ∈ course.minted ∧ challenge.code = request.digest ∧
    identity.userId = challenge.ownerId

/-- The code stands for who requested it, as the user is stored now, in the
user's own workspace if it is stored. -/
def StandsAsCode (course : Course) (raw : String) (identity : Identity) : Prop :=
  ∃ requester issued user workspace?, .code requester issued ∈ course.minted ∧ issued.code = raw ∧
    course.server.database.users.find User.form requester.userId = .ok (some user) ∧
    course.server.database.findWorkspace user.defaultWorkspaceId = .ok workspace? ∧
    identity = ⟨user.snapshot, workspace?.map (·.toRef), requester.network, none⟩ ∧
    identity.userId = requester.userId

/-- The connector credential stands for the user that the dapp is bound to,
in no workspace. -/
def StandsAsConnector (course : Course) (raw : String) (identity : Identity) : Prop :=
  ∃ dapp user,
    course.server.database.dapps.find DappBinding.form (connectorSession raw) = .ok (some dapp) ∧
    course.server.database.users.find User.form dapp.userId = .ok (some user) ∧
    identity = ⟨user.snapshot, none, dapp.network, some dapp⟩ ∧ identity.userId = dapp.userId

/-- Whom the credential stands for. -/
def Stands (course : Course) (raw : String) : Identity → Prop :=
  match CredentialKind.of raw with
  | .bearer => course.StandsAsToken raw
  | .code | .cli => course.StandsAsCode raw
  | .connector => course.StandsAsConnector raw

end Course

namespace Course.Sound

variable {course : Course} {code : RecoverCode}

/-- A stored challenge was issued as one. -/
theorem challenge_of_stored (h : course.Sound) (hstored : Stored course.minted code)
    (hkind : code.kind = .challenge) : ∃ challenge, .challenge challenge ∈ course.minted ∧
      challenge.code = code.code ∧ challenge.ownerId = code.ownerId := by
  obtain ⟨issued, usesCount, used, hmem | ⟨requester, hmem⟩, -, rfl, -⟩ := hstored
  · exact ⟨issued, hmem, rfl, rfl⟩
  · cases hkind.symm.trans (h.proper _ hmem).2.1

/-- A stored one-time code was issued to who requested it. -/
theorem requester_of_stored (h : course.Sound) (hstored : Stored course.minted code)
    (hkind : code.kind = .oneTime) : ∃ requester issued,
      .code requester issued ∈ course.minted ∧ issued.code = code.code ∧
      code.ownerId = requester.userId ∧ code.network = requester.network := by
  obtain ⟨issued, usesCount, used, hmem | ⟨requester, hmem⟩, -, rfl, -⟩ := hstored
  · cases hkind.symm.trans (h.proper _ hmem).2
  · obtain ⟨-, -, howner, hnetwork⟩ := h.proper _ hmem
    exact ⟨requester, issued, hmem, rfl, howner, hnetwork⟩

/-- A session that was given out is for the owner of a challenge. -/
theorem challenge_of_session (h : course.Sound) {request : SignInRequest} {given : Session}
    (hmem : .session request given ∈ course.minted) : ∃ challenge,
      .challenge challenge ∈ course.minted ∧ challenge.code = request.digest ∧
      given.user.id = challenge.ownerId :=
  h.proper _ hmem

end Course.Sound

/-! ### Operations are accountable -/

namespace Accountable

open Gatekeeper.Flow (call take locked)

variable {course : Course} {purpose : Purpose} {tab : Tab} {α : Type}

/-- An operation goes on from an answer with what it tells. -/
theorem step {s : Step} {next : s.Answer → Flow α} {failed : StoreError → Flow α}
    {post : Tab → Except Stop α → Prop}
    (hallows : (accountable course purpose).allows tab s)
    (hnext : ∀ answer, course.Tells tab s answer →
      (next answer).Follows (accountable course purpose) post (tab.after purpose s)) :
    (Flow.step s next failed).Follows (accountable course purpose) post tab := by
  refine ⟨hallows, ?_⟩
  rintro answer _ ⟨htold, rfl⟩
  exact hnext answer htold

theorem locked {token : String} {flow : Flow α} {post : Tab → Except Stop α → Prop}
    (hnone : tab.mint = none) (h : flow.Follows (accountable course purpose) post tab) :
    (locked token flow).Follows (accountable course purpose) post tab := by
  refine step hnone fun _ _ => ?_
  show (flow.bind fun a => (take (.unlock token)).bind fun _ => .done a).Follows _ post tab
  refine Flow.Follows.bind (h.mono ?_)
  intro tab' end? hpost
  cases end? with
  | ok a => exact step trivial fun _ _ => hpost
  | error why => exact hpost

/-- The tab is as before, and what is given satisfies `p`. -/
def Gives {β : Type} (p : β → Prop) (tab tab' : Tab) (end? : Except Stop β) : Prop :=
  tab' = tab ∧ ∀ b, end? = .ok b → p b

theorem Gives.ok {β : Type} {p : β → Prop} {b : β} (h : p b) : Gives p tab tab (.ok b) := by
  refine ⟨rfl, ?_⟩
  rintro _ ⟨⟩
  exact h

theorem Gives.error {β : Type} {p : β → Prop} (why : Stop) : Gives p tab tab (.error why) :=
  ⟨rfl, fun _ h => by cases h⟩

/-- Who leaves the tab as it was at the start has minted nothing. -/
theorem Gives.mint {β : Type} {p : β → Prop} {drawn : Nat} {tab' : Tab} {end? : Except Stop β}
    (h : Gives p ⟨drawn, none⟩ tab' end?) : tab'.mint = end?.toOption.bind fun _ => none := by
  rw [h.1]
  cases end? <;> rfl

/-- A part of an operation that leaves the tab as it is may come first. -/
theorem after {β : Type} {p : β → Prop} {flow : Flow β} {f : β → Flow α}
    {post : Tab → Except Stop α → Prop}
    (h : flow.Follows (accountable course purpose) (Gives p tab) tab)
    (hstop : ∀ why, post tab (.error why))
    (hnext : ∀ b, p b → (f b).Follows (accountable course purpose) post tab) :
    (flow.bind f).Follows (accountable course purpose) post tab := by
  refine Flow.Follows.bind (h.mono ?_)
  rintro _ end? ⟨rfl, hp⟩
  cases end? with
  | ok b => exact hnext b (hp b rfl)
  | error why => exact hstop why

/-- What is required is there, or the operation stops. -/
theorem require {β : Type} {error : AuthError} {found : Option β} {f : β → Flow α}
    {post : Tab → Except Stop α → Prop} (hstop : ∀ why, post tab (.error why))
    (hnext : ∀ b, found = some b → (f b).Follows (accountable course purpose) post tab) :
    ((Flow.require error found).bind f).Follows (accountable course purpose) post tab := by
  cases found with
  | some b => exact hnext b rfl
  | none => exact hstop _

/-- The time is one that the calendar has, or the operation stops. -/
theorem inCalendar {time : Option Instant} {f : Instant → Flow α}
    {post : Tab → Except Stop α → Prop} (hstop : ∀ why, post tab (.error why))
    (hnext : ∀ t, (f t).Follows (accountable course purpose) post tab) :
    ((Flow.inCalendar time).bind f).Follows (accountable course purpose) post tab := by
  cases time with
  | some t => exact hnext t
  | none => exact hstop _

/-- A choice between two ways goes well if both of them do. -/
theorem choice {c : Prop} [Decidable c] {flow other : Flow α} {post : Tab → Except Stop α → Prop}
    (hyes : c → flow.Follows (accountable course purpose) post tab)
    (hno : ¬ c → other.Follows (accountable course purpose) post tab) :
    (if c then flow else other).Follows (accountable course purpose) post tab := by
  split
  next h => exact hyes h
  next h => exact hno h

/-! #### Sessions -/

/-- A session that is found was given out under the token. -/
def Finds (course : Course) (token : String) (found : Option Session) : Prop :=
  ∀ session, found = some session → session.token = token ∧ Held course.minted session

theorem Finds.some {token : String} {session : Session} (htoken : session.token = token)
    (hheld : Held course.minted session) : Finds course token (some session) := by
  rintro _ ⟨⟩
  exact ⟨htoken, hheld⟩

theorem Finds.none (token : String) : Finds course token none := by
  rintro _ ⟨⟩

/-- A session that is renewed is given, and may be written anew. -/
theorem renew (hnone : tab.mint = none) (ttl : Duration) {token : String} {entry : CachedSession}
    (htoken : entry.session.token = token) (hheld : Held course.minted entry.session) :
    (SessionStore.renew ttl token entry).Follows (accountable course purpose)
      (Gives (Finds course token) tab) tab := by
  have hremember : Held (tab.ledger course) entry.session := hheld.mono tab.mint
  refine choice (fun _ => ?_) fun _ => step hremember fun _ _ => .ok (.some htoken hheld)
  refine step ⟨hnone, hheld⟩ fun updated _ => choice (fun _ => ?_) fun _ => ?_
  · exact step hremember fun _ _ => .ok (.some htoken hheld)
  · exact step hnone fun _ _ => .ok (.none token)

theorem present (hnone : tab.mint = none) (ttl : Duration) {token : String} {entry : CachedSession}
    (htoken : entry.session.token = token) (hheld : Held course.minted entry.session) :
    (SessionStore.present ttl token entry).Follows (accountable course purpose)
      (Gives (Finds course token) tab) tab := by
  refine step hnone fun now _ => choice (fun _ => .ok (.some htoken hheld)) fun _ => ?_
  refine inCalendar .error fun renewedUntil => ?_
  refine renew hnone ttl ?_ (hheld.renewed renewedUntil)
  rw [SessionStore.token_renewed]
  exact htoken

/-- What a look-up finds was given out under the token. -/
theorem get (hnone : tab.mint = none) (ttl : Duration) (token : String) :
    (SessionStore.get ttl token).Follows (accountable course purpose)
      (Gives (Finds course token) tab) tab := by
  rw [SessionStore.get_eq]
  refine locked hnone (step hnone fun cached hcached => ?_)
  show (SessionStore.answer ttl token cached).Follows _ _ tab
  cases cached with
  | some entry =>
    obtain ⟨htoken, hheld⟩ := hcached entry rfl
    exact present hnone ttl htoken hheld
  | none =>
    refine step hnone fun found hfound => ?_
    cases found with
    | none => exact .ok (.none token)
    | some session =>
      obtain ⟨htoken, hheld⟩ := hfound session rfl
      exact present hnone ttl htoken hheld

theorem remove (hnone : tab.mint = none) (token : String) :
    (SessionStore.remove token).Follows (accountable course purpose)
      (Gives (fun _ => True) tab) tab :=
  locked hnone (step hnone fun _ _ => step hnone fun _ _ => .ok trivial)

/-- A sweep writes sessions that it found in the cache. -/
theorem sweepToken (hnone : tab.mint = none) (time : Timestamp) (token : String)
    (report : SweepReport) :
    (SessionStore.sweepToken time token report).Follows (accountable course purpose)
      (Gives (fun _ => True) tab) tab := by
  rw [SessionStore.sweepToken_eq]
  refine locked hnone (step hnone fun cached hcached => ?_)
  show (SessionStore.sweepEntry time token report cached).Follows _ _ tab
  cases cached with
  | none => exact .ok trivial
  | some entry =>
    obtain ⟨-, hheld⟩ := hcached entry rfl
    refine choice (fun _ => ?_) fun _ => choice (fun _ => ?_) fun _ => (.ok trivial)
    · exact step hnone fun _ _ => step hnone fun _ _ =>
        choice (fun _ => (.ok trivial)) fun _ => (.ok trivial)
    · refine step ⟨hnone, hheld⟩ fun updated _ => choice (fun _ => ?_) fun _ => ?_
      · exact step (hheld.mono tab.mint) fun _ _ => (.ok trivial)
      · exact step hnone fun _ _ => (.ok trivial)

theorem sweep (hnone : tab.mint = none) (time : Timestamp) :
    (SessionStore.sweep time).Follows (accountable course purpose)
      (Gives (fun _ => True) tab) tab := by
  have htokens (tokens : List String) (report : SweepReport) :
      (SessionStore.sweepTokens time tokens report).Follows (accountable course purpose)
        (Gives (fun _ => True) tab) tab := by
    induction tokens generalizing report with
    | nil => exact .ok trivial
    | cons token tokens ih =>
      exact after (sweepToken hnone time token report) .error fun report _ => ih report
  refine step hnone fun tokens _ => ?_
  show Flow.Follows _ _ tab ((SessionStore.sweepTokens time tokens {}).bind _)
  exact after (htokens tokens {}) .error fun report _ => step hnone fun _ _ => .ok trivial

/-- A session that is started bears a number that was drawn for it. -/
theorem startSession (hnone : tab.mint = none) (ttl : Duration) (user : UserSnapshot)
    (workspace : WorkspaceRef) (network : Network) :
    (Service.startSession ttl user workspace network).Follows (accountable course purpose)
      (fun tab' end? => tab'.mint = none ∧ ∀ given, end? = .ok given → given.user = user ∧
        ∃ n, tab.drawn < n ∧ n ≤ tab'.drawn ∧ given.token = SerialId.grouped n) tab := by
  refine step hnone fun now _ => inCalendar (fun _ => ⟨hnone, fun _ h => by cases h⟩) fun _ => ?_
  refine step hnone fun id _ => step hnone fun number hnumber => ⟨hnone, ?_⟩
  rintro _ ⟨⟩
  refine ⟨rfl, number, ?_, Nat.le_of_eq hnumber, rfl⟩
  rw [hnumber]
  exact Nat.lt_succ_of_le (Nat.le_succ _)

/-- A session that is minted is added. -/
theorem add (hnone : tab.mint = none) {given : Session} {mint : Mint}
    (hmint : purpose.ofSession? given = some mint) (hminted : course.Minted tab.drawn mint)
    (hheld : Held [mint] given) :
    (SessionStore.add given).Follows (accountable course purpose)
      (fun tab' end? => tab'.mint = end?.toOption.bind fun _ => purpose.ofSession? given) tab := by
  refine step hnone fun _ _ => step ⟨hnone, mint, hmint, hminted⟩ fun _ _ => ?_
  refine step ?_ fun _ _ => step trivial fun _ _ => rfl
  show Held ((purpose.ofSession? given).toList ++ course.minted) given
  rw [hmint]
  obtain ⟨request, original, expiry, hmem, heq⟩ := hheld
  exact ⟨request, original, expiry, List.mem_append_left _ hmem, heq⟩

/-! #### Codes -/

/-- The code was issued under the text, and is of the kind. -/
def IsCode (course : Course) (text : String) (kind : CodeKind) (code : RecoverCode) : Prop :=
  code.code = text ∧ code.kind = kind ∧ Stored course.minted code

/-- What is used was issued. -/
theorem consume (hnone : tab.mint = none) (text : String) (kind : CodeKind) (maxUses : UInt32) :
    (CodeStore.consume text kind maxUses).Follows (accountable course purpose)
      (Gives (IsCode course text kind) tab) tab := by
  refine step hnone fun now _ => step hnone fun use htold => ?_
  cases use with
  | consumed record => exact .ok (htold record rfl)
  | rejected | notFound => exact .error _

/-- A challenge that is found was issued. -/
theorem findChallenge (hnone : tab.mint = none) (text : String) :
    (CodeStore.findChallenge text).Follows (accountable course purpose)
      (Gives (IsCode course text .challenge) tab) tab := by
  refine step hnone fun found htold => ?_
  cases found with
  | none => exact .error _
  | some record =>
    obtain ⟨htext, hstored⟩ := htold record rfl
    refine choice (fun hkind => ?_) fun _ => .error _
    exact step hnone fun now _ => choice (fun _ => .ok ⟨htext, hkind, hstored⟩) fun _ => .error _

theorem purge (hnone : tab.mint = none) (retention : Duration) :
    (CodeStore.purge retention).Follows (accountable course purpose)
      (Gives (fun _ => True) tab) tab :=
  step hnone fun _ _ => inCalendar .error fun _ => step hnone fun _ _ => .ok trivial

/-- A code is issued for the purpose of the operation. -/
theorem issue (hnone : tab.mint = none) (hdrawn : course.server.idsDrawn ≤ tab.drawn)
    (ttl : Duration) (order : CodeOrder)
    (hpurpose : ∀ issued : RecoverCode, issued.kind = order.kind → issued.ownerId = order.ownerId →
      issued.network = order.network → issued.metadata = order.metadata → issued.usesCount = 0 →
      issued.used = false → ∃ mint, purpose.ofCode? issued = some mint ∧
        mint.Proper course.minted ∧ mint.credential = issued.code) :
    (CodeStore.issue ttl order).Follows (accountable course purpose)
      (fun tab' end? => tab'.mint = end?.toOption.bind purpose.ofCode?) tab := by
  refine step hnone fun now _ => inCalendar (fun _ => hnone) fun validAt => ?_
  -- The first number is for the id, and the second one for the text.
  refine step hnone fun id hid => step hnone fun number hnumber => ?_
  obtain ⟨mint, hmint, hproper, htext⟩ :=
    hpurpose ⟨_, _, _, _, _, validAt, _, _, _, _, now⟩ rfl rfl rfl rfl rfl rfl
  have hnumbered : Numbered mint.credential number := htext ▸ .inr (bears_marked order.cli number)
  refine step ⟨hnone, mint, hmint, hproper, number, ?_, ?_, hnumbered⟩ fun _ _ => rfl
  · rw [hnumber]
    exact Nat.lt_succ_of_le (Nat.le_succ_of_le hdrawn)
  · exact Nat.le_of_eq hnumber

/-! #### Operations -/

theorem signIn (hsound : course.Sound) (hnone : tab.mint = none)
    (hdrawn : course.server.idsDrawn ≤ tab.drawn) (service : Service) (request : SignInRequest) :
    (service.signIn request).Follows (accountable course (.session request))
      (fun tab' end? => tab'.mint = end?.toOption.bind (Purpose.session request).ofSession?)
      tab := by
  have hstop (why : Stop) : tab.mint =
      (Except.error why : Except Stop Session).toOption.bind
        (Purpose.session request).ofSession? := hnone
  refine require hstop fun verifier _ => ?_
  refine after (findChallenge hnone request.digest) hstop fun challenge hchallenge => ?_
  refine step hnone fun found hfound => require hstop fun owner howner => ?_
  refine require hstop fun signer _ => ?_
  refine choice (fun _ => hstop _) fun _ => choice (fun _ => hstop _) fun _ => ?_
  refine after (consume hnone request.digest .challenge 1) hstop fun consumed _ => ?_
  refine step hnone fun workspace? _ => require hstop fun workspace _ => ?_
  refine Flow.Follows.bind ((startSession hnone _ _ _ _).mono ?_)
  rintro tab' end? ⟨hnone', hgiven⟩
  cases end? with
  | error why => exact hnone'
  | ok given =>
    obtain ⟨huser, n, hlt, hle, htoken⟩ := hgiven given rfl
    -- The user is the owner of the challenge that was found.
    obtain ⟨htext, hkind, hstored⟩ := hchallenge
    obtain ⟨issued, hmem, hdigest, hsame⟩ := hsound.challenge_of_stored hstored hkind
    have hid : given.user.id = issued.ownerId := by
      subst howner
      rw [huser, hsame]
      exact hsound.users _ _ hfound
    have hminted : course.Minted tab'.drawn (.session request given) :=
      ⟨⟨issued, hmem, hdigest.trans htext, hid⟩, n, Nat.lt_of_le_of_lt hdrawn hlt, hle,
        .inl htoken⟩
    refine Flow.Follows.bind ((add hnone' rfl hminted ?_).mono ?_)
    · exact ⟨request, given, given.expiresAt, List.mem_singleton_self _, rfl⟩
    · intro tab'' end? hend
      cases end? with
      | ok => exact hend
      | error why => exact hend

theorem memberPermissions (hnone : tab.mint = none) (identity : Identity) (workspace : String) :
    (Service.memberPermissions identity workspace).Follows (accountable course purpose)
      (Gives (fun _ => True) tab) tab :=
  step hnone fun _ _ => choice (fun _ => step hnone fun _ _ => .ok trivial) fun _ => .error _

theorem authorize (hnone : tab.mint = none) (identity : Identity) (roles : List Role)
    (resource : String) :
    (Service.authorize identity roles resource).Follows (accountable course purpose)
      (Gives (fun _ => True) tab) tab := by
  refine step hnone fun owner _ => require .error fun owner _ =>
    require .error fun workspace _ => ?_
  refine choice (fun _ => ?_) fun _ => .error _
  exact after (memberPermissions hnone identity workspace) .error fun table _ =>
    choice (fun _ => .ok trivial) fun _ => .error _

theorem authorizeWorkspace (hnone : tab.mint = none) (identity : Identity) (roles : List Role) :
    (Service.authorizeWorkspace identity roles).Follows (accountable course purpose)
      (Gives (fun _ => True) tab) tab := by
  refine require .error fun workspace _ => ?_
  exact after (memberPermissions hnone identity workspace) .error fun table _ =>
    choice (fun _ => .ok trivial) fun _ => .error _

/-- A session token stands for the owner of the challenge of its sign-in. -/
theorem resolveBearer (hsound : course.Sound) (hnone : tab.mint = none) (ttl : Duration)
    (raw : String) :
    (Credential.resolveBearer ttl raw).Follows (accountable course purpose)
      (Gives (course.StandsAsToken raw) tab) tab := by
  refine after (get hnone ttl raw) .error fun found hfound => ?_
  refine require .error fun session hsession => step hnone fun now _ => ?_
  refine choice (fun _ => after (remove hnone raw) .error fun _ _ => .error _) fun _ => .ok ?_
  obtain ⟨htoken, request, given, expiry, hmem, rfl⟩ := hfound session hsession
  obtain ⟨challenge, hissued, hdigest, howner⟩ := hsound.challenge_of_session hmem
  exact ⟨request, given, challenge, hmem, htoken, rfl, hissued, hdigest, howner⟩

/-- A code stands for who requested it. -/
theorem resolveCode (hsound : course.Sound) (hnone : tab.mint = none) (maxUses : UInt32)
    (raw : String) :
    (Credential.resolveCode maxUses raw).Follows (accountable course purpose)
      (Gives (course.StandsAsCode raw) tab) tab := by
  refine after (consume hnone raw .oneTime maxUses) .error fun code hcode => ?_
  refine step hnone fun found hfound => require .error fun owner howner => ?_
  refine step hnone fun workspace? hworkspace => .ok ?_
  obtain ⟨htext, hkind, hstored⟩ := hcode
  obtain ⟨requester, issued, hmem, hissued, hsame, hnetwork⟩ :=
    hsound.requester_of_stored hstored hkind
  subst howner
  have hid := hsound.users _ _ hfound
  have huser : course.server.database.users.find User.form code.ownerId = .ok (some owner) := hfound
  rw [hsame] at huser hid
  exact ⟨requester, issued, owner, workspace?, hmem, hissued.trans htext, huser, hworkspace,
    by rw [hnetwork], hid⟩

/-- A connector credential stands for the user that the dapp is bound to. -/
theorem resolveConnector (hsound : course.Sound) (hnone : tab.mint = none) (raw : String) :
    (Credential.resolveConnector raw).Follows (accountable course purpose)
      (Gives (course.StandsAsConnector raw) tab) tab := by
  refine choice (fun _ => .error _) fun _ => ?_
  refine step hnone fun found hfound => require .error fun dapp hdapp => ?_
  refine step hnone fun owner? howner => require .error fun user huser => .ok ?_
  subst hdapp huser
  exact ⟨dapp, user, hfound, howner, rfl, hsound.users _ _ howner⟩

/-- Whoever is authenticated is whom the credential stands for. -/
theorem authenticate (hsound : course.Sound) (hnone : tab.mint = none) (service : Service)
    (raw : String) (context : RequestContext) :
    (service.authenticate raw context).Follows (accountable course purpose)
      (Gives (course.Stands raw) tab) tab := by
  refine choice (fun _ => .error _) fun _ => ?_
  unfold Course.Stands
  cases CredentialKind.of raw with
  | bearer => exact resolveBearer hsound hnone service.sessionTtl raw
  | code => exact resolveCode hsound hnone service.maxUses raw
  | cli =>
    refine after (resolveCode hsound hnone service.maxUses raw) .error fun identity hstands => ?_
    exact choice (fun _ => .ok hstands) fun _ => .error _
  | connector => exact resolveConnector hsound hnone raw

/-- Every operation is accountable, and ends with what it gives out on its
tab. -/
theorem operation (hsound : course.Sound) (service : Service) (operation : Operation α) :
    (operation.flow service).Follows (accountable course operation.purpose)
      (fun tab' end? => tab'.mint = end?.toOption.bind operation.minted?)
      ⟨course.server.idsDrawn, none⟩ := by
  have hnone : (⟨course.server.idsDrawn, none⟩ : Tab).mint = none := rfl
  cases operation with
  | authenticate raw context =>
    exact (authenticate hsound hnone service raw context).mono fun _ _ => Gives.mint
  | authorize identity roles resource =>
    exact (authorize hnone identity roles resource).mono fun _ _ => Gives.mint
  | authorizeWorkspace identity roles =>
    exact (authorizeWorkspace hnone identity roles).mono fun _ _ => Gives.mint
  | signOut token =>
    exact after (remove hnone token) (fun _ => rfl) fun _ _ => rfl
  | signIn request => exact signIn hsound hnone (Nat.le_refl _) service request
  | issueChallenge address origin network =>
    refine step hnone fun found _ => require (fun _ => rfl) fun user _ => ?_
    refine issue hnone (Nat.le_refl _) _ _ fun issued hkind _ _ hmetadata hcount hused => ?_
    exact ⟨.challenge issued, rfl, ⟨⟨hcount, hused, hmetadata ▸ ⟨.nil, nofun⟩⟩, hkind⟩, rfl⟩
  | requestCode identity origin cli =>
    refine issue hnone (Nat.le_refl _) _ _
      fun issued hkind howner hnetwork hmetadata hcount hused => ?_
    exact ⟨.code identity issued, rfl,
      ⟨⟨hcount, hused, hmetadata ▸ Service.plain_uses cli⟩, hkind, howner, hnetwork⟩, rfl⟩

end Accountable

/-! ### Courses are sound -/

/-- What was proper stays so when more is given out. -/
theorem Mint.Proper.mono {minted : List Mint} {mint : Mint} (h : mint.Proper minted)
    (new : Option Mint) : mint.Proper (new.toList ++ minted) := by
  cases mint with
  | session request given =>
    obtain ⟨challenge, hmem, hrest⟩ := h
    exact ⟨challenge, List.mem_append_right _ hmem, hrest⟩
  | challenge | code => exact h

namespace Course.Sound

variable {course : Course} {tab : Tab} {after : Server} {α : Type} {purpose : Purpose}

theorem start (capacity : Nat) (clock : Int) : (Course.start capacity clock).Sound where
  users := .empty rfl
  backed := ⟨by rintro _ _ ⟨⟩, by rintro _ _ ⟨⟩, by rintro _ _ ⟨⟩⟩
  proper := by rintro _ ⟨⟩
  numbered := by rintro _ ⟨⟩
  distinct := List.nodup_nil

/-- Users stay under their own ids, as no operation writes them. -/
theorem users_of_tallies (h : course.Sound) (htallies : Tallies course tab after) :
    after.database.UsersKeyed := by
  obtain ⟨sessions, codes, hframe⟩ := htallies.frame
  rw [hframe]
  exact h.users

/-- What an operation has on its tab may be one more of the credentials. -/
theorem tallied (h : course.Sound) (htallies : Tallies course tab after) :
    Sound ⟨after, tab.ledger course⟩ where
  users := h.users_of_tallies htallies
  backed := htallies.backed
  proper mint hmem := by
    rcases List.mem_append.1 hmem with hnew | hold
    · exact ((htallies.minted mint (Option.mem_toList.1 hnew)).1).mono tab.mint
    · exact (h.proper mint hold).mono tab.mint
  numbered mint hmem := by
    rcases List.mem_append.1 hmem with hnew | hold
    · obtain ⟨-, n, -, hle, hnumbered⟩ := htallies.minted mint (Option.mem_toList.1 hnew)
      exact ⟨n, htallies.drawn ▸ hle, hnumbered⟩
    · obtain ⟨n, hle, hnumbered⟩ := h.numbered mint hold
      exact ⟨n, htallies.drawn ▸ Nat.le_trans hle htallies.drawn_le, hnumbered⟩
  distinct := by
    unfold Tab.ledger
    cases hmint : tab.mint with
    | none => exact h.distinct
    | some mint =>
      refine List.nodup_cons.2 ⟨fun hmem => ?_, h.distinct⟩
      -- The numbers of the others were drawn before.
      obtain ⟨other, hother, htext⟩ := List.mem_map.1 hmem
      obtain ⟨-, n, hlt, -, hnumbered⟩ := htallies.minted mint hmint
      obtain ⟨m, hle, hnumbered'⟩ := h.numbered other hother
      rw [htext] at hnumbered'
      rw [hnumbered'.unique hnumbered] at hle
      exact Nat.not_lt.2 hle hlt

/-- An operation that stops has given nothing out. -/
theorem stopped (h : course.Sound) (htallies : Tallies course tab after) (hnone : tab.mint = none) :
    Sound ⟨{ after with idsDrawn := course.server.idsDrawn }, course.minted⟩ where
  users := show after.database.UsersKeyed from h.users_of_tallies htallies
  backed := by
    obtain ⟨hrows, hentries, hcodes⟩ := htallies.backed_of_none hnone
    exact ⟨hrows, hentries, hcodes⟩
  proper := h.proper
  numbered := h.numbered
  distinct := h.distinct

/-- An operation that is accountable leaves the course sound. -/
theorem performed (h : course.Sound) {minted? : α → Option Mint} {flow : Flow α}
    (hfollows : flow.Follows (accountable course purpose)
      (fun tab end? => tab.mint = end?.toOption.bind minted?) ⟨course.server.idsDrawn, none⟩)
    (hfail : flow.FailStop) (conditions : Conditions) :
    (course.record minted? (conditions.perform flow course.server).1
      (conditions.perform flow course.server).2).Sound := by
  -- What stops gives the numbers back that it drew.
  have hends : flow.Ensures (fun end? after =>
      (∀ a, end? = .ok a → Sound ⟨after, (minted? a).toList ++ course.minted⟩) ∧
      ∀ why, end? = .error why →
        Sound ⟨{ after with idsDrawn := course.server.idsDrawn }, course.minted⟩)
      course.server := by
    have hfail (tab : Tab) (why : Stop) (hnone : tab.mint = none) :
        tab.mint = (Except.error why : Except Stop α).toOption.bind minted? := hnone
    refine (hfollows.ensures (fun htallies hallows => htallies.step hallows) hfail
      (Tallies.start h.backed)).mono ?_
    rintro _ after ⟨tab, htallies, hmint⟩
    constructor
    · rintro a rfl
      have hsound := h.tallied htallies
      unfold Tab.ledger at hsound
      rwa [hmint] at hsound
    · rintro why rfl
      exact h.stopped htallies hmint
  obtain ⟨hok, herror⟩ := hends.perform hfail
    (fun _ _ _ hstopped => ⟨(fun _ hend => by cases hend), hstopped.2⟩) conditions.clear
    conditions.limit
  cases hend : (conditions.perform flow course.server).1 with
  | ok a => exact hok a hend
  | error why =>
    have hsound := herror why hend
    rw [← Server.idsDrawn_of_stopped (Prod.ext hend rfl)] at hsound
    exact hsound

/-- An operation that gives nothing out leaves the course sound. -/
theorem performed_quiet (h : course.Sound) {p : α → Prop} {flow : Flow α}
    (hfollows : ∀ tab : Tab, tab.mint = none →
      flow.Follows (accountable course .nothing) (Accountable.Gives p tab) tab)
    (hfail : flow.FailStop) (conditions : Conditions) :
    Sound { course with server := (conditions.perform flow course.server).2 } := by
  have hperformed :=
    h.performed ((hfollows _ rfl).mono fun _ _ => Accountable.Gives.mint) hfail conditions
  rwa [record_none] at hperformed

/-- A round of the sweeper leaves the course sound, wherever it stops. -/
theorem sweepRound (h : course.Sound) (conditions : Conditions) (retention : Duration) :
    Sound { course with server := (course.server.sweepRound conditions.weather retention).2 } := by
  let unlimited : Conditions := ⟨conditions.weather, conditions.clear, none⟩
  have hsweep (tab : Tab) (hnone : tab.mint = none) :
      sweepNow.Follows (accountable course .nothing) (Accountable.Gives (fun _ => True) tab) tab :=
    Accountable.step (s := .readClock) hnone fun now _ => Accountable.sweep hnone now
  refine Server.sweepRound_snd (p := fun server => Sound { course with server })
    (h.performed_quiet hsweep failStop_sweepNow unlimited) fun swept hswept => ?_
  exact hswept.performed_quiet (fun _ hnone => Accountable.purge hnone retention)
    (CodeStore.failStop_purge retention) unlimited

/-- What an operation gives is as the answers tell. -/
theorem given (h : course.Sound) {p : α → Prop} {flow : Flow α}
    (hfollows : ∀ tab : Tab, tab.mint = none →
      flow.Follows (accountable course .nothing) (Accountable.Gives p tab) tab)
    (hfail : flow.FailStop) (conditions : Conditions) {a : α}
    (hgiven : (conditions.perform flow course.server).1 = .ok a) :
    p a := by
  have hvalue := (hfollows ⟨course.server.idsDrawn, none⟩ rfl).mono fun _ _ hgives => hgives.2
  have hends := hvalue.ensures
    (fun htallies hallows => htallies.step hallows) (fun _ _ _ _ herror => by cases herror)
    (Tallies.start h.backed)
  have hends : flow.Ensures (fun end? _ => ∀ b, end? = .ok b → p b) course.server :=
    hends.mono fun _ _ ⟨_, _, hp⟩ => hp
  exact hends.perform hfail (fun _ _ _ hstopped => hstopped) conditions.clear conditions.limit a
    hgiven

/-- Every turn leaves the course sound. -/
theorem next (h : course.Sound) (turn : Turn) : (course.next turn).Sound := by
  have hsame {database : Database} (husers : database.UsersKeyed)
      (hframe : database.sessions = course.server.database.sessions ∧
        database.codes = course.server.database.codes) :
      Sound { course with server.database := database } :=
    ⟨husers, ⟨hframe.1 ▸ h.backed.rows, h.backed.entries, hframe.2 ▸ h.backed.codes⟩, h.proper,
      h.numbered, h.distinct⟩
  cases turn with
  | operate service operation conditions =>
    exact h.performed (Accountable.operation h service operation) (operation.failStop service)
      conditions
  | sweepRound conditions retention => exact h.sweepRound conditions retention
  | sweep time conditions =>
    exact h.performed_quiet (fun _ hnone => Accountable.sweep hnone time)
      (SessionStore.failStop_sweep time) conditions
  | purge retention conditions =>
    exact h.performed_quiet (fun _ hnone => Accountable.purge hnone retention)
      (CodeStore.failStop_purge retention) conditions
  | putUser user => exact hsame (h.users.putUser user) ⟨rfl, rfl⟩
  | putWorkspace w => exact hsame h.users ⟨rfl, rfl⟩
  | putResource owner => exact hsame h.users ⟨rfl, rfl⟩
  | putDapp dapp => exact hsame h.users ⟨rfl, rfl⟩
  | restart capacity =>
    exact ⟨h.users, h.backed.cache fun _ => .inl rfl, h.proper, h.numbered, h.distinct⟩
  | setClock clock =>
    exact ⟨h.users, ⟨h.backed.rows, h.backed.entries, h.backed.codes⟩, h.proper, h.numbered,
      h.distinct⟩

/-- Whatever happens, the course stays sound. -/
theorem ofTurns (capacity : Nat) (clock : Int) (turns : List Turn) :
    (Course.ofTurns capacity clock turns).Sound :=
  List.foldlRecOn turns Course.next (start capacity clock) fun _ hsound turn _ => hsound.next turn

end Course.Sound

/-! ### Who is authenticated -/

namespace Course

/-- Ann as she is known in her workspace. -/
def annsIdentity : Identity := ⟨Connector.ann.snapshot, some ⟨"w", "", false⟩, default, none⟩

/-- Ann and her workspace get to be stored, and Ann requests a code for
herself. -/
def annsTurns : List Turn :=
  [.putWorkspace { (default : Workspace) with id := "w" }, .putUser Connector.ann,
    .operate (.ofSettings {} none) (.requestCode annsIdentity "" false) .fair]

/-- The code is stored, and so are Ann and her workspace. -/
theorem fresh_annsTurns : ∃ issued,
    Connector.Fresh (ofTurns 1 0 annsTurns).server.database .epoch Connector.ann issued ∧
      issued.code = codeMark ++ SerialId.plain 2 ∧
      (ofTurns 1 0 annsTurns).server.now? = some .epoch ∧
      (ofTurns 1 0 annsTurns).server.database.users.find User.form "ann" =
        .ok (some Connector.ann) ∧
      (ofTurns 1 0 annsTurns).server.database.findWorkspace "w" =
        .ok (some { (default : Workspace) with id := "w" }) := by
  let before := ofTurns 1 0 (annsTurns.take 2)
  let requests := Service.requestCode (.ofSettings {} none) annsIdentity "" false
  have hrequested : requests.Yields (fun issued after =>
      Connector.Fresh after.database .epoch Connector.ann issued ∧ after.clock = 0 ∧
        issued.code = codeMark ++ SerialId.plain 2) before.server :=
    Connector.yields_requestCode rfl (by decide) rfl rfl ""
  obtain ⟨issued, -, hfresh, hclock, htext⟩ := hrequested.perform
  obtain ⟨sessions, codes, hframe⟩ := before.server.frame_of_perform .fair none requests
  have hserver : (ofTurns 1 0 annsTurns).server = (before.server.perform .fair none requests).2 :=
    before.server_operate (.ofSettings {} none) (.requestCode annsIdentity "" false) .fair
  rw [← hserver] at hfresh hclock hframe
  refine ⟨issued, hfresh, htext, ?_, ?_, ?_⟩
  · unfold Server.now?
    rw [hclock]
    rfl
  · rw [hframe]
    exact Table.find_of_get? (Table.get?_write_self _ _ _) (User.decode_encode _)
  · rw [hframe]
    exact Table.find_of_get? (Table.get?_write_self _ _ _) (Workspace.decode_encode _)

/-- Whatever happened before, whoever is authenticated presents a credential
that was given out, or that of a dapp, and is taken for the one that it
stands for. No two credentials that were given out have the same text, so
there is no other one that it could stand for. -/
theorem authenticated (capacity : Nat) (clock : Int) (turns : List Turn) (service : Service)
    (raw : String) (context : RequestContext) (conditions : Conditions) (identity : Identity)
    (h : (conditions.perform (service.authenticate raw context)
      (ofTurns capacity clock turns).server).1 = .ok identity) :
    (ofTurns capacity clock turns).Stands raw identity ∧
      ((ofTurns capacity clock turns).minted.map Mint.credential).Nodup := by
  have hsound : (ofTurns capacity clock turns).Sound := .ofTurns capacity clock turns
  refine ⟨?_, hsound.distinct⟩
  exact hsound.given (fun _ hnone => Accountable.authenticate hsound hnone service raw context)
    (service.failStop_authenticate raw context) conditions h

/-- Ann is known again by the code that she requested. -/
theorem authenticated_of_ann : ∃ raw identity,
    (Conditions.fair.perform (Service.authenticate (.ofSettings {} none) raw default)
      (ofTurns 1 0 annsTurns).server).1 = .ok identity ∧
    (ofTurns 1 0 annsTurns).Stands raw identity := by
  obtain ⟨issued, hfresh, -, hnow, huser, hworkspace⟩ := fresh_annsTurns
  obtain ⟨identity, hknown, -⟩ :=
    (Connector.yields_code (.ofSettings {} none) hnow hfresh huser hworkspace default).perform
  exact ⟨issued.code, identity, hknown, (authenticated 1 0 annsTurns (.ofSettings {} none)
    issued.code default .fair identity hknown).1⟩

end Course

end Gatekeeper

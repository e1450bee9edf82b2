import Gatekeeper.Proofs.Code.Account
import Gatekeeper.Proofs.Code.Serial
import Gatekeeper.Proofs.Propagation

/-!
# `Gatekeeper.Proofs.Code.Errand`: what operations do with recover codes

The operations that issue, use and purge codes are requests here, with
`Request.flow`. `Request.Uses` is the use of a code that a request needs
and is entitled to.

`careful service request` is the discipline of such an operation. Its mode
is the steps that were taken so far, and what they tell: the number that
the operation has drawn and not spent (`drawn`), the uses of codes that
were accepted (`Spent`), and the refusal that it has just met with
(`refusal?`). A code that is written is new and bears a number that was
drawn for it. A use is asked for right after a look at the clock, as of
the time that it showed. After a refusal there are no further steps.

`Request.follows` says that every request keeps to the discipline, and
that it ends with a refusal if it met with one, and gives a result only if
the use that it needs was accepted (`Ends`).
-/

set_option autoImplicit false

namespace Gatekeeper

open Gatekeeper.Flow (call take locked)

/-! ### Operations that leave the codes alone -/

/-- The step changes no code. -/
def Step.LeavesCodes : Step → Prop
  | .call c => c.writesCodes = false
  | _ => True

/-- No step of the flow changes a code. -/
def Flow.LeavesCodes {α : Type} : Flow α → Prop
  | done _ | stop _ => True
  | step s next _ => s.LeavesCodes ∧ ∀ answer, (next answer).LeavesCodes

namespace Flow.LeavesCodes

variable {α β : Type}

theorem bind {flow : Flow α} {f : α → Flow β} (h : flow.LeavesCodes)
    (hnext : ∀ a, (f a).LeavesCodes) : (flow.bind f).LeavesCodes := by
  induction flow with
  | done a => exact hnext a
  | stop => trivial
  | step s next failed ih _ => exact ⟨h.1, fun answer => ih answer (h.2 answer)⟩

theorem require (error : AuthError) (found : Option α) :
    (Flow.require error found).LeavesCodes := by
  cases found <;> trivial

theorem inCalendar (time : Option Instant) : (Flow.inCalendar time).LeavesCodes := by
  cases time <;> trivial

/-- What is about sessions changes no code. -/
theorem of_takes {flow : Flow α} (h : flow.Takes Step.OfSessions) : flow.LeavesCodes := by
  induction flow with
  | done | stop => trivial
  | step s next failed ih _ =>
    refine ⟨?_, fun answer => ih answer (h.2 answer)⟩
    cases s with
    | call c =>
      have hsessions : c.isOfSessions = true := h.1
      show c.writesCodes = false
      cases c <;> first | rfl | cases hsessions
    | lookUp | peek | remember | forget | listStale | readClock | drawId | lock | unlock => trivial

end Flow.LeavesCodes

namespace SessionStore

theorem leavesCodes_get (ttl : Duration) (token : String) : (get ttl token).LeavesCodes :=
  .of_takes (takes_get ttl token)

theorem leavesCodes_remove (token : String) : (remove token).LeavesCodes :=
  .of_takes (takes_remove token)

theorem leavesCodes_add (session : Session) : (add session).LeavesCodes :=
  .of_takes (takes_add session)

end SessionStore

namespace Service

/-! ### Requests -/

/-- A request that has to do with recover codes. -/
inductive Request where
  | authenticate (raw : String) (context : RequestContext)
  | signIn (request : SignInRequest)
  | issueChallenge (address origin : String) (network : Network)
  | requestCode (identity : Identity) (origin : String) (cli : Bool)
  | purge (retention : Duration)

/-- The result of such a request. -/
inductive Reply where
  | identity (identity : Identity)
  | session (session : Session)
  | code (code : RecoverCode)
  | purged (count : Nat)

namespace Request

/-- What a request does. -/
def flow (service : Service) : Request → Flow Reply
  | authenticate raw context => return .identity (← service.authenticate raw context)
  | signIn request => return .session (← service.signIn request)
  | issueChallenge address origin network =>
    return .code (← service.issueChallenge address origin network)
  | requestCode identity origin cli => return .code (← service.requestCode identity origin cli)
  | purge retention => return .purged (← CodeStore.purge retention)

/-- No request swallows the error of a call to the database. -/
theorem failStop (service : Service) (request : Request) : (request.flow service).FailStop := by
  cases request with
  | authenticate raw context =>
    exact .bind (service.failStop_authenticate raw context) fun _ => .of_pure _
  | signIn request => exact .bind (service.failStop_signIn request) fun _ => .of_pure _
  | issueChallenge address origin network =>
    exact .bind (service.failStop_issueChallenge address origin network) fun _ => .of_pure _
  | requestCode identity origin cli =>
    exact .bind (service.failStop_requestCode identity origin cli) fun _ => .of_pure _
  | purge retention => exact .bind (CodeStore.failStop_purge retention) fun _ => .of_pure _

/-- The use of a code that a request needs and is entitled to. -/
def Uses (service : Service) (code : String) (kind : CodeKind) (uses : UInt32) : Request → Prop
  | authenticate raw _ => (CredentialKind.of raw = .code ∨ CredentialKind.of raw = .cli) ∧
    code = raw ∧ kind = .oneTime ∧ uses = service.maxUses
  | signIn request => code = request.digest ∧ kind = .challenge ∧ uses = 1
  | _ => False

/-- There is one such use at most. -/
theorem Uses.unique {service : Service} {request : Request} {code code' : String}
    {kind kind' : CodeKind} {uses uses' : UInt32} (h : request.Uses service code kind uses)
    (h' : request.Uses service code' kind' uses') : code' = code ∧ kind' = kind ∧ uses' = uses := by
  cases request with
  | authenticate raw context =>
    obtain ⟨-, rfl, rfl, rfl⟩ := h
    exact h'.2
  | signIn request =>
    obtain ⟨rfl, rfl, rfl⟩ := h
    exact h'
  | issueChallenge | requestCode | purge => cases h

end Request

/-! ### What the steps of an operation tell -/

/-- The number that an operation has drawn and not spent. -/
def drawn : List Taken → Option Nat
  | [] => none
  | ⟨.drawId, number⟩ :: _ => some number
  | ⟨.call (.insertCode _), _⟩ :: _ => none
  | _ :: earlier => drawn earlier

/-- A use of a code was accepted. -/
def Spent (code : String) (kind : CodeKind) (uses : UInt32) (steps : List Taken) : Prop :=
  ∃ time record, ⟨.call (.consumeCode code kind uses time), .consumed record⟩ ∈ steps

/-- Whether the code was used as a challenge. -/
def paid (text : String) : List Taken → Bool
  | [] => false
  | ⟨.call (.consumeCode code .challenge _ _), .consumed _⟩ :: earlier =>
    code == text || paid text earlier
  | _ :: earlier => paid text earlier

/-- The refusal for a code of which no use was accepted in the latest step. -/
def refusal? : List Taken → Option AuthError
  | ⟨.call (.consumeCode ..), .rejected _⟩ :: _ => some .expiredCode
  | ⟨.call (.consumeCode ..), .notFound⟩ :: _ => some .unknownCode
  | _ => none

/-- A use of a code leaves the number that was drawn. -/
theorem drawn_consume (code : String) (kind : CodeKind) (uses : UInt32) (time : Timestamp)
    (use : CodeUse) (steps : List Taken) :
    drawn (⟨.call (.consumeCode code kind uses time), use⟩ :: steps) = drawn steps := rfl

/-- Only who uses the code as a challenge pays with it. -/
theorem paid_consume (text : String) (code : String) (kind : CodeKind) (uses : UInt32)
    (time : Timestamp) (use : CodeUse) (steps : List Taken) :
    paid text (⟨.call (.consumeCode code kind uses time), use⟩ :: steps) = paid text steps ∨
      (code = text ∧ kind = .challenge ∧ ∃ record, use = .consumed record ∧
        paid text (⟨.call (.consumeCode code kind uses time), use⟩ :: steps) = true) := by
  cases kind with
  | oneTime => exact .inl rfl
  | challenge =>
    cases use with
    | consumed record =>
      show ((code == text) || paid text steps) = _ ∨ _ ∧ _ ∧ ∃ record', _ ∧
        ((code == text) || paid text steps) = true
      by_cases hcode : code = text
      · exact .inr ⟨hcode, rfl, record, rfl, by simp [hcode]⟩
      · exact .inl (by simp [hcode])
    | rejected | notFound => exact .inl rfl

/-- Who used the code as a challenge has paid with it. -/
theorem paid_of_spent {text : String} {uses : UInt32} {steps : List Taken}
    (h : Spent text .challenge uses steps) : paid text steps = true := by
  obtain ⟨time, record, hmem⟩ := h
  induction steps with
  | nil => cases hmem
  | cons taken steps ih =>
    rcases List.mem_cons.1 hmem with rfl | hmem
    · show ((text == text) || paid text steps) = true
      simp
    · have hearlier := ih hmem
      unfold paid
      split
      next heq => cases heq
      next heq =>
        obtain ⟨-, rfl⟩ := List.cons.inj heq
        rw [hearlier, Bool.or_true]
      next heq =>
        obtain ⟨-, rfl⟩ := List.cons.inj heq
        exact hearlier

/-! ### The discipline -/

/-- The discipline of operations in regard of codes. -/
def careful (service : Service) (request : Request) : Discipline (List Taken) where
  allows steps step := refusal? steps = none ∧
    match step with
    | .call (.insertCode issued) =>
      issued.New ∧ ∃ number, drawn steps = some number ∧ Bears issued.code number
    | .call (.updateCode _) => False
    | .call (.consumeCode code kind uses time) => request.Uses service code kind uses ∧
      ∃ now, time = .ofInstant now ∧ steps.head? = some ⟨.readClock, now⟩
    | _ => True
  leads steps step answer steps' := steps' = ⟨step, answer⟩ :: steps

/-- Every use that the request needs was accepted. -/
def HasSpent (service : Service) (request : Request) (steps : List Taken) : Prop :=
  ∀ code kind uses, request.Uses service code kind uses → Spent code kind uses steps

/-- How an operation for a request may end after its steps. -/
structure Ends {α : Type} (service : Service) (request : Request) (steps : List Taken)
    (end? : Except Stop α) : Prop where
  refused : ∀ e ∈ refusal? steps, end? = .error (.refused e)
  spent : ∀ a, end? = .ok a → HasSpent service request steps

variable {service : Service} {request : Request} {steps : List Taken} {α β : Type}

namespace Ends

/-- Who met with no refusal may stop for any reason. -/
theorem of_stop (hopen : refusal? steps = none) (why : Stop) :
    Ends service request steps (.error why : Except Stop α) :=
  ⟨by simp [hopen], fun _ h => nomatch h⟩

/-- Who has spent what is needed may give a result. -/
theorem of_ok (hopen : refusal? steps = none) (hspent : HasSpent service request steps) (a : α) :
    Ends service request steps (.ok a) :=
  ⟨by simp [hopen], fun _ _ => hspent⟩

/-- Who gives a result has not met with a refusal. -/
theorem unrefused {a : α} (h : Ends service request steps (.ok a)) : refusal? steps = none := by
  cases hrefusal : refusal? steps with
  | none => rfl
  | some e => cases h.refused e hrefusal

end Ends

/-- A part of an operation that ends as it may is followed by another one. -/
theorem follows_bind {flow : Flow α} {f : α → Flow β}
    (h : flow.Follows (careful service request) (Ends service request) steps)
    (hnext : ∀ a steps', refusal? steps' = none → HasSpent service request steps' →
      (f a).Follows (careful service request) (Ends service request) steps') :
    (flow.bind f).Follows (careful service request) (Ends service request) steps := by
  refine Flow.Follows.bind (h.mono ?_)
  intro steps' end? hends
  cases end? with
  | ok a => exact hnext a steps' hends.unrefused (hends.spent a rfl)
  | error why =>
    refine ⟨fun e he => ?_, fun _ h => nomatch h⟩
    cases hends.refused e he
    rfl

/-- Of a part that leaves the codes alone, only what comes after counts. -/
theorem follows_bind_of_leavesCodes {flow : Flow α} {f : α → Flow β} (h : flow.LeavesCodes)
    (hopen : refusal? steps = none)
    (hnext : ∀ a steps', refusal? steps' = none → steps ⊆ steps' →
      (f a).Follows (careful service request) (Ends service request) steps') :
    (flow.bind f).Follows (careful service request) (Ends service request) steps := by
  induction flow generalizing steps with
  | done a => exact hnext a steps hopen (List.Subset.refl steps)
  | stop why => exact .of_stop hopen why
  | step s next failed ih _ =>
    obtain ⟨hleaves, hrest⟩ := h
    have hlater (answer : s.Answer) (hrefusal : refusal? (⟨s, answer⟩ :: steps) = none) :
        ((next answer).bind f).Follows (careful service request) (Ends service request)
          (⟨s, answer⟩ :: steps) :=
      ih answer (hrest answer) hrefusal fun a steps' hopen' hsub =>
        hnext a steps' hopen' fun _ hmem => hsub (List.mem_cons_of_mem _ hmem)
    cases s with
    | call c =>
      cases c with
      | insertCode | updateCode | consumeCode | deleteCodesBefore => cases hleaves
      | _ =>
        refine ⟨⟨hopen, trivial⟩, ?_⟩
        intro answer steps' hleads
        subst hleads
        exact hlater answer rfl
    | _ =>
      refine ⟨⟨hopen, trivial⟩, ?_⟩
      intro answer steps' hleads
      subst hleads
      exact hlater answer rfl

theorem Spent.mono {code : String} {kind : CodeKind} {uses : UInt32} {steps' : List Taken}
    (h : Spent code kind uses steps) (hsub : steps ⊆ steps') : Spent code kind uses steps' := by
  obtain ⟨time, record, hmem⟩ := h
  exact ⟨time, record, hsub hmem⟩

/-- An operation that leaves the codes alone from some point on gives a result
if it has spent what it needs by then. -/
theorem follows_of_leavesCodes {flow : Flow α} (h : flow.LeavesCodes)
    (hopen : refusal? steps = none) (hspent : HasSpent service request steps) :
    flow.Follows (careful service request) (Ends service request) steps := by
  have hbound : (flow.bind Flow.done).Follows (careful service request) (Ends service request)
      steps := by
    refine follows_bind_of_leavesCodes h hopen fun a steps' hopen' hsub => ?_
    exact Ends.of_ok hopen' (fun code kind uses huses => (hspent code kind uses huses).mono hsub) a
  rwa [Flow.bind_done] at hbound

/-! ### Every request keeps to the discipline -/

/-- A code is issued as a new one, under a number drawn for it. -/
theorem follows_issue {ttl : Duration} {order : CodeOrder} (hmetadata : order.metadata.Plain 2)
    (hopen : refusal? steps = none) (hspent : ∀ steps, HasSpent service request steps) :
    (CodeStore.issue ttl order).Follows (careful service request) (Ends service request) steps := by
  refine ⟨⟨hopen, trivial⟩, ?_⟩
  intro now _ hleads
  subst hleads
  show ((Flow.inCalendar (now.add? ttl)).bind _).Follows _ _ _
  refine follows_bind_of_leavesCodes (Flow.LeavesCodes.inCalendar _) rfl
    fun validAt steps hopen _ => ?_
  -- The first number drawn is for the id, and the second one for the text.
  refine ⟨⟨hopen, trivial⟩, fun id _ hleads => ⟨?_, fun number _ hleads' => ?_⟩⟩
  · subst hleads
    exact ⟨rfl, trivial⟩
  · subst hleads
    subst hleads'
    refine ⟨⟨rfl, ⟨rfl, rfl, hmetadata⟩, number, rfl, bears_marked order.cli number⟩, ?_⟩
    intro _ _ hleads
    subst hleads
    exact .of_ok rfl (hspent _) _

/-- A use that the request is entitled to keeps to the discipline. -/
theorem follows_consume {code : String} {kind : CodeKind} {uses : UInt32}
    (huses : request.Uses service code kind uses) (hopen : refusal? steps = none) :
    (CodeStore.consume code kind uses).Follows (careful service request) (Ends service request)
      steps := by
  refine ⟨⟨hopen, trivial⟩, fun now _ hleads => ?_⟩
  subst hleads
  refine ⟨⟨rfl, huses, now, rfl, rfl⟩, fun use _ hleads => ?_⟩
  subst hleads
  cases use with
  | consumed record =>
    refine Ends.of_ok rfl (fun code' kind' uses' huses' => ?_) record
    obtain ⟨rfl, rfl, rfl⟩ := huses.unique huses'
    exact ⟨_, record, List.mem_cons_self⟩
  | rejected | notFound =>
    refine ⟨fun e he => ?_, fun _ h => nomatch h⟩
    cases he
    rfl

theorem leavesCodes_call {c : Call} (h : c.writesCodes = false) : (call c).LeavesCodes :=
  ⟨h, fun _ => trivial⟩

/-- The challenge with a code is only looked for. -/
theorem leavesCodes_findChallenge (code : String) : (CodeStore.findChallenge code).LeavesCodes := by
  refine ⟨rfl, ?_⟩
  intro found
  cases found with
  | none => trivial
  | some record =>
    show Flow.LeavesCodes (if record.kind = .challenge then _ else _)
    split
    · refine ⟨trivial, ?_⟩
      intro now
      show Flow.LeavesCodes (if record.isUsable now = true then _ else _)
      split <;> trivial
    · trivial

theorem leavesCodes_startSession (ttl : Duration) (user : UserSnapshot) (workspace : WorkspaceRef)
    (network : Network) : (startSession ttl user workspace network).LeavesCodes :=
  ⟨trivial, fun _ => (Flow.LeavesCodes.inCalendar _).bind fun _ =>
    ⟨trivial, fun _ => ⟨trivial, fun _ => trivial⟩⟩⟩

/-- A credential is a code that is used once more, or no code at all. -/
theorem follows_authenticate {raw : String} {context : RequestContext} :
    (service.authenticate raw context).Follows (careful service (.authenticate raw context))
      (Ends service (.authenticate raw context)) [] := by
  have hcode (hkind : CredentialKind.of raw = .code ∨ CredentialKind.of raw = .cli) :
      (Credential.resolveCode service.maxUses raw).Follows
        (careful service (.authenticate raw context)) (Ends service (.authenticate raw context))
        [] := by
    refine follows_bind (follows_consume ⟨hkind, rfl, rfl, rfl⟩ rfl)
      fun code steps hopen hspent => ?_
    refine follows_of_leavesCodes ⟨rfl, fun owner => ?_⟩ hopen hspent
    exact (Flow.LeavesCodes.require _ _).bind fun _ => ⟨rfl, fun _ => trivial⟩
  show Flow.Follows _ _ _ (if Text.isBlankText raw = true then _ else _)
  split
  · exact .of_stop rfl _
  cases hkind : CredentialKind.of raw with
  | code => exact hcode (.inl hkind)
  | cli =>
    refine follows_bind (hcode (.inr hkind)) fun identity steps hopen hspent => ?_
    show Flow.Follows _ _ _ (if service.routes.any (·.admits context) = true then _ else _)
    split
    · exact .of_ok hopen hspent identity
    · exact .of_stop hopen _
  | bearer =>
    refine follows_of_leavesCodes ((SessionStore.leavesCodes_get _ raw).bind ?_) rfl
      fun _ _ _ huses => ?_
    · intro found
      refine (Flow.LeavesCodes.require _ found).bind fun session => ⟨trivial, fun now => ?_⟩
      show Flow.LeavesCodes (if session.isExpired now = true then _ else _)
      split
      · exact (SessionStore.leavesCodes_remove raw).bind fun _ => trivial
      · trivial
    · rw [Request.Uses, hkind] at huses
      rcases huses.1 with hcode | hcli
      · cases hcode
      · cases hcli
  | connector =>
    refine follows_of_leavesCodes ?_ rfl fun _ _ _ huses => ?_
    · show Flow.LeavesCodes (if connectorSession raw = "" then _ else _)
      split
      · trivial
      · exact ⟨rfl, fun dapp => (Flow.LeavesCodes.require _ dapp).bind fun _ =>
          ⟨rfl, fun user => (Flow.LeavesCodes.require _ user).bind fun _ => trivial⟩⟩
    · rw [Request.Uses, hkind] at huses
      rcases huses.1 with hcode | hcli
      · cases hcode
      · cases hcli

/-- A sign-in uses its challenge before it begins a session. -/
theorem follows_signIn {signIn : SignInRequest} :
    (service.signIn signIn).Follows (careful service (.signIn signIn))
      (Ends service (.signIn signIn)) [] := by
  -- Up to the check of the signature, codes are only looked for.
  refine follows_bind_of_leavesCodes (Flow.LeavesCodes.require _ _) rfl ?_
  intro verifier _ hopen _
  refine follows_bind_of_leavesCodes (leavesCodes_findChallenge _) hopen ?_
  intro challenge _ hopen _
  refine follows_bind_of_leavesCodes (leavesCodes_call rfl) hopen ?_
  intro found _ hopen _
  refine follows_bind_of_leavesCodes (Flow.LeavesCodes.require _ found) hopen ?_
  intro owner _ hopen _
  refine follows_bind_of_leavesCodes (Flow.LeavesCodes.require _ _) hopen ?_
  intro signer _ hopen _
  show Flow.Follows _ _ _ (if (!sameUpToCase signer owner.address) = true then _
    else if signIn.encoder ≠ owner.accountType then _ else _)
  split
  · exact .of_stop hopen _
  split
  · exact .of_stop hopen _
  refine follows_bind (follows_consume ⟨rfl, rfl, rfl⟩ hopen) fun challenge _ hopen hspent => ?_
  -- What comes after the payment does not take it back.
  refine follows_of_leavesCodes ⟨rfl, fun workspace => ?_⟩ hopen hspent
  exact (Flow.LeavesCodes.require _ workspace).bind fun workspace =>
    (leavesCodes_startSession _ _ _ _).bind fun session =>
      (SessionStore.leavesCodes_add session).bind fun _ => trivial

/-- A challenge is issued to a user that exists. -/
theorem follows_issueChallenge {address origin : String} {network : Network}
    (hspent : ∀ steps, HasSpent service request steps) :
    (service.issueChallenge address origin network).Follows (careful service request)
      (Ends service request) [] := by
  refine follows_bind_of_leavesCodes (leavesCodes_call rfl) rfl fun found _ hopen _ => ?_
  refine follows_bind_of_leavesCodes (Flow.LeavesCodes.require _ found) hopen
    fun user _ hopen _ => ?_
  exact follows_issue ⟨.nil, nofun⟩ hopen hspent

/-- A purge deletes codes, which everyone may. -/
theorem follows_purge {retention : Duration} (hspent : ∀ steps, HasSpent service request steps) :
    (CodeStore.purge retention).Follows (careful service request) (Ends service request) [] := by
  refine ⟨⟨rfl, trivial⟩, ?_⟩
  intro now _ hleads
  subst hleads
  show ((Flow.inCalendar (now.subtract? retention)).bind _).Follows _ _ _
  refine follows_bind_of_leavesCodes (Flow.LeavesCodes.inCalendar _) rfl fun _ _ hopen _ => ?_
  refine ⟨⟨hopen, trivial⟩, fun count _ hleads => ?_⟩
  subst hleads
  exact .of_ok rfl (hspent _) count

/-- What is noted in a one-time code is as the reader of rows makes it. -/
theorem plain_uses (cli : Bool) :
    (Json.Value.object [("uses", .text (if cli = true then cliMark else codeMark))]).Plain 2 := by
  refine ⟨List.pairwise_singleton .., ?_⟩
  intro member hmem
  cases List.mem_singleton.1 hmem
  trivial

/-- Every request keeps to the discipline. -/
theorem Request.follows (service : Service) (request : Request) :
    (request.flow service).Follows (careful service request) (Ends service request) [] := by
  -- What the result is wrapped in makes no difference.
  have hwrapped {α : Type} {flow : Flow α} (wrap : α → Reply)
      (h : flow.Follows (careful service request) (Ends service request) []) :
      (flow.bind fun a => .done (wrap a)).Follows (careful service request)
        (Ends service request) [] :=
    follows_bind h fun a _ hopen hspent => .of_ok hopen hspent (wrap a)
  cases request with
  | authenticate raw context => exact hwrapped .identity follows_authenticate
  | signIn request => exact hwrapped .session follows_signIn
  | issueChallenge address origin network =>
    exact hwrapped .code (follows_issueChallenge fun _ _ _ _ huses => huses.elim)
  | requestCode identity origin cli =>
    exact hwrapped .code (follows_issue (plain_uses cli) rfl fun _ _ _ _ huses => huses.elim)
  | purge retention => exact hwrapped .purged (follows_purge fun _ _ _ _ huses => huses.elim)

end Service

end Gatekeeper

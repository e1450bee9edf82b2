import Gatekeeper.Proofs.Session.LookUp
import Gatekeeper.Proofs.Session.Upkeep
import Gatekeeper.Service

/-!
# `Gatekeeper.Proofs.Propagation`: no operation swallows an error

An operation is told the error of a call that fails, and could go on in any
way. Every call stands next to a branch for what is absent, or refused, or
not the case. An operation that took the error for one of these would deny
something that it cannot know about, or grant it. None does: each operation
is fail-stop (`Flow.FailStop`), so after a failed call there is nothing but
its error. There is one lemma for each operation, along its own branches.
-/

set_option autoImplicit false

namespace Gatekeeper

open Gatekeeper.Flow (call take)

namespace SessionStore

theorem failStop_add (session : Session) : (add session).FailStop :=
  .locked (by simp)

/-- The error of the deletion is not taken for a row that was not there. -/
theorem failStop_remove (token : String) : (remove token).FailStop := by
  refine .locked (Flow.FailStop.take_bind_iff.2 fun cached => ?_)
  simp

theorem failStop_renew (ttl : Duration) (token : String) (entry : CachedSession) :
    (renew ttl token entry).FailStop := by
  unfold renew
  split
  -- The renewal is due to be written.
  · refine Flow.FailStop.call_bind_iff.2 fun found => ?_
    cases found <;> simp
  · simp

theorem failStop_present (ttl : Duration) (token : String) (entry : CachedSession) :
    (present ttl token entry).FailStop := by
  refine Flow.FailStop.now_bind_iff.2 fun now => ?_
  split
  · simp
  · exact .bind (.of_inCalendar _) fun renewedUntil => failStop_renew ttl token _

/-- Neither the error of the look-up of a row nor that of a renewal is taken for
a row that is not there. -/
theorem failStop_get (ttl : Duration) (token : String) : (get ttl token).FailStop := by
  rw [get_eq]
  refine .locked (Flow.FailStop.take_bind_iff.2 fun cached => ?_)
  cases cached with
  | some entry => exact failStop_present ttl token entry
  | none =>
    refine Flow.FailStop.call_bind_iff.2 fun session => ?_
    cases session with
    -- There is no row, and the call that says so was answered.
    | none => simp
    | some session => exact failStop_present ttl token _

/-- Neither the error of a deletion nor that of a renewal is taken for a row that
is not there. -/
theorem failStop_sweepToken (time : Timestamp) (token : String) (report : SweepReport) :
    (sweepToken time token report).FailStop := by
  rw [sweepToken_eq]
  refine .locked (Flow.FailStop.take_bind_iff.2 fun cached => ?_)
  cases cached with
  | none => exact .of_pure report
  | some entry =>
    dsimp only [sweepEntry]
    split
    -- An expired entry leaves the cache before its row is deleted.
    · refine Flow.FailStop.take_bind_iff.2 fun forgotten => ?_
      refine Flow.FailStop.call_bind_iff.2 fun deleted => ?_
      cases deleted <;> simp
    split
    · refine Flow.FailStop.call_bind_iff.2 fun found => ?_
      cases found <;> simp
    · simp

theorem failStop_sweepTokens (time : Timestamp) (tokens : List String) (report : SweepReport) :
    (sweepTokens time tokens report).FailStop := by
  induction tokens generalizing report with
  | nil => simp [sweepTokens]
  | cons token tokens ih => exact .bind (failStop_sweepToken time token report) ih

theorem failStop_sweep (time : Timestamp) : (sweep time).FailStop := by
  refine Flow.FailStop.take_bind_iff.2 fun tokens => .bind (failStop_sweepTokens time tokens {}) ?_
  simp

end SessionStore

namespace CodeStore

theorem failStop_issue (ttl : Duration) (order : CodeOrder) : (issue ttl order).FailStop := by
  refine Flow.FailStop.now_bind_iff.2 fun now => .bind (.of_inCalendar _) fun validAt => ?_
  simp

/-- The error of a use is not taken for a refused one. -/
theorem failStop_consume (code : String) (kind : CodeKind) (maxUses : UInt32) :
    (consume code kind maxUses).FailStop := by
  refine Flow.FailStop.now_bind_iff.2 fun now => Flow.FailStop.call_bind_iff.2 fun use => ?_
  cases use <;> simp

/-- The error of a look-up is not taken for a code that is not there. -/
theorem failStop_findChallenge (code : String) : (findChallenge code).FailStop := by
  refine Flow.FailStop.call_bind_iff.2 fun found => ?_
  cases found with
  | none => exact .of_refuse _
  | some record =>
    dsimp only
    split
    · refine Flow.FailStop.now_bind_iff.2 fun now => ?_
      split <;> simp
    · simp

theorem failStop_purge (retention : Duration) : (purge retention).FailStop := by
  refine Flow.FailStop.now_bind_iff.2 fun now => .bind (.of_inCalendar _) fun cutoff => ?_
  simp

end CodeStore

namespace Credential

theorem failStop_resolveBearer (ttl : Duration) (token : String) :
    (resolveBearer ttl token).FailStop := by
  refine .bind (SessionStore.failStop_get ttl token) fun found => .bind (.of_require _ _) ?_
  refine fun session => Flow.FailStop.now_bind_iff.2 fun now => ?_
  split
  -- An expired session is removed first, so it may be that error that is told.
  · exact .bind (SessionStore.failStop_remove token) fun _ => .of_refuse _
  · simp

/-- Neither the use of the code nor the look-ups of its owner and of the owner's
workspace. -/
theorem failStop_resolveCode (maxUses : UInt32) (raw : String) :
    (resolveCode maxUses raw).FailStop := by
  refine .bind (CodeStore.failStop_consume raw .oneTime maxUses) fun code => ?_
  refine Flow.FailStop.call_bind_iff.2 fun owner => .bind (.of_require _ _) ?_
  simp

theorem failStop_resolveCli (maxUses : UInt32) (routes : List CliRoute) (raw : String)
    (context : RequestContext) : (resolveCli maxUses routes raw context).FailStop := by
  refine .bind (failStop_resolveCode maxUses raw) fun identity => ?_
  split <;> simp

theorem failStop_resolveConnector (raw : String) : (resolveConnector raw).FailStop := by
  unfold resolveConnector
  dsimp only
  split
  · simp
  refine Flow.FailStop.call_bind_iff.2 fun dapp => .bind (.of_require _ _) fun dapp => ?_
  exact Flow.FailStop.call_bind_iff.2 fun user => .bind (.of_require _ _) fun user => .of_pure _

end Credential

namespace Service

theorem failStop_authenticate (service : Service) (raw : String) (context : RequestContext) :
    (service.authenticate raw context).FailStop := by
  unfold authenticate
  split
  · simp
  cases CredentialKind.of raw with
  | bearer => exact Credential.failStop_resolveBearer _ raw
  | code => exact Credential.failStop_resolveCode _ raw
  | cli => exact Credential.failStop_resolveCli _ _ raw context
  | connector => exact Credential.failStop_resolveConnector raw

/-- The error of a look-up is not taken for somebody who is no member. -/
theorem failStop_memberPermissions (identity : Identity) (workspace : String) :
    (memberPermissions identity workspace).FailStop := by
  refine Flow.FailStop.call_bind_iff.2 fun isMember => ?_
  cases isMember <;> simp

theorem failStop_authorize (identity : Identity) (roles : List Role) (resource : String) :
    (authorize identity roles resource).FailStop := by
  refine Flow.FailStop.call_bind_iff.2 fun owner => .bind (.of_require _ _) fun owner => ?_
  refine .bind (.of_require _ _) fun workspace => ?_
  split
  · refine .bind (failStop_memberPermissions identity workspace) fun table => ?_
    split <;> simp
  · simp

theorem failStop_authorizeWorkspace (identity : Identity) (roles : List Role) :
    (authorizeWorkspace identity roles).FailStop := by
  refine .bind (.of_require _ _) fun workspace => ?_
  refine .bind (failStop_memberPermissions identity workspace) fun table => ?_
  split <;> simp

theorem failStop_issueChallenge (service : Service) (address origin : String) (network : Network) :
    (service.issueChallenge address origin network).FailStop := by
  refine Flow.FailStop.call_bind_iff.2 fun user => .bind (.of_require _ _) fun user => ?_
  exact CodeStore.failStop_issue _ _

theorem failStop_startSession (ttl : Duration) (user : UserSnapshot) (workspace : WorkspaceRef)
    (network : Network) : (startSession ttl user workspace network).FailStop := by
  refine Flow.FailStop.now_bind_iff.2 fun now => .bind (.of_inCalendar _) fun expiresAt => ?_
  simp

/-- None of the six calls, be it before the challenge is used up or after. -/
theorem failStop_signIn (service : Service) (request : SignInRequest) :
    (service.signIn request).FailStop := by
  refine .bind (.of_require _ _) fun verifier => ?_
  refine .bind (CodeStore.failStop_findChallenge _) fun challenge => ?_
  refine Flow.FailStop.call_bind_iff.2 fun owner => .bind (.of_require _ _) fun owner => ?_
  refine .bind (.of_require _ _) fun signer => ?_
  split
  · simp
  split
  · simp
  -- From here on the challenge is used up, whatever fails.
  refine .bind (CodeStore.failStop_consume _ _ _) fun challenge => ?_
  refine Flow.FailStop.call_bind_iff.2 fun workspace => .bind (.of_require _ _) fun workspace => ?_
  refine .bind (failStop_startSession _ _ _ _) fun session => ?_
  exact .bind (SessionStore.failStop_add session) fun _ => .of_pure session

theorem failStop_signOut (token : String) : (signOut token).FailStop :=
  .bind (SessionStore.failStop_remove token) fun _ => .of_pure ()

theorem failStop_requestCode (service : Service) (identity : Identity) (origin : String)
    (cli : Bool) : (service.requestCode identity origin cli).FailStop :=
  CodeStore.failStop_issue _ _

end Service

end Gatekeeper

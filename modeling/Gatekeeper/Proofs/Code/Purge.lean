import Gatekeeper.Proofs.Horizon
import Gatekeeper.Proofs.Separation

/-!
# `Gatekeeper.Proofs.Code.Purge`: nobody misses a purged code

A purge deletes codes that expired some time ago. Who presents such a code
afterwards is refused because there is none, and was refused before
because it is expired. The two refusals have the same title, and only
their words differ.

So two servers are compared: one that keeps all its codes, and one that
lacks some expired ones (`Server.Outlives`). `unaware now` is the discipline
of the operations. It asks for the use of a code at the time that the clock
shows, and whoever is answered that a code is not there, or that it is
expired, can only be refused from then on. `Operation.unaware` says that
every operation keeps to it, and `Flow.Unaware.run_matched` that two runs of
such a flow, in whatever weather, end alike up to the words for the code.

`Server.ends_of_outlives` carries this over a course of events, with purges
on one side only: the clock never goes back, so a code that is expired
stays so. `CodeStore.purge_unseen` adds what exactly a purge deletes.
-/

set_option autoImplicit false

namespace Gatekeeper

open Connector (Conditions)

/-- A time that lies back does not lie ahead. -/
theorem Timestamp.ofInstant_le_of_subtract? {now earlier : Instant} {span : Nat}
    (h : now.subtract? span = some earlier) : ofInstant earlier ≤ ofInstant now := by
  have hspan := Int.natCast_nonneg span
  rw [← not_lt, ofInstant_lt_ofInstant]
  show ¬ now.nanos < earlier.nanos
  rw [Instant.nanos_of_ofNanos? h]
  omega

/-! ### A server that lacks some expired codes -/

/-- One database has the rows of another one but for some codes that are
expired at a time. -/
structure Database.Outlives (now : Timestamp) (db other : Database) : Prop where
  rest : other = { db with codes := other.codes }
  codes : ∀ text, other.codes.get? text = db.codes.get? text ∨
    other.codes.get? text = none ∧
      ∃ code, db.codes.find RecoverCode.form text = .ok (some code) ∧ code.validAt ≤ now

/-- One server is in the state of another one but for some codes that are
expired at a time. -/
structure Server.Outlives (now : Timestamp) (server other : Server) : Prop where
  rest : other = { server with database := other.database }
  database : server.database.Outlives now other.database

/-- The clock is the same. -/
theorem Server.Outlives.now?_eq {now : Timestamp} {server other : Server}
    (h : server.Outlives now other) : other.now? = server.now? := by
  rw [h.rest]
  rfl

namespace Database.Outlives

variable {now : Timestamp} {db other : Database}

theorem refl (now : Timestamp) (db : Database) : db.Outlives now db := ⟨rfl, fun _ => .inl rfl⟩

/-- What is expired stays expired. -/
theorem mono {later : Timestamp} (h : db.Outlives now other) (hle : now ≤ later) :
    db.Outlives later other where
  rest := h.rest
  codes text := (h.codes text).imp_right fun ⟨hnone, code, hfind, hexpired⟩ =>
    ⟨hnone, code, hfind, Timestamp.le_trans hexpired hle⟩

/-- A code is written on both sides. -/
theorem write (h : db.Outlives now other) (key : String) (code : RecoverCode) :
    Outlives now { db with codes := db.codes.write RecoverCode.form key code }
      { other with codes := other.codes.write RecoverCode.form key code } where
  rest := by rw [h.rest]
  codes text := by
    by_cases htext : text = key
    · subst htext
      simp
    · have hcodes := h.codes text
      simpa only [Table.find, Table.get?_write_of_ne _ _ htext] using hcodes

/-- The other tables may change alike. -/
theorem change (h : db.Outlives now other) {db' : Database} (hcodes : db'.codes = db.codes) :
    db'.Outlives now { db' with codes := other.codes } where
  rest := rfl
  codes := by simpa only [hcodes] using h.codes

/-- On the other side a purge deletes codes that expired before the time. -/
theorem purge (h : db.Outlives now other) {cutoff : Timestamp} (hcutoff : cutoff ≤ now)
    {count : Nat} {codes : Table}
    (hpurge : other.codes.removeWhere RecoverCode.form (·.validAt < cutoff) = .ok (count, codes)) :
    db.Outlives now { other with codes } where
  rest := by rw [h.rest]
  codes text := by
    have hleft := Table.get?_removeWhere hpurge text
    show codes.get? text = _ ∨ codes.get? text = none ∧ _
    rcases h.codes text with hsame | ⟨hnone, hexpired⟩
    · cases hrow : other.codes.get? text with
      | none =>
        refine .inl ?_
        rw [hleft, ← hsame, hrow, Option.filter_none]
      | some row =>
        obtain ⟨code, hdecode⟩ := Table.decodes_of_removeWhere hpurge text row hrow
        have hfind : db.codes.find RecoverCode.form text = .ok (some code) := by
          rw [← Table.find_congr hsame]
          simp only [Table.find, hrow, Table.decodeRow, hdecode]
          rfl
        by_cases hold : code.validAt < cutoff
        · refine .inr ⟨?_, code, hfind, Timestamp.le_trans (Timestamp.le_of_lt hold) hcutoff⟩
          simp [hleft, hrow, Table.rowSatisfies, hdecode, hold]
        · refine .inl ?_
          rw [← hsame, hleft, hrow]
          simp [Table.rowSatisfies, hdecode, hold]
    · exact .inr ⟨by rw [hleft, hnone, Option.filter_none], hexpired⟩

end Database.Outlives

/-! ### One step on both servers -/

/-- Whether the call is about recover codes. -/
def Call.isOfCodes : Call → Bool
  | .findCode _ | .insertCode _ | .updateCode _ | .consumeCode .. | .deleteCodesBefore _ => true
  | _ => false

/-- A call that is not about codes does not see them. -/
theorem Call.run_withCodes {c : Call} (h : c.isOfCodes = false) (db : Database) (codes : Table) :
    c.run { db with codes } =
      (c.run db).map fun (answer, after) => (answer, { after with codes }) := by
  -- Most calls look for one record.
  have hfound {β γ : Type} (found : Except StoreError β) (f : β → γ) :
      (do return (f (← (liftM found : Except CallFault β)), { db with codes }) :
        Except CallFault (γ × Database)) =
      (do return (f (← (liftM found : Except CallFault β)), db) :
        Except CallFault (γ × Database)).map fun (answer, after) =>
          (answer, { after with codes }) := by
    cases found <;> rfl
  cases c with
  | findSession | findUser | findDapp | findWorkspace | findPermissions | isMember =>
    exact hfound _ _
  | findUserByAddress address =>
    simp only [Call.run]
    cases db.addresses.get? (Text.lowercase address) with
    | none => rfl
    | some id => exact hfound _ _
  | updateSession session =>
    simp only [Call.run]
    split <;> rfl
  | deleteExpiredSessions time =>
    simp only [Call.run]
    cases db.sessions.removeWhere Session.form (·.isExpired time) <;> rfl
  | upsertSession | deleteSession | findResourceOwner => rfl
  | findCode | insertCode | updateCode | consumeCode | deleteCodesBefore => cases h

/-- The call is no purge, and a use of a code is asked for at the time that
the clock shows. -/
def Call.Ordinary (now : Timestamp) : Call → Prop
  | .deleteCodesBefore _ => False
  | .consumeCode _ _ _ time => time = now
  | _ => True

/-- By the answer, a code cannot be had: there is none, or it is expired. -/
def Call.Bars (now : Timestamp) : (c : Call) → c.Answer → Prop
  | .findCode _, found => ∀ code, found = some code → code.validAt ≤ now
  | .consumeCode .., use => ∀ used, use ≠ .consumed used
  | _, _ => False

/-- Both ends are the same error, or neither is an error and `R` holds of
them. -/
def Paired {ε α β : Type} (R : α → β → Prop) : Except ε α → Except ε β → Prop
  | .ok a, .ok b => R a b
  | .error e, .error e' => e = e'
  | _, _ => False

theorem Paired.bind {ε α β γ δ : Type} {R : α → β → Prop} {S : γ → δ → Prop} {a? : Except ε α}
    {b? : Except ε β} {f : α → Except ε γ} {g : β → Except ε δ} (h : Paired R a? b?)
    (hnext : ∀ a b, R a b → Paired S (f a) (g b)) : Paired S (a? >>= f) (b? >>= g) := by
  cases a? <;> cases b?
  · exact h
  · exact h.elim
  · exact h.elim
  · exact hnext _ _ h

/-- A call is answered alike on both sides, or both answers say that a code
cannot be had. -/
def Call.Matched (now : Timestamp) (c : Call) (ended ended' : c.Answer × Database) : Prop :=
  (ended.1 = ended'.1 ∨ c.Bars now ended.1 ∧ c.Bars now ended'.1) ∧ ended.2.Outlives now ended'.2

theorem Call.run_matched {now : Timestamp} {c : Call} (hordinary : c.Ordinary now)
    {db other : Database} (h : db.Outlives now other) :
    Paired (c.Matched now) (c.run db) (c.run other) := by
  by_cases hcodes : c.isOfCodes = false
  · rw [(congrArg c.run h.rest).trans (run_withCodes hcodes db other.codes)]
    cases hrun : c.run db with
    | error fault => rfl
    | ok answered =>
      refine ⟨.inl rfl, h.change (codes_of_run ?_ hrun)⟩
      revert hcodes
      cases c <;> simp [isOfCodes, writesCodes]
  cases c with
  | insertCode code | updateCode code => exact ⟨.inl rfl, h.write _ _⟩
  | findCode text =>
    rcases h.codes text with hsame | ⟨hnone, code, hfind, hexpired⟩
    · simp only [run, Table.find_congr hsame]
      cases db.codes.find RecoverCode.form text with
      | error e => rfl
      | ok found => exact ⟨.inl rfl, h⟩
    · -- The code was deleted on the other side.
      simp only [run, hfind, Table.find_of_get?_none hnone]
      exact ⟨.inr ⟨by simpa [Bars] using hexpired, by simp [Bars]⟩, h⟩
  | consumeCode text kind maxUses time =>
    obtain rfl : time = now := hordinary
    rcases h.codes text with hsame | ⟨hnone, code, hfind, hexpired⟩
    · simp only [run, Database.consumeCode, Table.find_congr hsame]
      rcases db.codes.find RecoverCode.form text with e | _ | record
      · rfl
      · exact ⟨.inl rfl, h⟩
      · -- The same code is looked at on both sides, and the same is written.
        show Paired (Matched time _)
          (if record.kind ≠ kind then _ else if record.isUsable time = true then _ else _)
          (if record.kind ≠ kind then _ else if record.isUsable time = true then _ else _)
        split
        · exact ⟨.inl rfl, h⟩
        split
        · cases record.recordUse? maxUses with
          | none => rfl
          | some used => exact ⟨.inl rfl, h.write text used⟩
        · exact ⟨.inl rfl, h⟩
    · have hunusable : code.isUsable time = false := by
        simp [RecoverCode.isUsable, Timestamp.not_lt.2 hexpired]
      obtain ⟨use, hrun, hnot⟩ :=
        run_consumeCode_refused hfind fun _ : code.kind = kind => hunusable
      rw [hrun, run_consumeCode_none hnone]
      exact ⟨.inr ⟨hnot, by simp [Bars]⟩, h⟩
  | deleteCodesBefore => exact hordinary.elim
  | _ => exact absurd rfl hcodes

/-- As `Call.Ordinary`, of a step. -/
def Step.Ordinary (now : Timestamp) : Step → Prop
  | .call c => c.Ordinary now
  | _ => True

/-- As `Call.Bars`, of a step. -/
def Step.Bars (now : Timestamp) : (s : Step) → s.Answer → Prop
  | .call c, answer => c.Bars now answer
  | _, _ => False

/-- As `Call.Matched`, of a step that is run on two servers. -/
def Step.Matched (now : Timestamp) (s : Step) (ended ended' : s.Answer × Progress × Server) :
    Prop :=
  (ended.1 = ended'.1 ∨ s.Bars now ended.1 ∧ s.Bars now ended'.1) ∧ ended.2.1 = ended'.2.1 ∧
    ended.2.2.Outlives now ended'.2.2

section
variable {now : Timestamp} {server other : Server} (weather : Weather) (limit : Option Nat)
  (progress : Progress)

/-- Weather and limit fall on both sides alike. -/
theorem Call.attempt_matched {c : Call} (hordinary : c.Ordinary now) {db db' : Database}
    (h : db.Outlives now db') :
    Paired (fun ended ended' => c.Matched now (ended.1, ended.2.2) (ended'.1, ended'.2.2) ∧
      ended.2.1 = ended'.2.1) (c.attempt weather limit progress db)
      (c.attempt weather limit progress db') := by
  have hrun := c.run_matched hordinary h
  unfold attempt
  dsimp only
  split
  · rfl
  cases (weather progress.calls c).disturbance with
  | fault error => rfl
  | none =>
    revert hrun
    rcases c.run db with (e | cause) | ended <;> rcases c.run db' with (e' | cause') | ended' <;>
      simp +contextual [Paired]
  | blindness =>
    -- A blind look-up is answered without the tables.
    cases c.nothing? with
    | some answer => exact ⟨⟨.inl rfl, h⟩, rfl⟩
    | none =>
      revert hrun
      rcases c.run db with (e | cause) | ended <;> rcases c.run db' with (e' | cause') | ended' <;>
        simp +contextual [Paired]

/-- What is run on two servers ends alike, and one of them still lacks no
more than expired codes. -/
theorem Step.run_matched {s : Step} (hordinary : s.Ordinary now) (h : server.Outlives now other) :
    Paired (s.Matched now) (s.run weather limit progress server)
      (s.run weather limit progress other) := by
  obtain ⟨hrest, hdatabase⟩ := h
  cases s with
  | call c =>
    refine (c.attempt_matched weather limit progress hordinary hdatabase).bind ?_
    rintro ⟨answer, made, database⟩ ⟨answer', made', database'⟩ ⟨⟨hanswer, hdatabase⟩, hmade⟩
    exact ⟨hanswer, hmade, by rw [hrest], hdatabase⟩
  | readClock =>
    have hnow : other.now? = server.now? := by rw [hrest]; rfl
    simp only [run, hnow]
    cases server.now? with
    | none => rfl
    | some time => exact ⟨.inl rfl, rfl, hrest, hdatabase⟩
  | lookUp | peek | remember | forget | listStale | drawId | lock | unlock =>
    rw [hrest]
    exact ⟨.inl rfl, rfl, rfl, hdatabase⟩

end

/-! ### What operations make of the answers -/

/-- What is left to an operation: anything, or only to be refused for a
code. -/
inductive Prospect where
  | free
  | barred

/-- The reason without the words that tell why a code is refused. -/
def Stop.blurred : Stop → Stop
  | .refused (.unauthorized .invalidRecoverCode _) =>
    .refused (.unauthorized .invalidRecoverCode "")
  | why => why

/-- The operation ends in a way that is left to it. -/
def Prospect.Fits {α : Type} : Prospect → Except Stop α → Prop
  | .free, _ => True
  | .barred, end? => ∃ why, end? = .error why ∧ why.blurred = .blurred (.refused .unknownCode)

/-- Who is refused for a code may have been barred or not. -/
theorem Prospect.fits_refused {α : Type} (prospect : Prospect) {why : Stop}
    (h : why.blurred = .blurred (.refused .unknownCode)) :
    prospect.Fits (.error why : Except Stop α) := by
  cases prospect with
  | free => trivial
  | barred => exact ⟨why, rfl, h⟩

/-- The discipline of operations that do not tell an expired code from one
that is not there. While the clock shows `now`, whoever cannot have a code
does nothing more than read the clock before being refused. -/
def unaware (now : Instant) : Discipline Prospect where
  allows
    | .free, s => s.Ordinary now
    | .barred, s => s = .readClock
  leads prospect s answer prospect' :=
    s.Tells now answer ∧ (prospect' = prospect ∨ s.Bars now answer)

/-- The step is no call that is answered differently where a code is
missing. -/
def Step.Indifferent : Step → Prop
  | .call (.findCode _) | .call (.consumeCode ..) | .call (.deleteCodesBefore _) => False
  | _ => True

namespace Flow

variable {α β : Type} {now : Instant}

/-- The flow keeps to the discipline. -/
def Unaware (now : Instant) (flow : Flow α) : Prop :=
  flow.Follows (unaware now) Prospect.Fits .free

namespace Unaware

theorem bind {flow : Flow α} {f : α → Flow β} (h : flow.Unaware now)
    (hnext : ∀ a, (f a).Unaware now) : (flow >>= f).Unaware now := by
  refine Follows.bind (Follows.mono h ?_)
  intro prospect end? hfits
  cases prospect with
  | free =>
    cases end? with
    | ok a => exact hnext a
    | error why => trivial
  | barred =>
    -- Who is barred has been refused by now.
    obtain ⟨why, rfl, hwhy⟩ := hfits
    exact ⟨why, rfl, hwhy⟩

/-- What does not see whether a code is missing is not barred. -/
theorem of_takes {flow : Flow α} (h : flow.Takes Step.Indifferent) : flow.Unaware now := by
  induction flow with
  | done | stop => trivial
  | step s next failed ih _ =>
    have hstep : s.Ordinary now ∧ ∀ answer, ¬ s.Bars now answer := by
      have hs : s.Indifferent := h.1
      rcases s with c | _ | _ | _ | _ | _ | _ | _ | _ | _
      · cases c <;> simp_all [Step.Indifferent, Step.Ordinary, Call.Ordinary, Step.Bars, Call.Bars]
      all_goals simp [Step.Ordinary, Step.Bars]
    refine ⟨hstep.1, ?_⟩
    rintro answer prospect ⟨-, rfl | hbars⟩
    · exact ih answer (h.2 answer)
    · exact (hstep.2 answer hbars).elim

end Unaware

end Flow

theorem Flow.Takes.indifferent {α : Type} {flow : Flow α} (h : flow.Takes Step.OfSessions) :
    flow.Takes Step.Indifferent := by
  refine h.mono fun s hs => ?_
  rcases s with c | _ | _ | _ | _ | _ | _ | _ | _ | _
  · cases c <;> simp_all [Step.Indifferent, Step.OfSessions, Call.isOfSessions]
  all_goals trivial

section
variable {now : Instant}

namespace CodeStore

theorem unaware_consume (code : String) (kind : CodeKind) (maxUses : UInt32) :
    (consume code kind maxUses).Unaware now := by
  refine ⟨trivial, ?_⟩
  rintro _ _ ⟨rfl, rfl | hbars⟩
  case inr => exact False.elim hbars
  refine ⟨rfl, ?_⟩
  rintro use prospect ⟨-, hprospect⟩
  cases use with
  | consumed record =>
    rcases hprospect with rfl | hbars
    · trivial
    · exact absurd rfl (hbars record)
  | rejected | notFound => exact prospect.fits_refused rfl

theorem unaware_findChallenge (code : String) : (findChallenge code).Unaware now := by
  refine ⟨trivial, ?_⟩
  rintro found prospect ⟨-, hprospect⟩
  cases found with
  | none => exact prospect.fits_refused rfl
  | some record =>
    show Flow.Follows _ _ _ (if record.kind = .challenge then _ else _)
    split
    · refine ⟨by cases prospect <;> trivial, ?_⟩
      rintro _ prospect' ⟨rfl, rfl | hbars⟩
      case inr => exact False.elim hbars
      show Flow.Follows _ _ _ (if record.isUsable _ = true then _ else _)
      split
      next husable =>
        -- A challenge that can be used is not expired, so it bars nobody.
        rcases hprospect with rfl | hexpired
        · trivial
        · have hle := hexpired record rfl
          simp [RecoverCode.isUsable, Timestamp.not_lt.2 hle] at husable
      next => exact prospect'.fits_refused rfl
    · exact prospect.fits_refused rfl

theorem takes_issue (ttl : Duration) (order : CodeOrder) :
    (issue ttl order).Takes Step.Indifferent := by
  simp only [issue, Flow.Takes.now_bind_iff]
  refine ⟨trivial, fun now => .bind (.of_inCalendar _) fun validAt => ?_⟩
  simp [Step.Indifferent]

end CodeStore

theorem Credential.unaware_resolveCode (maxUses : UInt32) (raw : String) :
    (Credential.resolveCode maxUses raw).Unaware now := by
  refine .bind (CodeStore.unaware_consume raw .oneTime maxUses) fun code => .of_takes ?_
  simp only [Flow.Takes.call_bind_iff]
  exact ⟨trivial, fun owner => .bind (.of_require _ _) fun _ => by simp [Step.Indifferent]⟩

theorem Service.takes_memberPermissions (identity : Identity) (workspace : String) :
    (Service.memberPermissions identity workspace).Takes Step.Indifferent := by
  simp only [memberPermissions, Flow.Takes.call_bind_iff]
  refine ⟨trivial, fun isMember => ?_⟩
  split <;> simp [Step.Indifferent]

/-- No operation tells an expired code from one that is not there. -/
theorem Operation.unaware (service : Service) {α : Type} (operation : Operation α) :
    (operation.flow service).Unaware now := by
  cases operation with
  | authenticate raw context =>
    show (service.authenticate raw context).Unaware now
    unfold Service.authenticate
    split
    · trivial
    split
    · refine .of_takes (.bind (SessionStore.takes_get _ raw).indifferent fun found => ?_)
      refine .bind (.of_require _ _) fun session =>
        Flow.Takes.now_bind_iff.2 ⟨trivial, fun now => ?_⟩
      split
      · exact .bind (SessionStore.takes_remove raw).indifferent fun _ => .of_refuse _
      · trivial
    · exact Credential.unaware_resolveCode _ raw
    · refine .bind (Credential.unaware_resolveCode _ raw) fun identity => ?_
      split <;> trivial
    · refine .of_takes ?_
      unfold Credential.resolveConnector
      dsimp only
      split
      · trivial
      · simp only [Flow.Takes.call_bind_iff]
        refine ⟨trivial, fun found => .bind (.of_require _ _) fun dapp => ?_⟩
        simp only [Flow.Takes.call_bind_iff]
        exact ⟨trivial, fun found => .bind (.of_require _ _) fun user => .of_pure _⟩
  | authorize identity roles resource =>
    refine .of_takes (Flow.Takes.call_bind_iff.2 ⟨trivial, fun found => ?_⟩)
    refine .bind (.of_require _ _) fun owner => .bind (.of_require _ _) fun workspace => ?_
    split
    · refine .bind (Service.takes_memberPermissions identity workspace) fun table => ?_
      split <;> trivial
    · trivial
  | authorizeWorkspace identity roles =>
    refine .of_takes (.bind (.of_require _ _) fun workspace => ?_)
    refine .bind (Service.takes_memberPermissions identity workspace) fun table => ?_
    split <;> trivial
  | issueChallenge address origin network =>
    refine .of_takes (Flow.Takes.call_bind_iff.2 ⟨trivial, fun found => ?_⟩)
    exact .bind (.of_require _ _) fun user => CodeStore.takes_issue _ _
  | signIn request =>
    refine .bind (.of_takes (.of_require _ _)) fun verifier =>
      .bind (CodeStore.unaware_findChallenge _) fun challenge => ?_
    refine .bind (.of_takes (Flow.Takes.call_iff.2 trivial)) fun found =>
      .bind (.of_takes (.of_require _ _)) fun owner =>
        .bind (.of_takes (.of_require _ _)) fun signer => ?_
    split
    · trivial
    split
    · trivial
    refine .bind (CodeStore.unaware_consume _ _ _) fun challenge => .of_takes ?_
    simp only [Flow.Takes.call_bind_iff]
    refine ⟨trivial, fun found => .bind (.of_require _ _) fun workspace =>
      .bind ?_ fun session => ?_⟩
    · refine Flow.Takes.now_bind_iff.2 ⟨trivial, fun now => .bind (.of_inCalendar _) fun _ => ?_⟩
      simp [Step.Indifferent]
    · exact .bind (SessionStore.takes_add session).indifferent fun _ => .of_pure _
  | signOut token =>
    exact .of_takes (.bind (SessionStore.takes_remove token).indifferent fun _ => .of_pure _)
  | requestCode identity origin cli => exact .of_takes (CodeStore.takes_issue _ _)

/-! ### Two runs of an operation -/

variable {α : Type} {flow : Flow α} {server other : Server}

/-- Whoever is barred is refused, and nothing happens before. -/
theorem Flow.Follows.run_barred (h : flow.Follows (unaware now) Prospect.Fits .barred)
    (hnow : server.now? = some now) (weather : Weather) (limit : Option Nat) (progress : Progress) :
    ∃ why, flow.run weather limit progress server = (.error why, server) ∧
      why.blurred = .blurred (.refused .unknownCode) := by
  induction flow with
  | done a =>
    obtain ⟨_, ⟨⟩, _⟩ := h
  | stop why =>
    obtain ⟨_, ⟨⟩, hwhy⟩ := h
    exact ⟨why, rfl, hwhy⟩
  | step s next failed ih _ =>
    obtain ⟨rfl, hnext⟩ := h
    simp only [Flow.run, Step.run, hnow]
    exact ih now (hnext now .barred ⟨rfl, .inl rfl⟩)

/-- Two runs end alike up to the words for a code, and one server still lacks
no more than expired codes. -/
def Server.Matched (now : Timestamp) (ended ended' : Except Stop α × Server) : Prop :=
  ended.1.mapError Stop.blurred = ended'.1.mapError Stop.blurred ∧ ended.2.Outlives now ended'.2

theorem Flow.Unaware.run_matched (h : flow.Unaware now) (hfail : flow.FailStop)
    (hrel : server.Outlives now other) (hnow : server.now? = some now) (weather : Weather)
    (limit : Option Nat) (progress : Progress) :
    Server.Matched now (flow.run weather limit progress server)
      (flow.run weather limit progress other) := by
  induction flow generalizing server other progress with
  | done | stop => exact ⟨rfl, hrel⟩
  | step s next failed ih _ =>
    have hstep := s.run_matched weather limit progress h.1 hrel
    rcases hrun : s.run weather limit progress server with halt | ⟨answer, made, after⟩ <;>
      rcases hrun' : s.run weather limit progress other with halt' | ⟨answer', made', after'⟩ <;>
      rw [hrun, hrun'] at hstep
    · cases hstep
      rw [hfail.run_of_halt hrun, hfail.run_of_halt hrun']
      exact ⟨rfl, hrel⟩
    · exact hstep.elim
    · exact hstep.elim
    obtain ⟨hanswer, rfl, hrel'⟩ := hstep
    unfold Flow.run
    rw [hrun, hrun']
    have hnow' : after.now? = some now := hnow ▸ congrArg Instant.ofClock? (Step.clock_of_run hrun)
    have htells := Step.tells_of_run hnow hrun
    rcases hanswer with rfl | ⟨hbars, hbars'⟩
    · exact ih answer (h.2 answer .free ⟨htells, .inl rfl⟩) (hfail.1 answer) hrel' hnow' made
    · -- The code cannot be had on either server, and both refuse for it.
      have htells' := Step.tells_of_run (hrel.now?_eq ▸ hnow) hrun'
      obtain ⟨why, hend, hwhy⟩ :=
        (h.2 answer .barred ⟨htells, .inr hbars⟩).run_barred hnow' weather limit made
      obtain ⟨why', hend', hwhy'⟩ :=
        (h.2 answer' .barred ⟨htells', .inr hbars'⟩).run_barred
          (hrel'.now?_eq ▸ hnow') weather limit made
      simp only [hend, hend']
      exact ⟨congrArg Except.error (hwhy.trans hwhy'.symm), hrel'⟩

/-- Whatever operation is performed on both servers, its end does not tell
them apart. -/
theorem Flow.Unaware.perform_matched (h : flow.Unaware now) (hfail : flow.FailStop)
    (hrel : server.Outlives now other) (hnow : server.now? = some now) (weather : Weather)
    (limit : Option Nat) :
    Server.Matched now (server.perform weather limit flow) (other.perform weather limit flow) := by
  have hrun := h.run_matched hfail hrel hnow weather limit {}
  have hids : other.idsDrawn = server.idsDrawn := by rw [hrel.rest]
  unfold Server.perform
  revert hrun
  rcases flow.run weather limit {} server with ⟨why | ended, after⟩ <;>
    rcases flow.run weather limit {} other with ⟨why' | ended', after'⟩ <;>
    rintro ⟨hend, hrel'⟩
  · have hblurred : Except.error why.blurred = Except.error why'.blurred := hend
    refine ⟨congrArg Except.error (Except.error.inj hblurred), ?_, hrel'.database⟩
    rw [hids]
    exact congrArg (fun last => { last with idsDrawn := server.idsDrawn }) hrel'.rest
  · cases hend
  · cases hend
  · cases hend
    exact ⟨rfl, hrel'⟩

end

/-! ### Purges -/

namespace CodeStore

/-- What a purge has done that came to its end: it has deleted the codes that
expired before a time, and no others. -/
structure Purged (cutoff : Timestamp) (server : Server) (count : Nat) (after : Server) : Prop where
  rest : after = { server with
    database := { server.database with codes := after.database.codes } }
  codes : ∀ text row, after.database.codes.get? text = some row ↔
    server.database.codes.get? text = some row ∧
      ∃ code, RecoverCode.form.decode row = .ok code ∧ ¬ code.validAt < cutoff
  counted : after.database.codes.size + count = server.database.codes.size

/-- What a purge brings about: it deletes what expired before the cutoff, or
it stops and changes nothing. -/
def Purges (retention : Duration) (server : Server) : Except Stop Nat → Server → Prop
  | .ok count, after => ∃ now cutoff codes, server.now? = some now ∧
      now.subtract? retention = some cutoff ∧
      server.database.codes.removeWhere RecoverCode.form (·.validAt < (cutoff : Timestamp)) =
        .ok (count, codes) ∧
      after = { server with database := { server.database with codes } }
  | .error _, after => after = { server with idsDrawn := after.idsDrawn }

theorem ensures_purge (retention : Duration) (server : Server) :
    (purge retention).Ensures (Purges retention server) server := by
  refine ⟨fun now hnow => ?_, fun _ => rfl⟩
  show Flow.Ensures _ ((Flow.inCalendar (now.subtract? retention)).bind _) server
  cases hcutoff : now.subtract? retention with
  | none => rfl
  | some cutoff =>
    refine ⟨fun _ => rfl, fun count database hrun => ?_⟩
    obtain ⟨codes, hremoved, rfl⟩ := Call.codes_of_run_deleteCodesBefore hrun
    exact ⟨now, cutoff, codes, hnow, hcutoff, hremoved, rfl⟩

theorem perform_purge (retention : Duration) (server : Server) {weather : Weather}
    (hclear : weather.Clear) (limit : Option Nat) :
    Purges retention server (server.perform weather limit (purge retention)).1
      (server.perform weather limit (purge retention)).2 :=
  (ensures_purge retention server).perform (failStop_purge retention)
    (fun _ _ _ hsame => by rw [hsame]; rfl) hclear limit

/-- A purge that stops changes nothing. -/
theorem perform_purge_error {retention : Duration} {server after : Server} {weather : Weather}
    (hclear : weather.Clear) {limit : Option Nat} {why : Stop}
    (h : server.perform weather limit (purge retention) = (.error why, after)) :
    after = server := by
  have hsame := perform_purge retention server hclear limit
  have hids := Server.idsDrawn_of_stopped h
  rw [h] at hsame
  rw [show after = _ from hsame, hids]

/-- A purge that comes to its end has deleted the codes that expired before
the cutoff. -/
theorem purged_of_perform {retention : Duration} {server after : Server} {weather : Weather}
    (hclear : weather.Clear) {limit : Option Nat} {now cutoff : Instant} {count : Nat}
    (hnow : server.now? = some now) (hcutoff : now.subtract? retention = some cutoff)
    (h : server.perform weather limit (purge retention) = (.ok count, after)) :
    Purged cutoff server count after := by
  have hpurges := perform_purge retention server hclear limit
  rw [h] at hpurges
  obtain ⟨_, _, codes, hnow', hcutoff', hremoved, rfl⟩ := hpurges
  obtain rfl := Option.some.inj (hnow.symm.trans hnow')
  obtain rfl := Option.some.inj (hcutoff.symm.trans hcutoff')
  refine ⟨rfl, fun text row => ?_, Table.size_removeWhere hremoved⟩
  simpa using Table.get?_removeWhere_eq_some_iff hremoved

end CodeStore

namespace Server

/-- A purge on the other server deletes what is expired. -/
theorem Outlives.purge {now : Instant} {server other : Server} (h : server.Outlives now other)
    (hnow : server.now? = some now) (retention : Nat) (conditions : Conditions) :
    server.Outlives now (conditions.perform (CodeStore.purge retention) other).2 := by
  rcases hend : conditions.perform (CodeStore.purge retention) other with ⟨why | count, after⟩
  · obtain rfl := CodeStore.perform_purge_error conditions.clear hend
    exact h
  have hpurges := CodeStore.perform_purge retention other conditions.clear conditions.limit
  rw [show other.perform conditions.weather conditions.limit _ = _ from hend] at hpurges
  obtain ⟨now', cutoff, codes, hnow', hcutoff, hremoved, rfl⟩ := hpurges
  obtain rfl : now = now' := Option.some.inj (hnow.symm.trans (h.now?_eq ▸ hnow'))
  exact ⟨by rw [h.rest], h.database.purge (Timestamp.ofInstant_le_of_subtract? hcutoff) hremoved⟩

theorem Outlives.refl (now : Timestamp) (server : Server) : server.Outlives now server :=
  ⟨rfl, .refl now _⟩

/-- Time passes on both servers. -/
theorem Outlives.wait {now later : Instant} {server other : Server} (h : server.Outlives now other)
    (hnow : server.now? = some now) (nanos : Nat)
    (hlater : (other.advance nanos).now? = some later) :
    (server.advance nanos).Outlives later (other.advance nanos) := by
  have hclock : other.clock = server.clock := by rw [h.rest]
  refine ⟨congrArg (advance · nanos) h.rest, h.database.mono ?_⟩
  rw [← Timestamp.not_lt, Timestamp.ofInstant_lt_ofInstant]
  have hnanos := nanos_of_now? hnow
  have hnanos' : later.nanos = other.clock + (nanos : Int) := nanos_of_now? hlater
  show ¬ later.nanos < now.nanos
  omega

/-! ### A course of events -/

/-- Something that happens to a server while its clock goes on. -/
inductive Event : Type 1 where
  | operate {α : Type} (operation : Operation α) (conditions : Conditions)
  | purge (retention : Nat) (conditions : Conditions)
  /-- So many nanoseconds pass. -/
  | wait (nanos : Nat)

/-- Whether the event is a purge. -/
def Event.isPurge : Event → Bool
  | .purge .. => true
  | _ => false

/-- How long the event takes on the clock. -/
def Event.nanos : Event → Nat
  | .wait nanos => nanos
  | _ => 0

/-- How long the events take together. -/
def elapsed : List Event → Nat
  | [] => 0
  | event :: events => event.nanos + elapsed events

/-- The server after an event. -/
def next (service : Service) (server : Server) : Event → Server
  | .operate operation conditions => (conditions.perform (operation.flow service) server).2
  | .purge retention conditions => (conditions.perform (CodeStore.purge retention) server).2
  | .wait nanos => server.advance nanos

/-- The server after events, one after the other. -/
def after (service : Service) (server : Server) (events : List Event) : Server :=
  events.foldl (next service) server

/-- What the operations among the events end in, in their order, without the
words for a code that cannot be had. -/
def ends (service : Service) : Server → List Event → List ((α : Type) × Except Stop α)
  | _, [] => []
  | server, .operate operation conditions :: events =>
    ⟨_, (conditions.perform (operation.flow service) server).1.mapError Stop.blurred⟩ ::
      ends service (server.next service (.operate operation conditions)) events
  | server, event :: events => ends service (server.next service event) events

section
variable {service : Service} {server other : Server}

theorem clock_next (service : Service) (server : Server) (event : Event) :
    (server.next service event).clock = server.clock + event.nanos := by
  cases event with
  | operate operation conditions =>
    exact (server.clock_perform _ _ _).trans (Int.add_zero _).symm
  | purge retention conditions => exact (server.clock_perform _ _ _).trans (Int.add_zero _).symm
  | wait nanos => rfl

/-- The clock goes on by the time that passes, and never back. -/
theorem clock_after (service : Service) (server : Server) (events : List Event) :
    (server.after service events).clock = server.clock + elapsed events := by
  induction events generalizing server with
  | nil => exact (Int.add_zero _).symm
  | cons event events ih =>
    have hnext := clock_next service server event
    have hrest := ih (server.next service event)
    simp only [elapsed, after, List.foldl_cons] at *
    omega

/-- A clock that can be read before and after can be read in between. -/
theorem exists_now?_of_between {mid last : Server} (hstart : server.now?.isSome)
    (hlast : last.now?.isSome) (hle : server.clock ≤ mid.clock) (hle' : mid.clock ≤ last.clock) :
    mid.now?.isSome := by
  simp only [now?, Instant.ofClock?, Instant.ofNanos?, Duration.second] at *
  grind

/-- Operations end on a server on which purges are left out as they do on one
that lacks some expired codes and is purged. The induction is on the events,
and the two servers differ in expired codes at most before each of them. -/
theorem ends_of_outlives {now : Instant} (events : List Event) (h : server.Outlives now other)
    (hnow : server.now? = some now) (hend : (other.after service events).now?.isSome) :
    ends service server (events.filter fun event => !event.isPurge) =
      ends service other events := by
  induction events generalizing server other now with
  | nil => rfl
  | cons event events ih =>
    cases event with
    | purge retention conditions =>
      -- The other server alone is purged.
      exact ih (h.purge hnow retention conditions) hnow hend
    | operate operation conditions =>
      obtain ⟨hsame, hrel⟩ := (operation.unaware service).perform_matched
        (operation.failStop service) h hnow conditions.weather conditions.limit
      have hrest := ih hrel (hnow ▸ congrArg Instant.ofClock? (server.clock_perform _ _ _)) hend
      exact List.cons_eq_cons.2 ⟨congrArg (Sigma.mk _) hsame, hrest⟩
    | wait nanos =>
      have hclock := clock_after service (other.next service (.wait nanos)) events
      have hmid := exists_now?_of_between (by simp [h.now?_eq, hnow]) hend
        (Int.le_add_of_nonneg_right (Int.natCast_nonneg nanos) : _ ≤ (other.advance nanos).clock)
        (hclock ▸ Int.le_add_of_nonneg_right (Int.natCast_nonneg _))
      obtain ⟨later, hlater⟩ := Option.isSome_iff_exists.1 hmid
      have hrel := h.wait hnow nanos hlater
      exact ih hrel (hrel.now?_eq ▸ hlater) hend

end

end Server

namespace CodeStore

/-- A code that can be used is not expired, so a purge leaves it. -/
theorem Purged.get?_of_isUsable {cutoff now : Timestamp} {server after : Server} {count : Nat}
    (h : Purged cutoff server count after) (hcutoff : cutoff ≤ now) {text : String}
    {code : RecoverCode}
    (hfind : server.database.codes.find RecoverCode.form text = .ok (some code))
    (husable : code.isUsable now = true) :
    after.database.codes.get? text = server.database.codes.get? text := by
  obtain ⟨row, hrow, hdecode⟩ := Table.row_of_find hfind
  rw [hrow, h.codes text row]
  refine ⟨hrow, code, hdecode, ?_⟩
  have hlive : now < code.validAt := by simp_all [RecoverCode.isUsable]
  exact Timestamp.not_lt.2 (Timestamp.le_trans hcutoff (Timestamp.le_of_lt hlive))

/-- A purge comes to its end if its call is answered in time and every code
can be read. -/
theorem exists_purged {retention : Duration} {server : Server} {now cutoff : Instant}
    (hnow : server.now? = some now) (hcutoff : now.subtract? retention = some cutoff)
    (hread : ∀ text row, server.database.codes.get? text = some row →
      ∃ code, RecoverCode.form.decode row = .ok code) {weather : Weather} {limit : Option Nat}
    (hspares : weather.Spares limit {} [.deleteCodesBefore cutoff]) :
    ∃ count, (server.perform weather limit (purge retention)).1 = .ok count := by
  obtain ⟨⟨count, codes⟩, hremoved⟩ :=
    Table.exists_removeWhere hread (·.validAt < (cutoff : Timestamp))
  have hrun : (Call.deleteCodesBefore cutoff).run server.database =
      .ok (count, { server.database with codes }) := by
    simp only [Call.run]
    rw [show server.database.codes.removeWhere RecoverCode.form _ = _ from hremoved]
    rfl
  have hflow : purge retention = .step .readClock
      (fun now => (Flow.inCalendar (now.subtract? retention)).bind fun cutoff =>
        Flow.call (.deleteCodesBefore cutoff))
      fun error => Flow.refuse (.ofStore error) := rfl
  have hcalls : (purge retention).calls server = [.deleteCodesBefore cutoff] := by
    simp [hflow, Flow.calls, Step.call?, Step.undisturbed_readClock, hnow, hcutoff,
      Flow.inCalendar, Flow.bind, Flow.call_eq_take, Flow.take, Step.undisturbed_call, hrun]
  refine ⟨count, ?_⟩
  rw [Flow.perform_fst_of_spares (hcalls ▸ hspares), hflow, Flow.undisturbed_readClock hnow,
    hcutoff]
  exact congrArg (·.1) (Flow.undisturbed_call hrun .done _)

/-- Purges are not noticed, however many there are and whether they fail or
not: the operations end as they do without them, up to the words for a code
that cannot be had. A purge that comes to its end deletes the codes that
expired before the time that lies the retention back, and counts them. It
deletes no code that can be used. It comes to its end if its call is answered
in time and all codes can be read, and otherwise it changes nothing. -/
theorem purge_unseen (service : Service) (server : Server) (events : List Server.Event)
    (hstart : server.now?.isSome) (hend : (server.after service events).now?.isSome) :
    server.ends service (events.filter fun event => !event.isPurge) = server.ends service events ∧
    ∀ (retention : Nat) (conditions : Conditions) (now cutoff : Instant),
      let before := server.after service events
      let (end?, after) := conditions.perform (purge retention) before
      before.now? = some now → now.subtract? retention = some cutoff →
      (∀ count, end? = .ok count → Purged cutoff before count after) ∧
      (∀ why, end? = .error why → after = before) ∧
      (∀ text code, before.database.codes.find RecoverCode.form text = .ok (some code) →
        code.isUsable now = true →
        after.database.codes.get? text = before.database.codes.get? text) ∧
      ((∀ text row, before.database.codes.get? text = some row →
          ∃ code, RecoverCode.form.decode row = .ok code) →
        conditions.weather.Spares conditions.limit {} [.deleteCodesBefore cutoff] →
        ∃ count, end? = .ok count) := by
  refine ⟨Server.ends_of_outlives events (Server.Outlives.refl _ _)
    (Option.some_get hstart).symm hend, ?_⟩
  intro retention conditions now cutoff before
  rcases hperform : conditions.perform (purge retention) before with ⟨end?, after⟩
  intro hnow hcutoff
  have hle : (cutoff : Timestamp) ≤ now := Timestamp.ofInstant_le_of_subtract? hcutoff
  refine ⟨?_, ?_, ?_, ?_⟩
  · rintro count rfl
    exact purged_of_perform conditions.clear hnow hcutoff hperform
  · rintro why rfl
    exact perform_purge_error conditions.clear hperform
  · intro text code hfind husable
    cases end? with
    | error why => rw [perform_purge_error conditions.clear hperform]
    | ok count =>
      have hpurged := purged_of_perform conditions.clear hnow hcutoff hperform
      exact hpurged.get?_of_isUsable hle hfind husable
  · intro hread hspares
    have hend? := exists_purged hnow hcutoff hread hspares
    rwa [show before.perform _ _ _ = _ from hperform] at hend?

/-- A code is issued, expires after a minute, is purged in the second minute,
and is presented after that. -/
def lateEvents : List Server.Event :=
  [.operate (.requestCode Course.annsIdentity "" false) .fair, .wait 61000000000,
    .purge 500000000 .fair,
    .operate (.authenticate "code00000000000040008000000000000002" default) .fair]

/-- Codes are valid for a minute. -/
def minuteService : Service := ⟨60000000000, 60000000000, 3, [], none⟩

theorem purge_unseen_of_late :
    let server := Server.idle 0
    server.now?.isSome ∧ (server.after minuteService lateEvents).now?.isSome ∧
    server.ends minuteService (lateEvents.filter fun event => !event.isPurge) =
      server.ends minuteService lateEvents := by
  have hend : ((Server.idle 0).after minuteService lateEvents).now?.isSome := by
    rw [Server.now?, Server.clock_after]
    decide
  exact ⟨by decide, hend, (purge_unseen minuteService (.idle 0) lateEvents (by decide) hend).1⟩

end CodeStore

end Gatekeeper

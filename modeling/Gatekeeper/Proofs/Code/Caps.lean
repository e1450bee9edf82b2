import Gatekeeper.Proofs.Code.Errand

/-!
# `Gatekeeper.Proofs.Code.Caps`: codes are used up to their caps

Any number of operations issue, use and purge recover codes at once, and
their steps come in any order. `caps_hold` says what remains true of a
code in all this. Its row counts the uses that were accepted. A use is
accepted as long as the code is neither purged nor expired nor used up,
and otherwise it is refused and changes nothing. Expired it is by the
clock as the operation has just read it. An operation that is refused a
use ends with that, and none gives a result unless the use that it needs
was accepted. A challenge is good for one sign-in at most, although a
sign-in looks for its challenge long before it uses it. What is used up
stays used up.

The invariant is `Sound`, for one code at a time. `Recorded` is its part
about the row. `Fresh` is about the numbers that operations have drawn and
not spent: no two of them are the same, and none is that of a code that
was issued. So no code is issued twice. `Settled` is about sign-ins: the
operations that have paid with the challenge and the sign-ins that gave a
session are one at most, and none while the challenge is unused. `InOrder`
is about each single thing that happened.
-/

set_option autoImplicit false

namespace Gatekeeper

/-- The values of all tasks with another one for a task. -/
def withValue {β : Type} (values : Nat → β) (i : Nat) (value : β) : Nat → β :=
  fun j => if j = i then value else values j

theorem of_withValue {β : Type} {values : Nat → β} {i j : Nat} {value value' : β}
    (h : withValue values i value j = value') :
    (j = i ∧ value = value') ∨ (j ≠ i ∧ values j = value') := by
  unfold withValue at h
  split at h
  next heq => exact .inl ⟨heq, h⟩
  next hne => exact .inr ⟨hne, h⟩

theorem withValue_self {β : Type} (values : Nat → β) (i : Nat) :
    withValue values i (values i) = values := by
  funext j
  unfold withValue
  split
  next heq => rw [heq]
  next => rfl

theorem withValue_same {β : Type} (values : Nat → β) (i : Nat) (value : β) :
    withValue values i value i = value := if_pos rfl

theorem withValue_of_ne {β : Type} (values : Nat → β) {i j : Nat} (value : β) (h : j ≠ i) :
    withValue values i value j = values j := if_neg h

theorem withValue_withValue {β : Type} (values : Nat → β) (i : Nat) (value value' : β) :
    withValue (withValue values i value) i value' = withValue values i value' := by
  funext j
  unfold withValue
  split <;> rfl

namespace World

variable {ρ α β : Type}

/-- A step that was taken is the latest one of its operation, unless the
operation has come to its end with it. Other operations have taken no
step. -/
theorem map_stepsOf_took (f : List Taken → β) (i : Nat) (request : ρ) (step : Step)
    (answer : step.Answer) (end? : Option (Except Stop α)) (past : List (Happening ρ α)) :
    (fun j => f (stepsOf j (.took i request step answer end? :: past))) =
      withValue (fun j => f (stepsOf j past)) i
        (f (if end?.isSome then [] else ⟨step, answer⟩ :: stepsOf i past)) := by
  funext j
  by_cases hplace : i = j
  · subst hplace
    rw [withValue_same, stepsOf, if_pos rfl]
  · rw [withValue_of_ne _ _ (Ne.symm hplace), stepsOf, if_neg hplace]

/-- Who comes or goes has taken no step. -/
theorem map_stepsOf_idle (f : List Taken → β) {i : Nat} {request : ρ}
    {happening : Happening ρ α} {past : List (Happening ρ α)} (hidle : happening.Idle i request) :
    (fun j => f (stepsOf j (happening :: past))) =
      withValue (fun j => f (stepsOf j past)) i (f []) := by
  funext j
  by_cases hplace : i = j
  · subst hplace
    rw [withValue_same]
    cases hidle with
    | arrived | left => exact congrArg f (if_pos rfl)
    | failed => exact congrArg f (if_pos ⟨rfl, rfl⟩)
  · rw [withValue_of_ne _ _ (Ne.symm hplace)]
    cases hidle with
    | arrived | left => exact congrArg f (if_neg hplace)
    | failed => exact congrArg f (if_neg fun h => hplace h.1)

end World

namespace Service

/-! ### Numbers are drawn once -/

/-- Of the numbers up to `count`, some were drawn by tasks that have not
spent them. The code may have been issued. -/
structure Fresh (text : String) (drawn : Nat → Option Nat) (count : Nat) (issued : Bool) :
    Prop where
  issued_le : issued = true → ∃ n, Bears text n ∧ n ≤ count
  drawn_le : ∀ i n, drawn i = some n → n ≤ count
  unique : ∀ i j n, drawn i = some n → drawn j = some n → i = j
  new : ∀ i n, drawn i = some n → Bears text n → issued = false

namespace Fresh

variable {text : String} {drawn : Nat → Option Nat} {count : Nat} {issued : Bool}

/-- At first no number is drawn. -/
theorem start (text : String) (count : Nat) : Fresh text (fun _ => none) count false :=
  ⟨by simp, by simp, by simp, by simp⟩

/-- A number is given up. -/
theorem drop (h : Fresh text drawn count issued) (i : Nat) :
    Fresh text (withValue drawn i none) count issued := by
  have hold {j n : Nat} (hj : withValue drawn i none j = some n) : drawn j = some n := by
    rcases of_withValue hj with ⟨-, hnone⟩ | ⟨-, hold⟩
    · cases hnone
    · exact hold
  exact ⟨h.issued_le, fun j n hj => h.drawn_le j n (hold hj),
    fun j k n hj hk => h.unique j k n (hold hj) (hold hk), fun j n hj => h.new j n (hold hj)⟩

/-- The next number is drawn. -/
theorem draw (h : Fresh text drawn count issued) (i : Nat) :
    Fresh text (withValue drawn i (some (count + 1))) (count + 1) issued := by
  refine ⟨fun hissued => ?_, fun j n hj => ?_, fun j k n hj hk => ?_, fun j n hj hbears => ?_⟩
  · obtain ⟨n, hbears, hle⟩ := h.issued_le hissued
    exact ⟨n, hbears, Nat.le_succ_of_le hle⟩
  · rcases of_withValue hj with ⟨-, hnew⟩ | ⟨-, hold⟩
    · cases hnew
      exact Nat.le_refl _
    · exact Nat.le_succ_of_le (h.drawn_le j n hold)
  · rcases of_withValue hj with ⟨rfl, hnew⟩ | ⟨-, hold⟩
    · cases hnew
      rcases of_withValue hk with ⟨rfl, -⟩ | ⟨-, hold⟩
      · rfl
      · exact absurd (h.drawn_le k _ hold) (Nat.not_succ_le_self count)
    · rcases of_withValue hk with ⟨rfl, hnew⟩ | ⟨-, hold'⟩
      · cases hnew
        exact absurd (h.drawn_le j _ hold) (Nat.not_succ_le_self count)
      · exact h.unique j k n hold hold'
  · rcases of_withValue hj with ⟨-, hnew⟩ | ⟨-, hold⟩
    · cases hnew
      rw [Bool.eq_false_iff]
      intro hissued
      obtain ⟨n, hbears', hle⟩ := h.issued_le hissued
      rw [hbears'.unique hbears] at hle
      exact Nat.not_succ_le_self count hle
    · exact h.new j n hold hbears

/-- The code is issued under the number that a task has drawn. -/
theorem spend (h : Fresh text drawn count issued) {i n : Nat} (hdrawn : drawn i = some n)
    (hbears : Bears text n) : Fresh text (withValue drawn i none) count true := by
  refine ⟨fun _ => ⟨n, hbears, h.drawn_le i n hdrawn⟩, (h.drop i).drawn_le, (h.drop i).unique,
    fun j m hj hbears' => ?_⟩
  rcases of_withValue hj with ⟨-, hnone⟩ | ⟨hne, hold⟩
  · cases hnone
  · rw [hbears'.unique hbears] at hold
    exact absurd (h.unique j i n hold hdrawn) hne

end Fresh

/-! ### Challenges are paid with once -/

/-- Some tasks have paid with the challenge, and so many sign-ins with it
gave a session. -/
structure Settled (paid : Nat → Bool) (used : Prop) (signIns : Nat) : Prop where
  used_of_paid : ∀ i, paid i = true → used
  used_of_signIn : 0 < signIns → used
  unique : ∀ i j, paid i = true → paid j = true → i = j
  unpaid : 0 < signIns → ∀ i, paid i = false
  signIns_le : signIns ≤ 1

namespace Settled

variable {paid : Nat → Bool} {used : Prop} {signIns : Nat}

/-- At first nobody has paid. -/
theorem start (used : Prop) : Settled (fun _ => false) used 0 :=
  ⟨by simp, by simp, by simp, by simp, by simp⟩

/-- What was used stays used. -/
theorem mono {used' : Prop} (h : Settled paid used signIns) (himp : used → used') :
    Settled paid used' signIns :=
  ⟨fun i hi => himp (h.used_of_paid i hi), fun hs => himp (h.used_of_signIn hs), h.unique,
    h.unpaid, h.signIns_le⟩

/-- A task that may have paid is gone. -/
theorem drop (h : Settled paid used signIns) (i : Nat) :
    Settled (withValue paid i false) used signIns := by
  have hold {j : Nat} (hj : withValue paid i false j = true) : paid j = true := by
    rcases of_withValue hj with ⟨-, hfalse⟩ | ⟨-, hold⟩
    · cases hfalse
    · exact hold
  refine ⟨fun j hj => h.used_of_paid j (hold hj), h.used_of_signIn,
    fun j k hj hk => h.unique j k (hold hj) (hold hk), fun hs j => ?_, h.signIns_le⟩
  rw [Bool.eq_false_iff]
  intro hj
  cases (h.unpaid hs j).symm.trans (hold hj)

/-- A task pays with the challenge, which was not used before. -/
theorem pay (h : Settled paid used signIns) (hunused : ¬ used) (i : Nat) :
    Settled (withValue paid i true) True signIns := by
  have hnone (j : Nat) : paid j ≠ true := fun hj => hunused (h.used_of_paid j hj)
  have hi {j : Nat} (hj : withValue paid i true j = true) : j = i := by
    rcases of_withValue hj with ⟨heq, -⟩ | ⟨-, hold⟩
    · exact heq
    · exact absurd hold (hnone j)
  refine ⟨fun _ _ => trivial, fun _ => trivial, fun j k hj hk => (hi hj).trans (hi hk).symm,
    fun hs => ?_, h.signIns_le⟩
  exact absurd (h.used_of_signIn hs) hunused

/-- A task that has paid gives a session. -/
theorem signIn (h : Settled paid used signIns) {i : Nat} (hpaid : paid i = true) :
    Settled (withValue paid i false) used (signIns + 1) := by
  have hzero : signIns = 0 := by
    cases signIns with
    | zero => rfl
    | succ n => cases (h.unpaid (Nat.succ_pos n) i).symm.trans hpaid
  refine ⟨(h.drop i).used_of_paid, fun _ => h.used_of_paid i hpaid, (h.drop i).unique,
    fun _ j => ?_, by omega⟩
  rw [Bool.eq_false_iff]
  intro hj
  rcases of_withValue hj with ⟨-, hfalse⟩ | ⟨hne, hold⟩
  · cases hfalse
  · exact hne (h.unique j i hold hpaid)

end Settled

/-! ### The account of a code -/

/-- Every use that a request is entitled to is asked for with the cap of
its kind. -/
theorem Request.Uses.eq_cap {service : Service} {code : String} {kind : CodeKind} {uses : UInt32}
    {request : Request} (h : request.Uses service code kind uses) :
    uses = kind.cap service.maxUses := by
  cases request with
  | authenticate raw context =>
    obtain ⟨-, -, rfl, rfl⟩ := h
    rfl
  | signIn request =>
    obtain ⟨-, rfl, rfl⟩ := h
    rfl
  | issueChallenge | requestCode | purge => cases h

/-- Operations write codes properly. -/
theorem proper_of_allows {service : Service} {request : Request} {steps : List Taken} {call : Call}
    (h : (careful service request).allows steps (.call call)) : call.Proper service.maxUses := by
  cases call with
  | insertCode issued => exact h.2.1
  | updateCode code => exact h.2
  | consumeCode code kind uses time => exact Request.Uses.eq_cap h.2.1
  | _ => trivial

/-- The code was used, by its account. -/
def WasUsed (account : Option Account) : Prop := ∃ a, account = some a ∧ 0 < a.uses

variable {service : Service} {text : String} {request : Request} {steps : Nat → List Taken}
  {server : Server} {account : Option Account} {i : Nat} {step : Step}

/-- The row of a code is what its account says after every step. -/
theorem ensures_recorded (hmax : 1 ≤ service.maxUses.toNat)
    (h : Recorded service.maxUses account (server.database.codes.get? text))
    {earlier : List Taken} (hallows : (careful service request).allows earlier step)
    (end? : Option (Except Stop Reply)) :
    step.Ensures server (fun answer after => Recorded service.maxUses
      (Account.next? text account (.took i request step answer end?))
      (after.database.codes.get? text)) (fun _ => True) := by
  cases step with
  | call call =>
    exact ⟨fun _ => trivial,
      fun answer db hrun => h.next hmax (proper_of_allows hallows) hrun i request end?⟩
  | readClock => exact ⟨fun _ _ => h, fun _ => trivial⟩
  | lookUp | peek | remember | forget | listStale | drawId | lock | unlock => exact h

/-- A code that has an account is not issued again, and its account only
grows. -/
theorem ensures_account
    (hfresh : Fresh text (fun i => drawn (steps i)) server.idsDrawn account.isSome)
    (hallows : (careful service request).allows (steps i) step)
    (end? : Option (Except Stop Reply)) :
    step.Ensures server (fun answer _ => ∀ a, account = some a → ∃ later,
      Account.next? text account (.took i request step answer end?) = some later ∧
        later.issued = a.issued ∧ a.uses ≤ later.uses) (fun _ => True) := by
  have hsame (a : Account) (ha : account = some a) : ∃ later, account = some later ∧
      later.issued = a.issued ∧ a.uses ≤ later.uses := ⟨a, ha, rfl, Nat.le_refl _⟩
  cases step with
  | call call =>
    refine ⟨fun _ => trivial, ?_⟩
    intro answer db _ a ha
    cases call with
    | insertCode issued =>
      obtain ⟨-, -, n, hdrawn, hbears⟩ := hallows
      show ∃ later, (if issued.code = text then _ else account) = some later ∧ _
      split
      next hcode =>
        -- The number is fresh, so no code of that text was issued.
        rw [ha] at hfresh
        cases hfresh.new i n hdrawn (hcode ▸ hbears)
      next => exact hsame a ha
    | consumeCode code kind uses time =>
      cases answer with
      | consumed record =>
        show ∃ later, (if code = text then account.map Account.use else account) = some later ∧ _
        split
        · rw [ha]
          exact ⟨a.use, rfl, rfl, Nat.le_succ _⟩
        · exact hsame a ha
      | rejected | notFound => exact hsame a ha
    | deleteCodesBefore time =>
      show ∃ later, account.map (Account.purgeBefore time) = some later ∧ _
      rw [ha]
      refine ⟨a.purgeBefore time, rfl, ?_⟩
      unfold Account.purgeBefore
      split <;> exact ⟨rfl, Nat.le_refl _⟩
    | _ => exact hsame a ha
  | readClock => exact ⟨fun _ _ => hsame, fun _ => trivial⟩
  | lookUp | peek | remember | forget | listStale | drawId | lock | unlock => exact hsame

/-- Numbers stay fresh after every step. -/
theorem ensures_fresh
    (h : Fresh text (fun i => drawn (steps i)) server.idsDrawn account.isSome)
    (hallows : (careful service request).allows (steps i) step)
    (end? : Option (Except Stop Reply)) :
    step.Ensures server (fun answer after =>
      Fresh text (withValue (fun i => drawn (steps i)) i (drawn (⟨step, answer⟩ :: steps i)))
        after.idsDrawn
        (Account.next? text account (.took i request step answer end?)).isSome)
      (fun _ => True) := by
  have hsame : Fresh text (withValue (fun i => drawn (steps i)) i (drawn (steps i)))
      server.idsDrawn account.isSome := by
    rw [withValue_self (fun i => drawn (steps i))]
    exact h
  cases step with
  | call call =>
    refine ⟨fun _ => trivial, ?_⟩
    intro answer db _
    cases call with
    | insertCode issued =>
      obtain ⟨-, -, n, hdrawn, hbears⟩ := hallows
      show Fresh text _ _ (if issued.code = text then _ else account).isSome
      split
      next hcode => exact h.spend hdrawn (hcode ▸ hbears)
      next => exact h.drop i
    | consumeCode code kind uses time =>
      have hissued : (Account.next? text account
          (.took i request (.call (.consumeCode code kind uses time)) answer end?)).isSome =
            account.isSome := by
        cases answer with
        | consumed record =>
          show (if code = text then account.map Account.use else account).isSome = _
          split
          · exact Option.isSome_map
          · rfl
        | rejected | notFound => rfl
      rw [drawn_consume, hissued]
      exact hsame
    | deleteCodesBefore time =>
      -- A code that is purged keeps its account, so its number is not fresh again.
      show Fresh text _ _ (account.map (Account.purgeBefore time)).isSome
      rw [Option.isSome_map]
      exact hsame
    | _ => exact hsame
  | drawId => exact h.draw i
  | readClock => exact ⟨fun _ _ => hsame, fun _ => trivial⟩
  | lookUp | peek | remember | forget | listStale | lock | unlock => exact hsame

/-- Challenges are paid with once after every step. -/
theorem ensures_settled {signIns : Nat}
    (hrecorded : Recorded service.maxUses account (server.database.codes.get? text))
    (hfresh : Fresh text (fun i => drawn (steps i)) server.idsDrawn account.isSome)
    (h : Settled (fun i => paid text (steps i)) (WasUsed account) signIns)
    (hallows : (careful service request).allows (steps i) step)
    (end? : Option (Except Stop Reply)) :
    step.Ensures server (fun answer _ =>
      Settled (withValue (fun i => paid text (steps i)) i (paid text (⟨step, answer⟩ :: steps i)))
        (WasUsed (Account.next? text account (.took i request step answer end?))) signIns)
      (fun _ => True) := by
  -- A step that pays with nothing leaves it at that.
  have hstill {used : Prop} (hused : WasUsed account → used) :
      Settled (withValue (fun i => paid text (steps i)) i (paid text (steps i))) used signIns := by
    rw [withValue_self (fun i => paid text (steps i))]
    exact h.mono hused
  have hgrows := ensures_account hfresh hallows end?
  cases step with
  | call call =>
    refine ⟨fun _ => trivial, ?_⟩
    intro answer db hrun
    have hused (hwas : WasUsed account) :
        WasUsed (Account.next? text account (.took i request (.call call) answer end?)) := by
      obtain ⟨a, ha, hpos⟩ := hwas
      obtain ⟨later, hlater, -, hle⟩ := hgrows.2 answer db hrun a ha
      exact ⟨later, hlater, Nat.lt_of_lt_of_le hpos hle⟩
    cases call with
    | consumeCode code kind uses time =>
      have hsame : Settled (withValue (fun i => paid text (steps i)) i (paid text (steps i))) _
          signIns := hstill hused
      rcases paid_consume text code kind uses time answer (steps i) with
        hafter | ⟨rfl, rfl, record, rfl, hafter⟩
      · rw [← hafter] at hsame
        exact hsame
      · cases Request.Uses.eq_cap hallows.2.1
        obtain ⟨a, rfl, hkind, hopen⟩ := hrecorded.open_of_consumed hrun
        -- The cap of a challenge is one, so it was not used before.
        have hunused : ¬ WasUsed (some a) := by
          rintro ⟨a', ha, hpos⟩
          cases ha
          have hlt := hopen.uses_lt
          unfold Account.cap at hlt
          rw [hkind] at hlt
          exact absurd hlt (Nat.not_lt.2 hpos)
        have hnext : WasUsed (Account.next? code (some a) (.took i request
            (.call (.consumeCode code .challenge (CodeKind.challenge.cap service.maxUses) time))
            (.consumed record) end?)) := by
          show WasUsed (if code = code then (some a).map Account.use else some a)
          rw [if_pos rfl]
          exact ⟨a.use, rfl, Nat.succ_pos _⟩
        have hpaid : Settled (withValue (fun i => paid code (steps i)) i true) _ signIns :=
          (h.pay hunused i).mono fun _ => hnext
        rw [hafter]
        exact hpaid
    | _ => exact hstill hused
  | readClock => exact ⟨fun _ _ => hstill id, fun _ => trivial⟩
  | lookUp | peek | remember | forget | listStale | drawId | lock | unlock => exact hstill id

/-- An attempt to use the code is accepted if and only if the code can be
used by its account. -/
theorem ensures_decided {earlier : List Taken}
    (hrecorded : Recorded service.maxUses account (server.database.codes.get? text))
    (hallows : (careful service request).allows earlier step) :
    step.Ensures server (fun answer _ => ∀ kind uses time use,
      (⟨step, answer⟩ : Taken) = ⟨.call (.consumeCode text kind uses time), use⟩ →
        ((∃ record, use = .consumed record) ↔
          ∃ a, account = some a ∧ a.issued.kind = kind ∧ a.Open service.maxUses time))
      (fun _ => True) := by
  cases step with
  | call call =>
    refine ⟨fun _ => trivial, ?_⟩
    intro answer db hrun kind uses time use heq
    cases heq
    -- The cap that is asked for is that of the account.
    cases Request.Uses.eq_cap hallows.2.1
    exact hrecorded.consumed_iff hrun
  | readClock => exact ⟨(fun _ _ _ _ _ _ heq => nomatch heq), fun _ => trivial⟩
  | lookUp | peek | remember | forget | listStale | drawId | lock | unlock =>
    intro _ _ _ _ heq
    cases heq

/-! ### The world -/

/-- A sign-in with the code gives a session. -/
def signsIn (text : String) : Happening Request Reply → Bool
  | .took _ (.signIn request) _ _ (some (.ok _)) => request.digest == text
  | _ => false

/-- Something that happened is in order in regard of a code, after all that
happened before. -/
structure InOrder (service : Service) (text : String) (happening : Happening Request Reply)
    (before : List (Happening Request Reply)) : Prop where
  /-- Who attempts to use a code is entitled to it, and asks for it as of the
  time that the clock showed in the step before. -/
  entitled : ∀ i request code kind uses time use end?,
    happening = .took i request (.call (.consumeCode code kind uses time)) use end? →
      request.Uses service code kind uses ∧
        ∃ now, time = .ofInstant now ∧ (stepsOf i before).head? = some ⟨.readClock, now⟩
  /-- An attempt to use the code is accepted if and only if the code has the
  kind that is asked for, and is neither purged nor expired nor used up. -/
  decided : ∀ i request kind uses time use end?,
    happening = .took i request (.call (.consumeCode text kind uses time)) use end? →
      ((∃ record, use = .consumed record) ↔ ∃ a, account? text before = some a ∧
        a.issued.kind = kind ∧ a.Open service.maxUses time)
  /-- Who is not let use a code is refused with that. -/
  refused : ∀ i request code kind uses time use end?,
    happening = .took i request (.call (.consumeCode code kind uses time)) use end? →
      (use = .notFound → end? = some (.error (.refused .unknownCode))) ∧
        ∀ record, use = .rejected record → end? = some (.error (.refused .expiredCode))
  /-- Who gives a result has been let use the code that it takes. -/
  spent : ∀ i request step answer reply,
    happening = .took i request step answer (some (.ok reply)) →
      HasSpent service request (⟨step, answer⟩ :: stepsOf i before)
  /-- Who meets with a call that fails ends with its error. -/
  failed : ∀ i request call error ended, happening = .failed i request call error ended →
    ended = some (.error (.refused (.ofStore error)))

/-- Of who comes or goes, nothing is asked but how a failed call ends. -/
theorem InOrder.idle {happening : Happening Request Reply}
    {before : List (Happening Request Reply)} (hidle : happening.Idle i request) :
    InOrder service text happening before := by
  constructor
  case failed =>
    rintro i' request' call error ended rfl
    cases hidle
    rfl
  -- The other fields are about steps that were answered.
  all_goals
    intros
    subst happening
    cases hidle

/-- A code is in order. -/
structure Sound (service : Service) (text : String) (w : World Request Reply) : Prop where
  recorded : Recorded service.maxUses (account? text w.past) (w.server.database.codes.get? text)
  follows : ∀ i task, w.tasks i = some task → task.rest.Follows (careful service task.request)
    (Ends service task.request) (stepsOf i w.past)
  fresh : Fresh text (fun i => drawn (stepsOf i w.past)) w.server.idsDrawn
    (account? text w.past).isSome
  settled : Settled (fun i => paid text (stepsOf i w.past)) (WasUsed (account? text w.past))
    (w.past.countP (signsIn text))
  inOrder : ∀ happening before, happening :: before <:+ w.past →
    InOrder service text happening before

/-- Who has met with a refusal ends with it. -/
theorem end_of_refused {rest : Flow Reply} {earlier : List Taken} {e : AuthError}
    (h : rest.Follows (careful service request) (Ends service request) earlier)
    (hrefused : refusal? earlier = some e) : rest.end? = some (.error (.refused e)) := by
  cases rest with
  | done a => exact congrArg some (Ends.refused h e hrefused)
  | stop why => exact congrArg some (Ends.refused h e hrefused)
  | step s next failed => cases h.1.1.symm.trans hrefused

namespace Sound

variable {w : World Request Reply} {next : step.Answer → Flow Reply}
  {failed : StoreError → Flow Reply} {held : List String} {answer : step.Answer}
  {progress : Progress}

/-- A sign-in that gives a session has paid. -/
theorem paid_of_signsIn {rest : Flow Reply} {earlier : List Taken}
    (hfollows : rest.Follows (careful service request) (Ends service request) earlier)
    (hsigns : signsIn text (.took i request step answer rest.end?) = true) :
    paid text earlier = true := by
  cases request with
  | signIn request =>
    cases hend : rest.end? with
    | none => rw [hend] at hsigns; cases hsigns
    | some end? =>
      rw [hend] at hsigns
      cases end? with
      | error why => cases hsigns
      | ok reply =>
        have hspent := (hfollows.of_end hend).spent reply rfl _ _ _ ⟨rfl, rfl, rfl⟩
        rw [eq_of_beq hsigns] at hspent
        exact paid_of_spent hspent
  | authenticate | issueChallenge | requestCode | purge => cases hsigns

/-- A task that comes to its end has paid if it is a sign-in with the code
that gives a session, and in any case it is gone. -/
theorem settled_of_ended {paid : Nat → Bool} {used : Prop} {past : List (Happening Request Reply)}
    {happening : Happening Request Reply} {now : Bool}
    (h : Settled (withValue paid i now) used (past.countP (signsIn text)))
    (hpaid : signsIn text happening = true → now = true) :
    Settled (withValue paid i false) used ((happening :: past).countP (signsIn text)) := by
  by_cases hsigns : signsIn text happening = true
  · have hsigned := h.signIn ((withValue_same paid i now).trans (hpaid hsigns))
    rw [withValue_withValue] at hsigned
    rw [List.countP_cons_of_pos hsigns]
    exact hsigned
  · have hgone := h.drop i
    rw [withValue_withValue] at hgone
    rw [List.countP_cons_of_neg hsigns]
    exact hgone

/-- At first there is no code, and nothing has happened. -/
theorem start (service : Service) (text : String) (database : Database) (capacity : Nat)
    (clock : Int) (idsDrawn : Nat) : Sound service text
      (.start ⟨{ database with codes := .empty }, .ofCapacity capacity, clock, idsDrawn⟩) where
  recorded := .never
  follows i task htask := by cases htask
  fresh := .start text idsDrawn
  settled := .start _
  inOrder happening before hsuffix := by cases List.suffix_nil.1 hsuffix

/-- A step that the discipline allows is in order, if what comes after it
keeps to the discipline too. -/
theorem inOrder_take (h : Sound service text w)
    (hallows : (careful service request).allows (stepsOf i w.past) step)
    (hrun : step.run .fair none {} w.server = .ok (answer, progress, server))
    {rest : Flow Reply} (hrest : rest.Follows (careful service request) (Ends service request)
      (⟨step, answer⟩ :: stepsOf i w.past)) :
    InOrder service text (.took i request step answer rest.end?) w.past where
  entitled := by
    rintro i' request' code kind uses time use end? ⟨⟩
    exact hallows.2
  decided := by
    -- The row and the account agree at the moment of the use.
    have hdecided := (ensures_decided h.recorded hallows).answered Weather.clear_fair hrun
    rintro i' request' kind uses time use end? ⟨⟩
    exact hdecided kind uses time use rfl
  refused := by
    -- The discipline allows no step after a refusal.
    rintro i' request' code kind uses time use end? ⟨⟩
    refine ⟨?_, ?_⟩
    · rintro rfl
      exact end_of_refused hrest rfl
    · rintro record rfl
      exact end_of_refused hrest rfl
  spent := by
    intro i' request' step' answer' reply heq
    injection heq with hi hrequest hstep hanswer hend
    subst hi hrequest hstep hanswer
    exact (hrest.of_end hend).spent reply rfl
  failed := by
    intro _ _ _ _ _ heq
    cases heq

/-- What happens next is in order, and so is all that happened. -/
theorem inOrder_cons {past : List (Happening Request Reply)} {happening : Happening Request Reply}
    (h : ∀ earlier before, earlier :: before <:+ past → InOrder service text earlier before)
    (hnew : InOrder service text happening past) (earlier : Happening Request Reply)
    (before : List (Happening Request Reply)) (hsuffix : earlier :: before <:+ happening :: past) :
    InOrder service text earlier before := by
  rcases List.suffix_cons_iff.1 hsuffix with heq | hsuffix
  · cases heq
    exact hnew
  · exact h earlier before hsuffix

/-- A code is in order after a step of an operation. -/
theorem take (h : Sound service text w) (hmax : 1 ≤ service.maxUses.toNat)
    (htask : w.tasks i = some ⟨request, .step step next failed, held⟩)
    (hrun : step.run .fair none {} w.server = .ok (answer, progress, server)) :
    Sound service text
      ⟨server, w.withTask i (World.goesOn ⟨request, next answer, step.heldAfter held⟩),
        .took i request step answer (next answer).end? :: w.past⟩ := by
  obtain ⟨hallows, hnext⟩ := h.follows i _ htask
  have hfollows := hnext answer _ rfl
  have hinOrder := inOrder_cons h.inOrder (h.inOrder_take hallows hrun hfollows)
  have hrecorded := (ensures_recorded (i := i) hmax h.recorded hallows
    (next answer).end?).answered Weather.clear_fair hrun
  have hfresh := (ensures_fresh h.fresh hallows
    (next answer).end?).answered Weather.clear_fair hrun
  have hsettled := (ensures_settled h.recorded h.fresh
    h.settled hallows (next answer).end?).answered Weather.clear_fair hrun
  have hpaid (hsigns : signsIn text (.took i request step answer (next answer).end?) = true) :
      paid text (⟨step, answer⟩ :: stepsOf i w.past) = true := paid_of_signsIn hfollows hsigns
  have hothers {j : Nat} {task : Task Request Reply} (hne : j ≠ i) (hold : w.tasks j = some task) :
      task.rest.Follows (careful service task.request) (Ends service task.request)
        (stepsOf j (.took i request step answer (next answer).end? :: w.past)) := by
    rw [stepsOf, if_neg (Ne.symm hne)]
    exact h.follows j task hold
  refine ⟨hrecorded, fun j task hj => ?_, ?_, ?_, hinOrder⟩
  · rcases World.of_withTask hj with ⟨rfl, hgoes⟩ | ⟨hne, hold⟩
    · unfold World.goesOn at hgoes
      split at hgoes
      next => cases hgoes
      next hend =>
        cases hgoes
        rw [stepsOf, if_pos rfl, hend]
        exact hfollows
    · exact hothers hne hold
  · rw [World.map_stepsOf_took drawn]
    cases hend : (next answer).end? with
    | none =>
      rw [hend] at hfresh
      exact hfresh
    | some end? =>
      -- The operation has come to its end, and has nothing any more.
      rw [hend] at hfresh
      have hdropped := hfresh.drop i
      rwa [withValue_withValue] at hdropped
  · rw [World.map_stepsOf_took (paid text)]
    cases hend : (next answer).end? with
    | none =>
      rw [hend] at hsettled
      rw [List.countP_cons_of_neg (by cases request <;> exact Bool.false_ne_true)]
      exact hsettled
    | some end? =>
      rw [hend] at hsettled hpaid
      exact settled_of_ended hsettled hpaid

/-- A code stays in order when a task comes or goes. That task has taken no
step, and the others have taken those that they had. -/
theorem idle (h : Sound service text w) {i : Nat} {request : Request}
    {tasks : Nat → Option (Task Request Reply)} {happening : Happening Request Reply}
    (hidle : happening.Idle i request)
    (htasks : ∀ j task, tasks j = some task → (j ≠ i ∧ w.tasks j = some task) ∨
      (j = i ∧ task.rest.Follows (careful service task.request) (Ends service task.request) [])) :
    Sound service text ⟨w.server, tasks, happening :: w.past⟩ := by
  have haccount : account? text (happening :: w.past) = account? text w.past := by
    cases hidle <;> rfl
  have hsigns : ¬ signsIn text happening = true := by
    cases hidle <;> exact Bool.false_ne_true
  have hnew : InOrder service text happening w.past := .idle hidle
  refine ⟨?_, fun j task hj => ?_, ?_, ?_, inOrder_cons h.inOrder hnew⟩
  · rw [haccount]
    exact h.recorded
  · have hsteps : stepsOf j (happening :: w.past) = withValue (fun j => stepsOf j w.past) i [] j :=
      congrFun (World.map_stepsOf_idle id hidle) j
    rcases htasks j task hj with ⟨hne, hold⟩ | ⟨rfl, hnew⟩
    · rw [hsteps, withValue_of_ne _ _ hne]
      exact h.follows j task hold
    · rw [hsteps, withValue_same]
      exact hnew
  · rw [World.map_stepsOf_idle drawn hidle, haccount]
    exact h.fresh.drop i
  · rw [World.map_stepsOf_idle (paid text) hidle, haccount, List.countP_cons_of_neg hsigns]
    exact h.settled.drop i

/-- Whatever operations are at work, a code stays in order. -/
theorem move {stripe : String → Nat} {w' : World Request Reply} (h : Sound service text w)
    (hmax : 1 ≤ service.maxUses.toNat) (hfailStop : w.FailStop)
    (hmove : World.Moves stripe (Request.flow service) w w') : Sound service text w' := by
  cases hmove with
  | take htask hfree hrun => exact h.take hmax htask hrun
  | arrive i request hfree =>
    refine h.idle .arrived ?_
    intro j task hj
    rcases World.of_withTask hj with ⟨heq, hnew⟩ | hold
    · cases hnew
      exact .inr ⟨heq, request.follows service⟩
    · exact .inl hold
  | @fail i request call next failed held error htask =>
    -- The operation does not go on with the error.
    rw [hfailStop.failed_eq htask error]
    exact h.idle (.failed call error) fun j task hj => .inl (World.of_withTask_none hj)
  | leave htask => exact h.idle .left fun j task hj => .inl (World.of_withTask_none hj)
  | restart capacity =>
    exact ⟨h.recorded, (fun _ _ hj => nomatch hj), h.fresh, h.settled, h.inOrder⟩
  | setClock clock => exact ⟨h.recorded, h.follows, h.fresh, h.settled, h.inOrder⟩
  | edit database hsessions hcodes =>
    refine ⟨?_, h.follows, h.fresh, h.settled, h.inOrder⟩
    rw [hcodes]
    exact h.recorded

/-- A code that was issued is not issued again, and its uses are not
forgotten. -/
theorem grows {stripe : String → Nat} {w' : World Request Reply} (h : Sound service text w)
    (hmove : World.Moves stripe (Request.flow service) w w') {a : Account}
    (ha : account? text w.past = some a) :
    ∃ later, account? text w'.past = some later ∧ later.issued = a.issued ∧
      a.uses ≤ later.uses := by
  have hsame : ∃ later, account? text w.past = some later ∧ later.issued = a.issued ∧
      a.uses ≤ later.uses := ⟨a, ha, rfl, Nat.le_refl _⟩
  cases hmove with
  | @take i request step next failed held answer progress server htask hfree hrun =>
    obtain ⟨hallows, -⟩ := h.follows i _ htask
    exact (ensures_account h.fresh hallows
      (next answer).end?).answered Weather.clear_fair hrun a ha
  | arrive | fail | leave | restart | setClock | edit => exact hsame

/-- A code that is in order at first stays so, and its uses are not
forgotten. -/
theorem reaches {stripe : String → Nat} {w' : World Request Reply} (h : Sound service text w)
    (hmax : 1 ≤ service.maxUses.toNat) (hfailStop : w.FailStop)
    (hreaches : World.Reaches stripe (Request.flow service) w w') :
    Sound service text w' ∧
      ∀ a, account? text w.past = some a → ∃ later, account? text w'.past = some later ∧
        later.issued = a.issued ∧ a.uses ≤ later.uses := by
  induction hreaches with
  | start => exact ⟨h, fun a ha => ⟨a, ha, rfl, Nat.le_refl _⟩⟩
  | move hreached hmove ih =>
    obtain ⟨hsound, hgrows⟩ := ih
    refine ⟨hsound.move hmax (hfailStop.reaches (Request.failStop service) hreached) hmove, ?_⟩
    intro a ha
    obtain ⟨later, hlater, hissued, hle⟩ := hgrows a ha
    obtain ⟨latest, hlatest, hissued', hle'⟩ := hsound.grows hmove hlater
    exact ⟨latest, hlatest, hissued'.trans hissued, Nat.le_trans hle hle'⟩

end Sound

/-- The uses of a code keep to its cap. -/
structure Capped (service : Service) (text : String) (w : World Request Reply) : Prop where
  /-- A code that was never issued has no row, and neither has one that was
  purged. -/
  noRow : (∀ a, account? text w.past = some a → a.purged = true) →
    w.server.database.codes.get? text = none
  /-- Any other code has the row that it was issued with, except that the
  uses that were accepted are counted, and that it is marked when they
  reach the cap. -/
  row : ∀ a, account? text w.past = some a → a.purged = false → ∃ usesCount used,
    w.server.database.codes.get? text =
      some (RecoverCode.form.encode { a.issued with usesCount, used }) ∧
    RecoverCode.form.decode (RecoverCode.form.encode { a.issued with usesCount, used }) =
      .ok { a.issued with usesCount, used } ∧
    usesCount.toNat = a.uses ∧ (used = true ↔ a.uses = a.cap service.maxUses)
  uses_le : ∀ a, account? text w.past = some a → a.uses ≤ a.cap service.maxUses
  /-- A use is accepted if the code can be used. -/
  accepted : ∀ a time, account? text w.past = some a → a.Open service.maxUses time →
    ∃ record database, (Call.consumeCode text a.issued.kind (a.issued.kind.cap service.maxUses)
      time).run w.server.database = .ok (.consumed record, database)
  /-- Otherwise it is refused, and nothing changes. -/
  refused : ∀ kind time, (∀ a, account? text w.past = some a → a.issued.kind = kind →
      ¬ a.Open service.maxUses time) →
    ∃ use, (Call.consumeCode text kind (kind.cap service.maxUses) time).run w.server.database =
      .ok (use, w.server.database) ∧ ∀ record, use ≠ .consumed record
  /-- All that happened is in order: who used codes and when, what came of
  it, and how it ended. -/
  inOrder : ∀ happening before, happening :: before <:+ w.past →
    InOrder service text happening before
  /-- One sign-in with the code gave a session at most. -/
  signIns : w.past.countP (signsIn text) ≤ 1

/-- A code that is in order keeps to its cap. -/
theorem Sound.capped {w : World Request Reply} (h : Sound service text w) :
    Capped service text w where
  noRow hgone := by
    have hrecorded := h.recorded
    generalize account? text w.past = account at hrecorded hgone
    generalize w.server.database.codes.get? text = row at hrecorded ⊢
    cases hrecorded with
    | never | purged => rfl
    | kept hkept => cases hkept.symm.trans (hgone _ rfl)
  row a ha hkept := by
    have hrecorded := h.recorded
    rw [ha] at hrecorded
    generalize w.server.database.codes.get? text = row at hrecorded ⊢
    cases hrecorded with
    | purged hpurged => cases hkept.symm.trans hpurged
    | kept _ hnew hle =>
      exact ⟨_, _, rfl, Account.decode_record hnew, Account.toNat_usesCount hle,
        decide_eq_true_iff⟩
  uses_le a ha := by
    have hrecorded := h.recorded
    rw [ha] at hrecorded
    generalize w.server.database.codes.get? text = row at hrecorded
    cases hrecorded with
    | purged _ _ hle | kept _ _ hle => exact hle
  accepted a time ha hopen := by
    have hrecorded := h.recorded
    rw [ha] at hrecorded
    exact ⟨_, _, hrecorded.run_consume_open rfl hopen⟩
  refused kind time hclosed := h.recorded.run_consume_closed hclosed
  inOrder := h.inOrder
  signIns := h.settled.signIns_le

/-- Whatever operations issue, use and purge codes, in whichever order
their steps come and whichever of them are abandoned: every code keeps to
its cap, and one that is used up is never accepted again. -/
theorem caps_hold {stripe : String → Nat} {service : Service} (hmax : 1 ≤ service.maxUses.toNat)
    {database : Database} {capacity : Nat} {clock : Int} {idsDrawn : Nat}
    {w : World Request Reply}
    (h : World.Reaches stripe (Request.flow service)
      (.start ⟨{ database with codes := .empty }, .ofCapacity capacity, clock, idsDrawn⟩) w)
    (text : String) :
    Capped service text w ∧
      ∀ a, account? text w.past = some a → a.uses = a.cap service.maxUses →
        ∀ w', World.Reaches stripe (Request.flow service) w w' → ∀ kind time,
          ∃ use, (Call.consumeCode text kind (kind.cap service.maxUses) time).run
            w'.server.database = .ok (use, w'.server.database) ∧
            ∀ record, use ≠ .consumed record := by
  have hstart := World.failStop_start (ρ := Request) (α := Reply)
    ⟨{ database with codes := .empty }, .ofCapacity capacity, clock, idsDrawn⟩
  obtain ⟨hsound, -⟩ := (Sound.start service text database capacity clock idsDrawn).reaches hmax
    hstart h
  refine ⟨hsound.capped, ?_⟩
  intro a ha hused w' hlater kind time
  obtain ⟨hsound', hgrows⟩ := hsound.reaches hmax
    (hstart.reaches (Request.failStop service) h) hlater
  obtain ⟨later, hlater, hissued, hle⟩ := hgrows a ha
  -- The uses only grow, so what has reached the cap stays there.
  refine hsound'.recorded.run_consume_closed ?_
  intro a' ha' _ hopen
  cases hlater.symm.trans ha'
  have hlt := hopen.uses_lt
  unfold Account.cap at hlt hused
  rw [hissued, ← hused] at hlt
  exact Nat.not_lt.2 hle hlt

/-- A service whose one-time codes can be used once. -/
def onceService : Service := ⟨0, 300 * Duration.second, 1, [], none⟩

/-- A one-time code is issued and then presented, which is the one use that
it is good for. -/
theorem caps_hold_of_presented :
    let text := codeMark ++ SerialId.plain 2
    ∃ w : World Request Reply,
      World.Reaches (fun _ => 0) (Request.flow onceService) (.start ⟨{}, .ofCapacity 1, 0, 0⟩) w ∧
      (∃ a, account? text w.past = some a ∧ a.uses = 1 ∧ a.cap onceService.maxUses = 1) ∧
      Capped onceService text w ∧
      ∀ kind time, ∃ use, (Call.consumeCode text kind (kind.cap onceService.maxUses) time).run
        w.server.database = .ok (use, w.server.database) ∧ ∀ record, use ≠ .consumed record := by
  intro text
  -- The code is issued: the time, two numbers, the row.
  have hissues : World.Reaches (fun _ => 0) (Request.flow onceService)
      (.start ⟨{}, .ofCapacity 1, 0, 0⟩) _ :=
    .move .start (.arrive 0 (.requestCode default "" false) rfl)
  have hissues := hissues.take 0 (by rfl) (fun _ h => by cases h) (by rfl)
  have hissues := hissues.take 0 (by rfl) (fun _ h => by cases h) (by rfl)
  have hissues := hissues.take 0 (by rfl) (fun _ h => by cases h) (by rfl)
  have hissued := hissues.take 0 (by rfl) (fun _ h => by cases h) (by rfl)
  -- It is presented: the time, and the use, which the theorem says is accepted.
  have hpresents := hissued.move
    (.arrive 0 (.authenticate (codeMark ++ SerialId.plain 2) ⟨"GET", "/"⟩) (by rfl))
  have hpresents := hpresents.take 0 (by rfl) (fun _ h => by cases h) (by rfl)
  have hcapped :=
    (@caps_hold (fun _ => 0) onceService (by decide) {} 1 0 0 _ hpresents text).1
  obtain ⟨record, database, hrun⟩ := hcapped.accepted ⟨_, 0, false⟩
    (Timestamp.ofInstant ⟨0, by decide⟩) (by rfl) ⟨rfl, by decide, by decide⟩
  have hpresented := hpresents.take 0 (by rfl) (fun _ h => by cases h) (Step.run_call hrun)
  have hused := @caps_hold (fun _ => 0) onceService (by decide) {} 1 0 0 _ hpresented text
  exact ⟨_, hpresented, ⟨_, by rfl, rfl, rfl⟩, hused.1, hused.2 _ (by rfl) rfl _ .start⟩

end Service

end Gatekeeper

import Gatekeeper.Proofs.Database
import Gatekeeper.Proofs.World

/-!
# `Gatekeeper.Proofs.Code.Account`: what the past says of a recover code

An `Account` of a code tells how it was issued, how often its use was
accepted since and whether it was purged. `account?` reads it from the
past. A code may be used up to its cap: a challenge once, a one-time code
as often as the service allows.

`Recorded` says that the row of a code is what the account says: the code
as it was issued, with its uses counted and marked as used when they
reach the cap. Every call to the database keeps it (`Recorded.next`), if
codes are written as `Proper` has it. As long as it holds, a use of the
code is accepted exactly if its account is open (`run_consume_open`,
`run_consume_closed`).
-/

set_option autoImplicit false

namespace Gatekeeper

/-- How often a code of a kind may be used. -/
def CodeKind.cap (maxUses : UInt32) : CodeKind → UInt32
  | oneTime => maxUses
  | challenge => 1

/-- Every code may be used once at least, if one-time codes may. -/
theorem CodeKind.cap_pos {maxUses : UInt32} (hmax : 1 ≤ maxUses.toNat) (kind : CodeKind) :
    0 < (kind.cap maxUses).toNat := by
  cases kind with
  | oneTime => exact hmax
  | challenge => exact Nat.one_pos

/-- The code is as a new one is. -/
structure RecoverCode.New (c : RecoverCode) : Prop where
  usesCount : c.usesCount = 0
  used : c.used = false
  metadata : c.metadata.Plain 2

/-- What is known of a code that was issued. -/
structure Account where
  /-- The code as it was issued. -/
  issued : RecoverCode
  /-- How often a use of it was accepted. -/
  uses : Nat
  purged : Bool

namespace Account

/-- The account after one more accepted use. -/
def use (account : Account) : Account := { account with uses := account.uses + 1 }

/-- The account after the codes that expired before a time were purged. -/
def purgeBefore (time : Timestamp) (account : Account) : Account :=
  if account.issued.validAt < time then { account with purged := true } else account

/-- The account of a code after something happened. -/
def next? {ρ α : Type} (code : String) (account : Option Account) :
    Happening ρ α → Option Account
  | .took _ _ (.call (.insertCode issued)) _ _ =>
    if issued.code = code then some ⟨issued, 0, false⟩ else account
  | .took _ _ (.call (.consumeCode used _ _ _)) (.consumed _) _ =>
    if used = code then account.map use else account
  | .took _ _ (.call (.deleteCodesBefore time)) _ _ => account.map (purgeBefore time)
  | _ => account

/-- How often the code may be used. -/
def cap (maxUses : UInt32) (account : Account) : Nat := (account.issued.kind.cap maxUses).toNat

/-- The code as it has to be by its account. -/
def record (maxUses : UInt32) (account : Account) : RecoverCode :=
  { account.issued with
    usesCount := .ofNat account.uses
    used := account.uses = account.cap maxUses }

/-- The code can be used at a time. -/
structure Open (maxUses : UInt32) (account : Account) (time : Timestamp) : Prop where
  notPurged : account.purged = false
  notExpired : time < account.issued.validAt
  uses_lt : account.uses < account.cap maxUses

end Account

/-- The account of a code by the past. -/
def account? {ρ α : Type} (code : String) : List (Happening ρ α) → Option Account
  | [] => none
  | happening :: earlier => Account.next? code (account? code earlier) happening

/-- The row of a code is what its account says. -/
inductive Recorded (maxUses : UInt32) : Option Account → Option String → Prop
  | never : Recorded maxUses none none
  | purged {account : Account} (hpurged : account.purged = true) (hnew : account.issued.New)
      (hle : account.uses ≤ account.cap maxUses) : Recorded maxUses (some account) none
  | kept {account : Account} (hpurged : account.purged = false) (hnew : account.issued.New)
      (hle : account.uses ≤ account.cap maxUses) :
      Recorded maxUses (some account) (some (RecoverCode.form.encode (account.record maxUses)))

namespace Account

variable {maxUses : UInt32} {account : Account}

theorem cap_lt (maxUses : UInt32) (account : Account) : account.cap maxUses < UInt32.size :=
  UInt32.toNat_lt _

/-- The uses are counted without overflow. -/
theorem toNat_usesCount (hle : account.uses ≤ account.cap maxUses) :
    (account.record maxUses).usesCount.toNat = account.uses :=
  UInt32.toNat_ofNat_of_lt' (Nat.lt_of_le_of_lt hle (account.cap_lt maxUses))

/-- The record of a code is read back from its row. -/
theorem decode_record (hnew : account.issued.New) :
    RecoverCode.form.decode (RecoverCode.form.encode (account.record maxUses)) =
      .ok (account.record maxUses) :=
  RecoverCode.decode_encode hnew.metadata (by decide)

/-- A new code is recorded as one without uses. -/
theorem record_new {issued : RecoverCode} (hnew : issued.New)
    (hcap : 0 < (issued.kind.cap maxUses).toNat) :
    (Account.mk issued 0 false).record maxUses = issued := by
  have hused : decide (0 = (issued.kind.cap maxUses).toNat) = issued.used := by
    rw [hnew.used]
    exact decide_eq_false (Nat.ne_of_lt hcap)
  have hcount : UInt32.ofNat 0 = issued.usesCount := by
    rw [hnew.usesCount]
    rfl
  show { issued with
    usesCount := UInt32.ofNat 0
    used := decide (0 = (issued.kind.cap maxUses).toNat) } = issued
  rw [hused, hcount]

/-- A recorded code can be used while it is neither expired nor used up. -/
theorem isUsable_record (hle : account.uses ≤ account.cap maxUses) (time : Timestamp) :
    (account.record maxUses).isUsable time = true ↔
      time < account.issued.validAt ∧ account.uses < account.cap maxUses := by
  show (decide (time < account.issued.validAt) && !decide (account.uses = account.cap maxUses)) =
    true ↔ _
  rw [Bool.and_eq_true, decide_eq_true_iff, Bool.not_eq_true', decide_eq_false_iff_not]
  have hlt : ¬ account.uses = account.cap maxUses ↔ account.uses < account.cap maxUses := by omega
  rw [hlt]

/-- One more use of a code that is not used up is recorded. -/
theorem recordUse?_record (hlt : account.uses < account.cap maxUses) :
    (account.record maxUses).recordUse? (account.issued.kind.cap maxUses) =
      some (account.use.record maxUses) := by
  have hsize := account.cap_lt maxUses
  have hcount := toNat_usesCount (Nat.le_of_lt hlt)
  -- The cap is a word of 32 bits, so one use more than fits below it fits too.
  have hnext : (UInt32.ofNat account.uses + 1 : UInt32) = UInt32.ofNat (account.uses + 1) :=
    (UInt32.ofNat_add account.uses 1).symm
  have hnextCount : (UInt32.ofNat (account.uses + 1)).toNat = account.uses + 1 :=
    UInt32.toNat_ofNat_of_lt' (by omega)
  have hused : (decide (account.uses = account.cap maxUses) ||
      decide (account.issued.kind.cap maxUses ≤ UInt32.ofNat (account.uses + 1))) =
        decide (account.uses + 1 = account.cap maxUses) := by
    have hle : account.issued.kind.cap maxUses ≤ UInt32.ofNat (account.uses + 1) ↔
        account.uses + 1 = account.cap maxUses := by
      rw [UInt32.le_iff_toNat_le, hnextCount]
      show account.cap maxUses ≤ account.uses + 1 ↔ _
      omega
    rw [decide_eq_false (Nat.ne_of_lt hlt), Bool.false_or]
    exact decide_eq_decide.2 hle
  unfold RecoverCode.recordUse?
  rw [hcount, if_pos (by omega)]
  show some { account.issued with
    usesCount := UInt32.ofNat account.uses + 1
    used := decide (account.uses = account.cap maxUses) ||
      decide (account.issued.kind.cap maxUses ≤ UInt32.ofNat account.uses + 1) } = _
  rw [hnext, hused]
  rfl

end Account

namespace Recorded

variable {maxUses : UInt32} {account : Option Account} {code : String} {db db' : Database}

/-- A code that has an account was new when it was issued. -/
theorem new {account : Account} {row : Option String}
    (h : Recorded maxUses (some account) row) : account.issued.New := by
  cases h with
  | purged _ hnew | kept _ hnew => exact hnew

/-- A use of a code whose account is open is accepted, and the row counts
it. -/
theorem run_consume_open {account : Account}
    (h : Recorded maxUses (some account) (db.codes.get? code)) {kind : CodeKind}
    (hkind : account.issued.kind = kind) {time : Timestamp} (hopen : account.Open maxUses time) :
    (Call.consumeCode code kind (kind.cap maxUses) time).run db =
      .ok (.consumed (account.use.record maxUses), { db with
        codes := db.codes.write RecoverCode.form code (account.use.record maxUses) }) := by
  subst hkind
  generalize hrow : db.codes.get? code = row at h
  cases h with
  | purged hpurged => cases hopen.notPurged.symm.trans hpurged
  | kept hpurged hnew hle =>
    refine Call.run_consumeCode_consumed
      (Table.find_of_get? hrow (Account.decode_record hnew)) rfl ?_
      (Account.recordUse?_record hopen.uses_lt)
    exact (Account.isUsable_record hle time).2 ⟨hopen.notExpired, hopen.uses_lt⟩

/-- Any other attempt to use a code is refused, and nothing changes. -/
theorem run_consume_closed (h : Recorded maxUses account (db.codes.get? code)) {kind : CodeKind}
    {time : Timestamp} (hclosed : ∀ a, account = some a → a.issued.kind = kind →
      ¬ a.Open maxUses time) :
    ∃ use, (Call.consumeCode code kind (kind.cap maxUses) time).run db = .ok (use, db) ∧
      ∀ used, use ≠ .consumed used := by
  generalize hrow : db.codes.get? code = row at h
  cases h with
  | never | purged => exact ⟨.notFound, Call.run_consumeCode_none hrow, fun _ h => by cases h⟩
  | @kept a hpurged hnew hle =>
    refine Call.run_consumeCode_refused (Table.find_of_get? hrow (Account.decode_record hnew))
      fun hkind => ?_
    rw [Bool.eq_false_iff]
    intro husable
    obtain ⟨htime, hlt⟩ := (Account.isUsable_record hle time).1 husable
    exact hclosed a rfl hkind ⟨hpurged, htime, hlt⟩

/-- Who was let use a code could use it by its account. -/
theorem open_of_consumed (h : Recorded maxUses account (db.codes.get? code)) {kind : CodeKind}
    {time : Timestamp} {used : RecoverCode}
    (hrun : (Call.consumeCode code kind (kind.cap maxUses) time).run db =
        .ok (.consumed used, db')) :
    ∃ a, account = some a ∧ a.issued.kind = kind ∧ a.Open maxUses time := by
  refine Classical.byContradiction ?_
  intro hclosed
  obtain ⟨use, hrefused, hnot⟩ := h.run_consume_closed
    fun a ha hkind hopen => hclosed ⟨a, ha, hkind, hopen⟩
  rw [hrefused] at hrun
  cases hrun
  exact hnot used rfl

/-- An attempt to use a code is accepted if and only if its account is
open. -/
theorem consumed_iff (h : Recorded maxUses account (db.codes.get? code)) {kind : CodeKind}
    {time : Timestamp} {use : CodeUse}
    (hrun : (Call.consumeCode code kind (kind.cap maxUses) time).run db = .ok (use, db')) :
    (∃ used, use = .consumed used) ↔
      ∃ a, account = some a ∧ a.issued.kind = kind ∧ a.Open maxUses time := by
  constructor
  · rintro ⟨used, rfl⟩
    exact h.open_of_consumed hrun
  · rintro ⟨a, rfl, hkind, hopen⟩
    rw [h.run_consume_open hkind hopen] at hrun
    cases hrun
    exact ⟨_, rfl⟩

/-- After a purge, the rows of the codes that expired before are gone. -/
theorem purge (h : Recorded maxUses account (db.codes.get? code)) {time : Timestamp} {count : Nat}
    {codes : Table}
    (hpurge : db.codes.removeWhere RecoverCode.form (·.validAt < time) = .ok (count, codes)) :
    Recorded maxUses (account.map (Account.purgeBefore time)) (codes.get? code) := by
  rw [Table.get?_removeWhere hpurge]
  generalize db.codes.get? code = row at h
  cases h with
  | never => exact .never
  | @purged account hpurged hnew hle =>
    show Recorded maxUses (some (if account.issued.validAt < time then _ else _)) none
    split
    · exact .purged rfl hnew hle
    · exact .purged hpurged hnew hle
  | @kept account hpurged hnew hle =>
    have hrow : Table.rowSatisfies RecoverCode.form (·.validAt < time)
        (RecoverCode.form.encode (account.record maxUses)) =
          decide (account.issued.validAt < time) := by
      unfold Table.rowSatisfies
      rw [Account.decode_record hnew]
      rfl
    show Recorded maxUses (some (if account.issued.validAt < time then _ else _)) _
    rw [Option.filter_some, hrow]
    by_cases hexpired : account.issued.validAt < time
    · rw [if_pos hexpired, if_neg (by simp [hexpired])]
      exact .purged rfl hnew hle
    · rw [if_neg hexpired, if_pos (by simp [hexpired])]
      exact .kept hpurged hnew hle

end Recorded

/-- How calls may write codes: new ones as they are issued, and uses within
the cap of their kind. -/
def Call.Proper (maxUses : UInt32) : Call → Prop
  | .insertCode issued => issued.New
  | .updateCode _ => False
  | .consumeCode _ kind uses _ => uses = kind.cap maxUses
  | _ => True

/-- After every proper call the row of a code is what its account says. -/
theorem Recorded.next {ρ α : Type} {maxUses : UInt32} {account : Option Account} {code : String}
    {db db' : Database} (h : Recorded maxUses account (db.codes.get? code))
    (hmax : 1 ≤ maxUses.toNat) {call : Call} (hproper : call.Proper maxUses)
    {answer : call.Answer} (hrun : call.run db = .ok (answer, db')) (i : Nat) (request : ρ)
    (end? : Option (Except Stop α)) :
    Recorded maxUses (Account.next? code account (.took i request (.call call) answer end?))
      (db'.codes.get? code) := by
  by_cases hwrites : call.writesCodes = false
  · rw [Call.codes_of_run hwrites hrun]
    cases call with
    | insertCode | updateCode | consumeCode | deleteCodesBefore => cases hwrites
    | _ => exact h
  cases call with
  | insertCode issued =>
    cases hrun
    show Recorded maxUses (if issued.code = code then _ else _)
      ((db.codes.write RecoverCode.form issued.code issued).get? code)
    split
    next hcode =>
      have hkept : Recorded maxUses (some ⟨issued, 0, false⟩)
          (some (RecoverCode.form.encode ((Account.mk issued 0 false).record maxUses))) :=
        .kept rfl hproper (Nat.zero_le _)
      rw [← hcode, Table.get?_write_self]
      rwa [Account.record_new hproper (CodeKind.cap_pos hmax issued.kind)] at hkept
    next hcode =>
      rw [Table.get?_write_of_ne _ _ fun heq => hcode heq.symm]
      exact h
  | consumeCode used kind uses time =>
    cases hproper
    by_cases hused : used = code
    · subst hused
      -- The call decides by the row, and the row says what the account says.
      by_cases hopen : ∃ a, account = some a ∧ a.issued.kind = kind ∧ a.Open maxUses time
      · obtain ⟨a, rfl, hkind, hopen⟩ := hopen
        rw [h.run_consume_open hkind hopen] at hrun
        cases hrun
        show Recorded maxUses (if used = used then _ else _)
          ((db.codes.write RecoverCode.form used (a.use.record maxUses)).get? used)
        rw [if_pos rfl, Table.get?_write_self]
        exact .kept hopen.notPurged h.new hopen.uses_lt
      · obtain ⟨use, hrefused, hnot⟩ := h.run_consume_closed
          fun a ha hkind hopen' => hopen ⟨a, ha, hkind, hopen'⟩
        rw [hrefused] at hrun
        cases hrun
        cases answer with
        | consumed record => exact absurd rfl (hnot record)
        | rejected | notFound => exact h
    · obtain ⟨codes, rfl, hothers⟩ := Call.codes_of_run_consumeCode hrun
      rw [hothers code fun heq => hused heq.symm]
      cases answer with
      | consumed record =>
        show Recorded maxUses (if used = code then _ else _) _
        rw [if_neg hused]
        exact h
      | rejected | notFound => exact h
  | deleteCodesBefore time =>
    obtain ⟨codes, hpurge, rfl⟩ := Call.codes_of_run_deleteCodesBefore hrun
    exact h.purge hpurge
  | updateCode => cases hproper
  | _ => exact absurd rfl hwrites

end Gatekeeper

import Gatekeeper.Proofs.Propagation
import Gatekeeper.Proofs.World

/-!
# `Gatekeeper.Proofs.Session.Guard`: what the operations on sessions keep to

A token is guarded by its lock. `guarded token adds` is the discipline of
an operation in regard of one token. Under the lock of the token, the mode
of the operation says whether the cache may have an entry of the token and
whether there may be a row. Only on these grounds may an entry be put into
the cache, and only an addition may write a row anew. Outside of the lock
neither is allowed.

The operations are requests here, with `Request.flow`, and
`Request.follows` says that each of them keeps to the discipline. It also
says what is known at its end: a removal leaves neither an entry nor a
row, and a look-up that could not have found anything finds nothing.
-/

set_option autoImplicit false

namespace Gatekeeper.SessionStore

open Gatekeeper.Flow (call take locked)

/-- A call of the session store. -/
inductive Request where
  | add (session : Session)
  | get (token : String)
  | remove (token : String)
  | sweep (time : Timestamp)

/-- The result of a call of the session store. -/
inductive Reply where
  | added
  | found (session : Option Session)
  | removed (wasThere : Bool)
  | swept (report : SweepReport)

/-- What a call of the session store does. -/
def Request.flow (ttl : Duration) : Request → Flow Reply
  | .add session => do
    SessionStore.add session
    return .added
  | .get token => return .found (← SessionStore.get ttl token)
  | .remove token => return .removed (← SessionStore.remove token)
  | .sweep time => return .swept (← SessionStore.sweep time)

/-- Where an operation stands in regard of a lock. -/
inductive Place where
  | outside
  | inside
  /-- It has just given the lock back. -/
  | leaving
  deriving DecidableEq

namespace Place

/-- The place after a step that has nothing to do with the lock. -/
def still : Place → Place
  | inside => inside
  | _ => outside

/-- The place after a step. -/
def after (token : String) (place : Place) : Step → Place
  | .lock locked => if locked = token then .inside else place.still
  | .unlock unlocked => if unlocked = token then .leaving else place.still
  | _ => place.still

theorem still_of_inside {place : Place} (h : place = inside) : place.still = inside := by
  rw [h]
  rfl

theorem still_of_ne {place : Place} (h : place ≠ inside) : place.still = outside := by
  cases place with
  | inside => exact absurd rfl h
  | outside | leaving => rfl

theorem still_ne {place : Place} (h : place ≠ inside) : place.still ≠ inside := by
  rw [still_of_ne h]
  decide

end Place

/-- Where an operation stands in regard of the lock of a token, and what it
knows of the token under it. -/
structure Stand where
  place : Place
  /-- Whether the cache may have an entry. -/
  entry : Bool
  /-- Whether there may be a row. -/
  row : Bool

namespace Stand

/-- An operation begins outside of every lock. -/
def initial : Stand := ⟨.outside, false, false⟩

/-- Where an operation stands after a step. `found` says whether there may
be an entry or a row when it gets the lock. -/
def after (token : String) (found : Bool) (stand : Stand) (step : Step) : Stand where
  place := stand.place.after token step
  entry := match step with
    | .lock locked => if locked = token then found else stand.entry
    | .remember entry => if entry.session.token = token then true else stand.entry
    | .forget forgotten => if forgotten = token then false else stand.entry
    | _ => stand.entry
  row := match step with
    | .lock locked => if locked = token then found else stand.row
    | .call (.upsertSession session) => if session.token = token then true else stand.row
    | .call (.deleteSession deleted) => if deleted = token then false else stand.row
    | _ => stand.row

end Stand

/-- The answers that a step can get. An entry and a row are found under
their own token, and of the guarded token only if there may be one. -/
def expected (token : String) (stand : Stand) : (step : Step) → step.Answer → Prop
  | .lookUp looked, answer | .peek looked, answer =>
    ∀ entry, answer = some entry → entry.session.token = looked ∧
      (looked = token → stand.place = .inside → stand.entry = true)
  | .call (.findSession looked), answer =>
    ∀ session, answer = some session → session.token = looked ∧
      (looked = token → stand.place = .inside → stand.row = true)
  | _, _ => True

/-- The discipline of operations in regard of a token. -/
def guarded (token : String) (adds : Bool) : Discipline Stand where
  allows stand
    | .lock locked => locked = token → stand.place ≠ .inside
    | .unlock unlocked => unlocked = token → stand.place = .inside
    | .remember entry => entry.session.token = token →
      stand.place = .inside ∧ (stand.entry = true ∨ stand.row = true)
    | .call (.upsertSession session) => session.token = token → stand.place = .inside ∧ adds = true
    | _ => True
  leads stand step answer stand' :=
    expected token stand step answer ∧ ∃ found, stand' = stand.after token found step

/-- An operation under the lock of a token keeps to the discipline if what
it does under the lock does. -/
theorem follows_locked {β : Type} {token locked : String} {adds : Bool}
    {post : Stand → Except Stop β → Prop} {body : Flow β} {stand : Stand}
    (hplace : stand.place ≠ .inside)
    (hbody : ∀ stand' : Stand, (locked = token → stand'.place = .inside) →
      (locked ≠ token → stand'.place ≠ .inside) →
      body.Follows (guarded token adds) (fun stand end? =>
        match end? with
        | .ok b => (locked = token → stand.place = .inside) ∧
          post (stand.after token false (.unlock locked)) (.ok b)
        | .error why => post stand (.error why)) stand') :
    (Flow.locked locked body).Follows (guarded token adds) post stand := by
  refine ⟨fun _ => hplace, ?_⟩
  intro _ stand' hleads
  obtain ⟨-, found, rfl⟩ := hleads
  -- The lock may be that of the token or another one, so both cases go on.
  show (body.bind fun b => (take (.unlock locked)).bind fun _ => .done b).Follows _ post _
  refine Flow.Follows.bind ((hbody _ ?_ ?_).mono fun stand'' end? hend => ?_)
  · exact fun heq => if_pos heq
  · intro hne
    have hstill : (stand.after token found (.lock locked)).place = stand.place.still := if_neg hne
    rw [hstill]
    exact Place.still_ne hplace
  · cases end? with
    | error why => exact hend
    | ok b =>
      refine ⟨hend.1, ?_⟩
      intro _ left hleads
      obtain ⟨-, found, rfl⟩ := hleads
      exact hend.2

/-! ### Look-ups -/

theorem token_renewed (entry : CachedSession) (renewedUntil : Instant) :
    (renewed entry renewedUntil).session.token = entry.session.token := by
  unfold renewed
  split <;> rfl

/-- What is known at the end of a look-up under its lock: it found nothing
if there could have been nothing. -/
def LookedUp (token looked : String) (stand : Stand) (end? : Except Stop (Option Session)) : Prop :=
  looked = token → stand.place = .inside ∧
    (stand.entry = false → stand.row = false → end? = .ok none)

/-- The operation has found an entry or a row under the lock of its token,
so there may be one. -/
def Found (token looked : String) (stand : Stand) : Prop :=
  looked = token → stand.place = .inside ∧ (stand.entry = true ∨ stand.row = true)

/-- When something may be there, nothing has to be known of the end. -/
theorem Found.lookedUp {token looked : String} {stand : Stand}
    (h : Found token looked stand) (end? : Except Stop (Option Session)) :
    LookedUp token looked stand end? := by
  intro heq
  refine ⟨(h heq).1, ?_⟩
  intro hentry hrow
  rcases (h heq).2 with hmay | hmay
  · cases hentry.symm.trans hmay
  · cases hrow.symm.trans hmay

/-- What a look-up does with a renewed entry keeps to the discipline. -/
theorem follows_renew {token looked : String} {ttl : Duration} {entry : CachedSession}
    {stand : Stand} (htoken : entry.session.token = looked) (hfound : Found token looked stand) :
    (renew ttl looked entry).Follows (guarded token false) (LookedUp token looked) stand := by
  have hstill (found : Bool) : Found token looked
      (stand.after token found (.call (.updateSession entry.session))) :=
    fun heq => ⟨Place.still_of_inside (hfound heq).1, (hfound heq).2⟩
  -- An entry may be put in, and there may be one afterwards.
  have hremember {stand : Stand} {entry : CachedSession} (htoken : entry.session.token = looked)
      (hfound : Found token looked stand) :
      ((take (.remember entry)).bind fun _ => .done (some entry.session)).Follows
        (guarded token false) (LookedUp token looked) stand := by
    refine ⟨fun heq => hfound (htoken.symm.trans heq), ?_⟩
    intro _ stand' hleads
    obtain ⟨-, found, rfl⟩ := hleads
    refine Found.lookedUp (fun heq => ⟨Place.still_of_inside (hfound heq).1, .inl ?_⟩) _
    exact if_pos (htoken.trans heq)
  show Flow.Follows _ _ _ (if isOverdue ttl entry = true then _ else _)
  split
  · refine ⟨trivial, ?_⟩
    intro updated stand' hleads
    obtain ⟨-, found, rfl⟩ := hleads
    show Flow.Follows _ _ _ (if updated = true then _ else _)
    split
    · exact hremember htoken (hstill found)
    · refine ⟨trivial, ?_⟩
      intro _ stand' hleads heq
      obtain ⟨-, found, rfl⟩ := hleads
      exact ⟨Place.still_of_inside (hstill _ heq).1, fun _ _ => rfl⟩
  · exact hremember htoken hfound

/-- What a look-up does with an entry that it found keeps to the
discipline. -/
theorem follows_present {token looked : String} {ttl : Duration} {entry : CachedSession}
    {stand : Stand} (htoken : entry.session.token = looked) (hfound : Found token looked stand) :
    (present ttl looked entry).Follows (guarded token false) (LookedUp token looked) stand := by
  refine ⟨trivial, ?_⟩
  intro now stand' hleads
  obtain ⟨-, found, rfl⟩ := hleads
  have hstill : Found token looked (stand.after token found .readClock) :=
    fun heq => ⟨Place.still_of_inside (hfound heq).1, (hfound heq).2⟩
  show Flow.Follows _ _ _ (if entry.session.isExpired now = true then _ else _)
  split
  · exact hstill.lookedUp _
  · show Flow.Follows _ _ _ ((Flow.inCalendar (now.add? ttl)).bind _)
    cases now.add? ttl with
    | none => exact hstill.lookedUp _
    | some renewedUntil =>
      refine follows_renew ?_ hstill
      rw [token_renewed]
      exact htoken

/-- A look-up keeps to the discipline. -/
theorem follows_get {token looked : String} {ttl : Duration} {stand : Stand}
    (hplace : stand.place ≠ .inside) :
    (get ttl looked).Follows (guarded token false) (fun stand end? => looked = token →
      stand.place ≠ .outside ∧ (stand.entry = false → stand.row = false → end? = .ok none))
      stand := by
  rw [get_eq]
  refine follows_locked hplace ?_
  intro stand hlocked _
  have hbody : ((take (.lookUp looked)).bind (answer ttl looked)).Follows (guarded token false)
      (LookedUp token looked) stand := by
    refine ⟨trivial, ?_⟩
    intro cached stand' hleads
    obtain ⟨hexpected, found, rfl⟩ := hleads
    have hinside (heq : looked = token) :
        (stand.after token found (.lookUp looked)).place = .inside :=
      Place.still_of_inside (hlocked heq)
    show Flow.Follows _ _ _ (answer ttl looked cached)
    cases cached with
    | some entry =>
      obtain ⟨htoken, hentry⟩ := hexpected entry rfl
      exact follows_present htoken fun heq =>
        ⟨hinside heq, .inl (hentry heq (hlocked heq))⟩
    | none =>
      refine ⟨trivial, ?_⟩
      intro session stand' hleads
      obtain ⟨hexpected, found, rfl⟩ := hleads
      cases session with
      | none => exact fun heq => ⟨Place.still_of_inside (hinside heq), fun _ _ => rfl⟩
      | some session =>
        obtain ⟨htoken, hrow⟩ := hexpected session rfl
        exact follows_present htoken fun heq =>
          ⟨Place.still_of_inside (hinside heq), .inr (hrow heq (hinside heq))⟩
  refine hbody.mono ?_
  intro stand end? hend
  cases end? with
  | error why =>
    intro heq
    refine ⟨?_, (hend heq).2⟩
    rw [(hend heq).1]
    decide
  | ok found =>
    refine ⟨fun heq => (hend heq).1, fun heq => ⟨?_, (hend heq).2⟩⟩
    have hleft : (stand.after token false (.unlock looked)).place = .leaving := if_pos heq
    rw [hleft]
    decide

/-! ### Additions and removals -/

/-- An addition keeps to the discipline of those who may add. -/
theorem follows_add {token : String} {session : Session} {stand : Stand}
    (hplace : stand.place ≠ .inside) :
    (add session).Follows (guarded token true) (fun _ _ => True) stand := by
  refine follows_locked hplace ?_
  intro stand hlocked _
  refine ⟨fun heq => ⟨hlocked heq, rfl⟩, ?_⟩
  intro _ stand' hleads
  obtain ⟨-, found, rfl⟩ := hleads
  have hinside (heq : session.token = token) :
      (stand.after token found (.call (.upsertSession session))).place = .inside :=
    Place.still_of_inside (hlocked heq)
  refine ⟨fun heq => ⟨hinside heq, .inr (if_pos heq)⟩, ?_⟩
  intro _ stand' hleads
  obtain ⟨-, found, rfl⟩ := hleads
  exact ⟨fun heq => Place.still_of_inside (hinside heq), trivial⟩

/-- A removal keeps to the discipline, and when it gives the lock back
there is neither an entry nor a row. -/
theorem follows_remove {token removed : String} {stand : Stand}
    (hplace : stand.place ≠ .inside) :
    (remove removed).Follows (guarded token false) (fun stand end? => removed = token →
      ∀ wasThere, end? = .ok wasThere →
        stand.place = .leaving ∧ stand.entry = false ∧ stand.row = false) stand := by
  refine follows_locked hplace ?_
  intro stand hlocked _
  refine ⟨trivial, fun _ stand' hleads => ⟨trivial, fun _ stand' hleads' => ?_⟩⟩
  obtain ⟨-, found, rfl⟩ := hleads
  obtain ⟨-, found', rfl⟩ := hleads'
  refine ⟨fun heq => ?_, fun heq _ _ => ⟨if_pos heq, if_pos heq, if_pos heq⟩⟩
  exact Place.still_of_inside (Place.still_of_inside (hlocked heq))

/-! ### Sweeps -/

/-- The operation is under the lock of the token if it swept that token. -/
def Sweeps (token swept : String) (stand : Stand) : Prop :=
  (swept = token → stand.place = .inside) ∧ (swept ≠ token → stand.place ≠ .inside)

/-- A step that has nothing to do with locks leaves it at that. -/
theorem Sweeps.still {token swept : String} {stand after : Stand} (h : Sweeps token swept stand)
    (hafter : after.place = stand.place.still) : Sweeps token swept after := by
  unfold Sweeps
  rw [hafter]
  exact ⟨fun heq => Place.still_of_inside (h.1 heq), fun hne => Place.still_ne (h.2 hne)⟩

/-- What a sweep does with the entry of a token keeps to the discipline. -/
theorem follows_sweepEntry {token swept : String} {time : Timestamp} {report : SweepReport}
    {cached : Option CachedSession} {stand : Stand} (hsweeps : Sweeps token swept stand)
    (hcached : ∀ entry, cached = some entry → entry.session.token = swept ∧
      (swept = token → stand.entry = true)) :
    (sweepEntry time swept report cached).Follows (guarded token false)
      (fun stand _ => Sweeps token swept stand) stand := by
  cases cached with
  | none => exact hsweeps
  | some entry =>
    obtain ⟨htoken, hentry⟩ := hcached entry rfl
    show Flow.Follows _ _ _ (if entry.session.isExpired time = true then _
      else if entry.isPending = true then _ else _)
    split
    · refine ⟨trivial, fun _ stand' hleads => ⟨trivial, fun deleted stand' hleads' => ?_⟩⟩
      obtain ⟨-, found, rfl⟩ := hleads
      obtain ⟨-, found', rfl⟩ := hleads'
      have hforgotten : Sweeps token swept (stand.after token found (.forget swept)) :=
        hsweeps.still rfl
      have hdeleted : Sweeps token swept ((stand.after token found (.forget swept)).after token
          found' (.call (.deleteSession swept))) := hforgotten.still rfl
      show Flow.Follows _ _ _ (if deleted = true then _ else _)
      split
      · exact hdeleted
      · exact hdeleted
    split
    · refine ⟨trivial, ?_⟩
      intro updated stand' hleads
      obtain ⟨-, found, rfl⟩ := hleads
      have hupdated : Sweeps token swept
          (stand.after token found (.call (.updateSession entry.session))) := hsweeps.still rfl
      show Flow.Follows _ _ _ (if updated = true then _ else _)
      split
      · have hswept (heq : entry.session.token = token) : swept = token := htoken.symm.trans heq
        refine ⟨fun heq => ⟨hupdated.1 (hswept heq), .inl (hentry (hswept heq))⟩,
          fun _ stand' hleads => ?_⟩
        obtain ⟨-, found, rfl⟩ := hleads
        exact hupdated.still rfl
      · refine ⟨trivial, ?_⟩
        intro _ stand' hleads
        obtain ⟨-, found, rfl⟩ := hleads
        exact hupdated.still rfl
    · exact hsweeps

/-- A sweep of one token keeps to the discipline, and goes on outside of
the lock. -/
theorem follows_sweepToken {token swept : String} {time : Timestamp} {report : SweepReport}
    {stand : Stand} (hplace : stand.place ≠ .inside) :
    (sweepToken time swept report).Follows (guarded token false)
      (fun stand end? => ∀ report, end? = .ok report → stand.place ≠ .inside) stand := by
  rw [sweepToken_eq]
  refine follows_locked hplace ?_
  intro stand hlocked hpassed
  -- The entry is looked at under the lock, so what is found is still there.
  have hbody : ((take (.peek swept)).bind (sweepEntry time swept report)).Follows
      (guarded token false) (fun stand _ => Sweeps token swept stand) stand := by
    refine ⟨trivial, ?_⟩
    intro cached stand' hleads
    obtain ⟨hexpected, found, rfl⟩ := hleads
    refine follows_sweepEntry (Sweeps.still ⟨hlocked, hpassed⟩ rfl) ?_
    intro entry hcached
    obtain ⟨htoken, hentry⟩ := hexpected entry hcached
    exact ⟨htoken, fun heq => hentry heq (hlocked heq)⟩
  refine hbody.mono ?_
  intro stand end? hend
  cases end? with
  | error why => exact fun _ h => nomatch h
  | ok report =>
    refine ⟨hend.1, ?_⟩
    intro _ _
    by_cases heq : swept = token
    · have hleft : (stand.after token false (.unlock swept)).place = .leaving := if_pos heq
      rw [hleft]
      decide
    · have hstill : (stand.after token false (.unlock swept)).place = stand.place.still :=
        if_neg heq
      rw [hstill]
      exact Place.still_ne (hend.2 heq)

/-- A sweep of several tokens keeps to the discipline. -/
theorem follows_sweepTokens {token : String} {time : Timestamp} {tokens : List String}
    {report : SweepReport} {stand : Stand} (hplace : stand.place ≠ .inside) :
    (sweepTokens time tokens report).Follows (guarded token false) (fun _ _ => True) stand := by
  induction tokens generalizing report stand with
  | nil => trivial
  | cons swept tokens ih =>
    show ((sweepToken time swept report).bind (sweepTokens time tokens)).Follows _ _ _
    refine Flow.Follows.bind ((follows_sweepToken hplace).mono ?_)
    intro stand end? hend
    cases end? with
    | error why => trivial
    | ok report => exact ih (hend report rfl)

/-- A sweep keeps to the discipline. -/
theorem follows_sweep {token : String} {time : Timestamp} {stand : Stand}
    (hplace : stand.place ≠ .inside) :
    (sweep time).Follows (guarded token false) (fun _ _ => True) stand := by
  refine ⟨trivial, ?_⟩
  intro tokens stand' hleads
  obtain ⟨-, found, rfl⟩ := hleads
  show ((sweepTokens time tokens {}).bind _).Follows _ _ _
  refine Flow.Follows.bind ((follows_sweepTokens (Place.still_ne hplace)).mono
    fun stand end? _ => ?_)
  cases end? with
  | error why => trivial
  | ok report => exact ⟨trivial, fun _ _ _ => trivial⟩

/-! ### Requests -/

namespace Request

/-- No call of the session store swallows the error of a call to the database. -/
theorem failStop (ttl : Duration) (request : Request) : (request.flow ttl).FailStop := by
  cases request with
  | add session => exact .bind (failStop_add session) fun _ => .of_pure _
  | get token => exact .bind (failStop_get ttl token) fun _ => .of_pure _
  | remove token => exact .bind (failStop_remove token) fun _ => .of_pure _
  | sweep time => exact .bind (failStop_sweep time) fun _ => .of_pure _

/-- Whether the request may write a row anew. -/
def adds : Request → Bool
  | .add _ => true
  | _ => false

/-- What is known of a token at the end of a request. -/
def Ends (token : String) : Request → Stand → Except Stop Reply → Prop
  | .get looked, stand, end? => looked = token →
    stand.place ≠ .outside ∧
      (stand.entry = false → stand.row = false → end? = .ok (.found none))
  | .remove removed, stand, .ok _ => removed = token →
    stand.place = .leaving ∧ stand.entry = false ∧ stand.row = false
  | _, _, _ => True

/-- Every request keeps to the discipline in regard of every token. -/
theorem follows (token : String) (ttl : Duration) (request : Request) :
    (request.flow ttl).Follows (guarded token request.adds) (request.Ends token) .initial := by
  have hplace : Stand.initial.place ≠ .inside := nofun
  cases request with
  | add session =>
    refine Flow.Follows.bind ((follows_add hplace).mono ?_)
    intro stand end? _
    cases end? <;> trivial
  | get looked =>
    refine Flow.Follows.bind ((follows_get hplace).mono ?_)
    intro stand end? hend
    cases end? with
    | error why =>
      refine fun heq => ⟨(hend heq).1, fun hentry hrow => ?_⟩
      cases (hend heq).2 hentry hrow
    | ok found =>
      refine fun heq => ⟨(hend heq).1, fun hentry hrow => ?_⟩
      cases (hend heq).2 hentry hrow
      rfl
  | remove removed =>
    refine Flow.Follows.bind ((follows_remove hplace).mono ?_)
    intro stand end? hend
    cases end? with
    | error why => trivial
    | ok wasThere => exact fun heq => hend heq wasThere rfl
  | sweep time =>
    refine Flow.Follows.bind ((follows_sweep hplace).mono ?_)
    intro stand end? _
    cases end? <;> trivial

end Request

end Gatekeeper.SessionStore

import Gatekeeper.Proofs.Flow
import Gatekeeper.Proofs.Session.Tenure

/-!
# `Gatekeeper.Proofs.Session.LookUp`: the answers of a look-up are right

`ensures_get` says what a look-up brings about if all tokens are kept: they
still are, and the answer is right by the tenure of the token. It comes
from `ensures_present`, which is about an entry that was found in the
cache or made from the row, and from `ensures_renewal`, which is about an
entry of a live session.
-/

set_option autoImplicit false

namespace Gatekeeper

/-- Whether the call is about sessions. -/
def Call.isOfSessions : Call → Bool
  | .findSession _ | .upsertSession _ | .updateSession _ | .deleteSession _
  | .deleteExpiredSessions _ => true
  | _ => false

/-- The step is no call to the database, or one about sessions. -/
def Step.OfSessions : Step → Prop
  | .call c => c.isOfSessions = true
  | _ => True

namespace SessionStore

open Gatekeeper.Flow (call take locked)
open Timestamp (later)

/-- What a look-up notes: the session if it was alive. -/
def noteLook (token : String) (now? : Option Instant) :
    Except Stop (Option Session) → List Note → List Note
  | .ok (some session), notes =>
    match now? with
    | some now => if session.isExpired now then notes else .seen token now :: notes
    | none => notes
  | _, notes => notes

/-- The answer of a look-up at a time is right by the tenure of its
token. -/
structure RightAnswer (ttl : Duration) (tenure : Tenure) (time : Instant)
    (answer : Option Session) : Prop where
  mayLive : ∀ session, answer = some session → session.isExpired time = false →
    tenure.MayLive ttl time
  mustLive : tenure.MustLive ttl time →
    ∃ session, answer = some session ∧ session.isExpired time = false
  renewed : ∀ session, answer = some session → session.isExpired time = false →
    ∃ renewedUntil, time.add? ttl = some renewedUntil ∧
      session = tenure.session.lastingTo (later tenure.session.expiresAt renewedUntil)

/-- What a look-up brings about. -/
structure Looked (ttl : Duration) (notes : List Note) (token : String) (server : Server)
    (end? : Except Stop (Option Session)) (after : Server) : Prop where
  clock : after.clock = server.clock
  keeps : Keeps ttl (noteLook token server.now? end? notes) after
  right : ∀ answer time, end? = .ok answer → server.now? = some time →
    match tenure? token notes with
    | none => answer = none
    | some tenure => RightAnswer ttl tenure time answer

/-- The answer of a look-up that renewed an entry. -/
def renew (ttl : Duration) (token : String) (entry : CachedSession) : Flow (Option Session) := do
  if isOverdue ttl entry then
    if ← call (.updateSession entry.session) then
      take (.remember (.persisted entry.session))
      return some entry.session
    else
      let _ ← take (.forget token)
      return none
  else
    take (.remember entry)
    return some entry.session

/-- The answer of a look-up that found an entry. -/
def present (ttl : Duration) (token : String) (entry : CachedSession) : Flow (Option Session) := do
  let now ← Flow.now
  if entry.session.isExpired now then return some entry.session
  else renew ttl token (renewed entry (← Flow.inCalendar (now.add? ttl)))

/-- The answer of a look-up by what the cache has. -/
def answer (ttl : Duration) (token : String) : Option CachedSession → Flow (Option Session)
  | some entry => present ttl token entry
  | none => do
    match ← call (.findSession token) with
    | none => return none
    | some session => present ttl token (.persisted session)

theorem get_eq (ttl : Duration) (token : String) :
    get ttl token = locked token ((take (.lookUp token)).bind (answer ttl token)) := by
  unfold get
  congr 1
  show Flow.step _ _ _ = Flow.step _ _ _
  congr 1
  funext cached
  cases cached with
  | some entry => rfl
  | none =>
    show Flow.step _ _ _ = Flow.step _ _ _
    congr 1
    funext session
    cases session <;> rfl

/-! ### What steps the operations on sessions take -/

theorem takes_add (session : Session) : (add session).Takes Step.OfSessions :=
  .locked trivial trivial (by simp [Step.OfSessions, Call.isOfSessions])

theorem takes_remove (token : String) : (remove token).Takes Step.OfSessions :=
  .locked trivial trivial (by simp [Step.OfSessions, Call.isOfSessions])

theorem takes_get (ttl : Duration) (token : String) : (get ttl token).Takes Step.OfSessions := by
  have hrenew (entry : CachedSession) : (renew ttl token entry).Takes Step.OfSessions := by
    unfold renew
    split
    · refine Flow.Takes.call_bind_iff.2 ⟨rfl, ?_⟩
      rintro (_ | _) <;> simp [Step.OfSessions]
    · simp [Step.OfSessions]
  have hpresent (entry : CachedSession) : (present ttl token entry).Takes Step.OfSessions := by
    refine Flow.Takes.now_bind_iff.2 ⟨trivial, fun now => ?_⟩
    split
    · trivial
    · exact .bind (.of_inCalendar _) fun _ => hrenew _
  rw [get_eq]
  refine .locked trivial trivial ⟨trivial, fun cached => ?_⟩
  cases cached with
  | some entry => exact hpresent entry
  | none =>
    refine ⟨rfl, fun session => ?_⟩
    cases session with
    | none => trivial
    | some session => exact hpresent _

/-- A renewal moves the expiry to the later one of the two. -/
theorem renewed_eq (session : Session) (cur persisted : Timestamp) (renewedUntil : Instant) :
    renewed ⟨session.lastingTo cur, persisted⟩ renewedUntil =
      ⟨session.lastingTo (later cur renewedUntil), persisted⟩ := by
  unfold renewed later
  by_cases h : cur < (renewedUntil : Timestamp)
  · rw [if_pos h, if_pos (show (session.lastingTo cur).expiresAt < _ from h)]
    rfl
  · rw [if_neg h, if_neg (show ¬ (session.lastingTo cur).expiresAt < _ from h)]

/-- Once a session is renewed, it lives to the renewal or to the expiry it
was added with, whatever it lived to before. -/
theorem Tenure.LivesTo.le_later {ttl : Duration} {tenure : Tenure} {expiry : Timestamp}
    {now renewedUntil : Instant} (h : tenure.LivesTo ttl expiry)
    (hseen : ∀ last, tenure.lastSeen = some last → last.nanos ≤ now.nanos)
    (hadd : now.add? ttl = some renewedUntil) :
    expiry ≤ later tenure.session.expiresAt renewedUntil := by
  unfold Tenure.LivesTo at h
  split at h
  next => rw [h]; exact Timestamp.le_later_left _ _
  next last hlast =>
    obtain ⟨before, hbefore, rfl⟩ := h
    have hle := hseen last hlast
    have hnanos := Instant.nanos_of_ofNanos? hadd
    have hnanos' := Instant.nanos_of_ofNanos? hbefore
    refine Timestamp.later_le (Timestamp.le_later_left _ _) (Timestamp.le_trans ?_
      (Timestamp.le_later_right _ _))
    rw [Timestamp.le_ofInstant_iff, Timestamp.deadline_ofInstant]
    omega

/-- A look-up that finds a session alive gives it with its new expiry, and
notes that it was seen. -/
theorem Looked.of_live {ttl : Duration} {notes : List Note} {token : String}
    {server after : Server} {tenure : Tenure} (htenure : tenure? token notes = some tenure)
    {now renewedUntil : Instant} (hnow : server.now? = some now)
    (hadd : now.add? ttl = some renewedUntil) (hmay : tenure.MayLive ttl now)
    (hlasting : (now : Timestamp) < later tenure.session.expiresAt renewedUntil)
    (hclock : after.clock = server.clock) (hkept : Keeps ttl (.seen token now :: notes) after) :
    Looked ttl notes token server
      (.ok (some (tenure.session.lastingTo (later tenure.session.expiresAt renewedUntil))))
      after := by
  have hlive : (tenure.session.lastingTo
      (later tenure.session.expiresAt renewedUntil)).isExpired now = false :=
    decide_eq_false (Timestamp.not_le.2 hlasting)
  refine ⟨hclock, ?_, fun answer time hend htime => ?_⟩
  · simp only [noteLook, hnow, hlive, Bool.false_eq_true, if_false]
    exact hkept
  · rw [htenure]
    cases hend
    obtain rfl := Option.some.inj (hnow.symm.trans htime)
    refine ⟨fun _ _ _ => hmay, fun _ => ⟨_, rfl, hlive⟩, ?_⟩
    intro session hsession _
    cases hsession
    exact ⟨renewedUntil, hadd, rfl⟩

/-- A look-up that finds a session expired gives it as it is, and notes
nothing. -/
theorem Looked.of_expired {ttl : Duration} {notes : List Note} {token : String} {server : Server}
    (hkeeps : Keeps ttl notes server) {tenure : Tenure}
    (htenure : tenure? token notes = some tenure) {now : Instant} (hnow : server.now? = some now)
    {session : Session} (hexpired : session.isExpired now = true)
    (hmust : ¬ tenure.MustLive ttl now) :
    Looked ttl notes token server (.ok (some session)) server := by
  refine ⟨rfl, ?_, fun answer time hend htime => ?_⟩
  · simp only [noteLook, hnow, hexpired, if_true]
    exact hkeeps
  · rw [htenure]
    obtain rfl := Option.some.inj (hnow.symm.trans htime)
    cases hend
    have hdead {found : Session} (hfound : some session = some found)
        (hlive : found.isExpired now = false) : False := by
      cases hfound
      cases hexpired.symm.trans hlive
    exact ⟨fun _ hfound hlive => (hdead hfound hlive).elim, fun h => absurd h hmust,
      fun _ hfound hlive => (hdead hfound hlive).elim⟩

/-- What comes of a look-up that finds a live session. -/
theorem ensures_renewal {ttl : Duration} (httl : 0 ≤ ttl) {notes : List Note} {token : String}
    {server : Server} (hkeeps : Keeps ttl notes server) {tenure : Tenure}
    (htenure : tenure? token notes = some tenure) {expiry persisted cur : Timestamp}
    (lag : Lag ttl tenure expiry persisted)
    (hrow : server.database.sessions.get? token =
      some (Session.form.encode (tenure.session.lastingTo persisted)))
    {now renewedUntil : Instant} (hnow : server.now? = some now)
    (hadd : now.add? ttl = some renewedUntil) (hlow : persisted ≤ cur)
    (hcur : (now : Timestamp) < cur)
    (hhigh : cur ≤ expiry) (hnew : expiry ≤ later tenure.session.expiresAt renewedUntil) :
    (renew ttl token (renewed ⟨tenure.session.lastingTo cur, persisted⟩ renewedUntil)).Ensures
      (Looked ttl notes token server) server := by
  have hclock := Server.nanos_of_now? hnow
  have htoken := token_of_tenure? htenure
  -- The entry may expire before the session does, but the renewal is later
  -- than both, unless the session was added for longer.
  have hlater := Timestamp.later_eq_of_between (Timestamp.le_trans lag.expiresAt_le hlow)
    (Timestamp.le_trans hhigh hnew)
  rw [renewed_eq, hlater]
  let tenure' : Tenure := ⟨tenure.session, some now⟩
  let lasting := later tenure.session.expiresAt renewedUntil
  have htenure' : tenure? token (.seen token now :: notes) = some tenure' := by
    simp only [tenure?, if_true, htenure]
    rfl
  have hother : ∀ other, other ≠ token →
      tenure? other (.seen token now :: notes) = tenure? other notes := by
    intro other hne
    simp only [tenure?, if_neg hne.symm]
  have hlives : tenure'.LivesTo ttl lasting := ⟨renewedUntil, hadd, rfl⟩
  have hseen' : ∀ last, tenure'.lastSeen = some last → last.nanos ≤ server.clock := by
    intro last hlast
    cases hlast
    exact Int.le_of_eq hclock
  have hdone {after : Server} (hsame : after.clock = server.clock)
      (hkept : Keeps ttl (.seen token now :: notes) after) :
      Looked ttl notes token server (.ok (some (tenure.session.lastingTo lasting))) after :=
    .of_live htenure hnow hadd (lag.livesTo.mayLive (Timestamp.lt_of_lt_of_le hcur hhigh))
      (Timestamp.lt_of_lt_of_le hcur (Timestamp.le_trans hhigh hnew)) hsame hkept
  subst htoken
  show Flow.Ensures _ (if isOverdue ttl ⟨tenure.session.lastingTo lasting, persisted⟩ = true
    then _ else _) server
  split
  next hoverdue =>
    show (∀ why, Looked ttl notes _ server (.error why) server) ∧ _
    refine ⟨fun why => ⟨rfl, hkeeps, fun _ _ hend => by cases hend⟩, ?_⟩
    intro answer db hrun
    rw [Call.run_updateSession (tenure.session.lastingTo lasting) hrow] at hrun
    cases hrun
    exact hdone rfl (hkeeps.write httl tenure' hother htenure' hlives hseen')
  next hnot =>
    -- The row stays as it was, as the renewal is not far ahead of it.
    have hsince : lasting.since persisted ≤ ttl.half :=
      Int.not_lt.1 fun hlt => hnot (decide_eq_true hlt)
    have hpersisted : persisted ≤ lasting :=
      Timestamp.le_trans hlow (Timestamp.le_trans hhigh hnew)
    refine hdone rfl (hkeeps.change rfl _ hother (fun _ _ => rfl) ?_ ?_)
    · intro other hne
      exact SessionCache.peek_put_of_ne _ _ hne
    · rw [htenure']
      show Kept _ _ _ (server.database.sessions.get? _) _
      rw [hrow]
      exact .held ⟨hlives, lag.expiresAt_le, hpersisted, hsince, lag.lateness_le⟩ hseen'
        (SessionCache.peek_put_self _ ⟨tenure.session.lastingTo lasting, persisted⟩)

/-- The answer of a look-up for an entry is right, and the token is kept.
The entry may be the one of the cache, or one made from the row. -/
theorem ensures_present {ttl : Duration} (httl : 0 ≤ ttl) {notes : List Note} {token : String}
    {server : Server} (hkeeps : Keeps ttl notes server) {tenure : Tenure}
    (htenure : tenure? token notes = some tenure) {expiry persisted cur : Timestamp}
    (lag : Lag ttl tenure expiry persisted)
    (hseen : ∀ last, tenure.lastSeen = some last → last.nanos ≤ server.clock)
    (hrow : server.database.sessions.get? token =
      some (Session.form.encode (tenure.session.lastingTo persisted)))
    (hlow : persisted ≤ cur) (hhigh : cur ≤ expiry) :
    (present ttl token ⟨tenure.session.lastingTo cur, persisted⟩).Ensures
      (Looked ttl notes token server) server := by
  have hfail (why : Stop) : Looked ttl notes token server (.error why) server :=
    ⟨rfl, hkeeps, fun _ _ hend => by cases hend⟩
  show (∀ now, server.now? = some now → _) ∧ (server.now? = none → _)
  refine ⟨fun now hnow => ?_, fun _ => hfail _⟩
  have hclock := Server.nanos_of_now? hnow
  show Flow.Ensures _ (if (tenure.session.lastingTo cur).isExpired now = true then _ else _) server
  split
  next hexpired =>
    have hcur : cur ≤ (now : Timestamp) := of_decide_eq_true hexpired
    exact .of_expired hkeeps htenure hnow hexpired fun hmust =>
      Int.not_le.2 (Timestamp.lt_of_lt_of_le (lag.lt_persisted hmust) hlow) hcur
  next hlive =>
    have hcur : (now : Timestamp) < cur := by
      rw [← Timestamp.not_le]
      exact fun hle => hlive (decide_eq_true hle)
    show Flow.Ensures _ (Flow.bind (Flow.inCalendar (now.add? ttl)) _) server
    cases hadd : now.add? ttl with
    | none => exact hfail _
    | some renewedUntil =>
      exact ensures_renewal httl hkeeps htenure lag hrow hnow hadd hlow hcur hhigh
        (lag.livesTo.le_later (fun last hlast => by rw [hclock]; exact hseen last hlast) hadd)

/-- A look-up gives the right answer and keeps all. -/
theorem ensures_get {ttl : Duration} (httl : 0 ≤ ttl) {notes : List Note} {server : Server}
    (hkeeps : Keeps ttl notes server) (token : String) :
    (get ttl token).Ensures (Looked ttl notes token server) server := by
  rw [get_eq]
  apply Flow.ensures_locked
  -- Looking the token up only makes it the most recently used.
  let touched : Server := { server with cache := (server.cache.get token).2 }
  have htouched : Keeps ttl notes touched := by
    intro other
    show Kept _ _ _ _ ((server.cache.get token).2.peek other)
    rw [SessionCache.peek_get]
    exact hkeeps other
  show Flow.Ensures _ (answer ttl token (server.cache.peek token)) touched
  have hkept := hkeeps token
  generalize htenure : tenure? token notes = kept at hkept
  generalize hrow : server.database.sessions.get? token = row at hkept
  -- The entry of the cache expires with the session, and one made from the
  -- row expires with the row.
  have hpresent {tenure : Tenure} {expiry persisted cur : Timestamp}
      (htenure : tenure? token notes = some tenure) (lag : Lag ttl tenure expiry persisted)
      (hseen : ∀ last, tenure.lastSeen = some last → last.nanos ≤ server.clock)
      (hrow : server.database.sessions.get? token =
        some (Session.form.encode (tenure.session.lastingTo persisted)))
      (hlow : persisted ≤ cur) (hhigh : cur ≤ expiry) :
      (present ttl token ⟨tenure.session.lastingTo cur, persisted⟩).Ensures
        (Looked ttl notes token server) touched :=
    (ensures_present httl htouched htenure lag hseen hrow hlow hhigh).mono
      fun _ _ h => ⟨h.clock, h.keeps, h.right⟩
  cases hpeek : server.cache.peek token with
  | some entry =>
    show Flow.Ensures _ (present ttl token entry) touched
    rw [hpeek] at hkept
    cases hkept with
    | held lag hseen hentry =>
      rcases hentry with hnone | hsome
      · cases hnone
      · cases hsome
        exact hpresent htenure lag hseen hrow lag.persisted_le (Timestamp.le_refl _)
  | none =>
    show (∀ why, Looked ttl notes token server (.error why) touched) ∧ _
    refine ⟨fun why => ⟨rfl, htouched, fun _ _ hend => by cases hend⟩, ?_⟩
    intro answer db hrun
    -- Without a row the answer is that there is no session.
    have hnothing (hright : ∀ time, server.now? = some time → match tenure? token notes with
          | none => (none : Option Session) = none
          | some tenure => RightAnswer ttl tenure time none) :
        Looked ttl notes token server (.ok none) touched :=
      ⟨rfl, htouched, fun _ _ hend htime => by cases hend; exact hright _ htime⟩
    rw [hpeek] at hkept
    cases hkept with
    | absent =>
      rw [Call.run_findSession_none hrow] at hrun
      cases hrun
      refine hnothing ?_
      intro _ _
      rw [htenure]
    | ended h =>
      rw [Call.run_findSession_none hrow] at hrun
      cases hrun
      refine hnothing ?_
      intro time htime
      rw [htenure]
      refine ⟨(fun _ hs => nomatch hs), fun hmust => ?_, (fun _ hs => nomatch hs)⟩
      exact absurd hmust (h time (Int.le_of_eq (Server.nanos_of_now? htime).symm))
    | held lag hseen hentry =>
      rw [Call.run_findSession hrow] at hrun
      cases hrun
      exact hpresent htenure lag hseen hrow (Timestamp.le_refl _) lag.persisted_le

end SessionStore

end Gatekeeper

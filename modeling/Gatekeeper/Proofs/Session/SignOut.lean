import Gatekeeper.Proofs.Session.Guard

/-!
# `Gatekeeper.Proofs.Session.SignOut`: a sign-out is never undone

A token is signed out from the end of a removal until the next addition
writes its row (`SignedOut`). Any number of operations are under way
meanwhile: renewals that read the session before, sweeps that listed its
entry. `stays_signed_out` says that none of them brings the token back,
whichever order their steps come in. In all that time neither the cache
nor the table has it, and who gets its lock in that time to look it up
finds nothing.

What carries the proof is `Sound`. Each operation has a `Standing`: what
it has still to do keeps to the discipline of the token, and under the
lock the cache and the table hold no more than it knows of. As the lock
is held by one operation at most, a removal that comes to its end leaves
no other one under the lock. Who gets the lock later finds that nothing
is there, and so may put nothing into the cache.
-/

set_option autoImplicit false

namespace Gatekeeper.SessionStore

/-! ### The history of a token -/

/-- A removal of the token comes to its end. -/
def SignsOut (token : String) : Happening Request Reply → Prop
  | .took _ (.remove removed) _ _ (some (.ok _)) => removed = token
  | _ => False

/-- An addition writes the row of the token. -/
def WritesRow (token : String) : Happening Request Reply → Prop
  | .took _ _ (.call (.upsertSession session)) _ _ => session.token = token
  | _ => False

/-- A task gets the lock of the token. -/
def GetsLock (i : Nat) (token : String) : Happening Request Reply → Prop
  | .took j _ (.lock locked) _ _ => j = i ∧ locked = token
  | _ => False

/-- A removal of the token has come to its end, and no addition has written
its row since. -/
def SignedOut (token : String) : List (Happening Request Reply) → Prop
  | [] => False
  | happening :: earlier =>
    SignsOut token happening ∨ (¬ WritesRow token happening ∧ SignedOut token earlier)

/-- When the task got the lock of the token last, the token was signed
out. -/
def LockedSignedOut (i : Nat) (token : String) : List (Happening Request Reply) → Prop
  | [] => False
  | happening :: earlier => (GetsLock i token happening ∧ SignedOut token earlier) ∨
    (¬ GetsLock i token happening ∧ LockedSignedOut i token earlier)

variable {token : String} {past : List (Happening Request Reply)}
  {happening : Happening Request Reply}

theorem SignedOut.earlier (h : SignedOut token (happening :: past))
    (hsigns : ¬ SignsOut token happening) : ¬ WritesRow token happening ∧ SignedOut token past :=
  h.resolve_left hsigns

theorem LockedSignedOut.earlier {i : Nat} (h : LockedSignedOut i token (happening :: past))
    (hlock : ¬ GetsLock i token happening) : LockedSignedOut i token past :=
  (h.resolve_left fun hgets => hlock hgets.1).2

/-! ### What a step brings -/

/-- An entry is in the cache after a step if it was there before and was
not taken out, or if it was put in. -/
theorem ensures_entry (token : String) (step : Step) (server : Server) :
    step.Ensures server (fun _ after => (after.cache.peek token).isSome →
      ((server.cache.peek token).isSome ∧ step ≠ .forget token) ∨
        ∃ entry, step = .remember entry ∧ entry.session.token = token) (fun _ => True) := by
  cases step with
  | call => exact ⟨fun _ => trivial, fun _ _ _ h => .inl ⟨h, nofun⟩⟩
  | readClock => exact ⟨fun _ _ h => .inl ⟨h, nofun⟩, fun _ => trivial⟩
  | lookUp looked =>
    intro h
    rw [SessionCache.peek_get] at h
    exact .inl ⟨h, nofun⟩
  | remember entry =>
    intro h
    by_cases htoken : entry.session.token = token
    · exact .inr ⟨entry, rfl, htoken⟩
    · rcases server.cache.peek_put_of_ne entry (Ne.symm htoken) with hgone | hsame
      · rw [hgone] at h
        cases h
      · rw [hsame] at h
        exact .inl ⟨h, nofun⟩
  | forget forgotten =>
    intro h
    rw [SessionCache.peek_erase] at h
    split at h
    next => cases h
    next hne => exact .inl ⟨h, fun heq => hne (Step.forget.inj heq).symm⟩
  | peek | listStale | drawId | lock | unlock => exact fun h => .inl ⟨h, nofun⟩

/-- A row is there after a step if it was there before and was not deleted,
or if it was written anew. -/
theorem ensures_row (token : String) (step : Step) (server : Server) :
    step.Ensures server (fun _ after => (after.database.sessions.get? token).isSome →
      ((server.database.sessions.get? token).isSome ∧ step ≠ .call (.deleteSession token)) ∨
        ∃ session, step = .call (.upsertSession session) ∧ session.token = token)
      (fun _ => True) := by
  cases step with
  | call call =>
    refine ⟨fun _ => trivial, ?_⟩
    intro answer db hrun h
    obtain ⟨row, hrow⟩ := Option.isSome_iff_exists.1 h
    by_cases hdelete : call = .deleteSession token
    · subst hdelete
      cases hrun
      cases (SortedMap.get?_erase_self server.database.sessions token).symm.trans hrow
    have hkept : Step.call call ≠ .call (.deleteSession token) :=
      fun heq => hdelete (Step.call.inj heq)
    -- An update writes a row only where there is one.
    rcases Call.row_of_run hrun hrow with hold | ⟨session, htoken, -, -, rfl | hold⟩
    · exact .inl ⟨Option.isSome_of_eq_some hold, hkept⟩
    · exact .inr ⟨session, rfl, htoken⟩
    · exact .inl ⟨hold, hkept⟩
  | readClock => exact ⟨fun _ _ h => .inl ⟨h, nofun⟩, fun _ => trivial⟩
  | lookUp | peek | remember | forget | listStale | drawId | lock | unlock =>
    exact fun h => .inl ⟨h, nofun⟩

/-- Entries stand under their own tokens in the cache. -/
def EntriesKeyed (cache : SessionCache) : Prop :=
  ∀ token entry, cache.peek token = some entry → entry.session.token = token

theorem entriesKeyed_ofCapacity (capacity : Nat) : EntriesKeyed (.ofCapacity capacity) := by
  intro token entry h
  rw [SessionCache.peek_ofCapacity] at h
  cases h

/-- Entries stand under their own tokens after every step. -/
theorem ensures_entriesKeyed {step : Step} {server : Server}
    (hkeyed : EntriesKeyed server.cache) :
    step.Ensures server (fun _ after => EntriesKeyed after.cache) (fun _ => True) := by
  cases step with
  | call => exact ⟨fun _ => trivial, fun _ _ _ => hkeyed⟩
  | readClock => exact ⟨fun _ _ => hkeyed, fun _ => trivial⟩
  | lookUp looked =>
    intro token entry h
    exact hkeyed token entry ((server.cache.peek_get looked token).symm.trans h)
  | remember entry =>
    intro token entry' h
    by_cases htoken : token = entry.session.token
    · subst htoken
      rcases server.cache.peek_put_self entry with hgone | hput
      · cases hgone.symm.trans h
      · cases hput.symm.trans h
        rfl
    · rcases server.cache.peek_put_of_ne entry htoken with hgone | hsame
      · cases hgone.symm.trans h
      · exact hkeyed token entry' (hsame.symm.trans h)
  | forget forgotten =>
    intro token entry h
    rw [SessionCache.peek_erase] at h
    split at h
    · cases h
    · exact hkeyed token entry h
  | peek | listStale | drawId | lock | unlock => exact hkeyed

/-- Rows stand under their own tokens after every step. -/
theorem ensures_rowsKeyed {step : Step} {server : Server}
    (hkeyed : server.database.SessionsKeyed) :
    step.Ensures server (fun _ after => after.database.SessionsKeyed) (fun _ => True) := by
  cases step with
  | call => exact ⟨fun _ => trivial, fun _ _ hrun => Call.keyed_of_run hrun hkeyed⟩
  | readClock => exact ⟨fun _ _ => hkeyed, fun _ => trivial⟩
  | lookUp | peek | remember | forget | listStale | drawId | lock | unlock => exact hkeyed

/-! ### What an operation knows under the lock -/

/-- The cache and the table hold no more of the token than is known. -/
structure Covers (token : String) (server : Server) (stand : Stand) : Prop where
  entry : (server.cache.peek token).isSome → stand.entry = true
  row : (server.database.sessions.get? token).isSome → stand.row = true

/-- A step is answered as is expected of it. -/
theorem ensures_expected {token : String} {step : Step} {server : Server} {stand : Stand}
    (hentries : EntriesKeyed server.cache) (hrows : server.database.SessionsKeyed)
    (hcovers : stand.place = .inside → Covers token server stand) :
    step.Ensures server (fun answer _ => expected token stand step answer) (fun _ => True) := by
  have hcached (looked : String) (entry : CachedSession)
      (hpeek : server.cache.peek looked = some entry) : entry.session.token = looked ∧
        (looked = token → stand.place = .inside → stand.entry = true) := by
    refine ⟨hentries looked entry hpeek, fun heq hinside => (hcovers hinside).entry ?_⟩
    rw [← heq]
    exact Option.isSome_of_eq_some hpeek
  cases step with
  | lookUp looked => exact hcached looked
  | peek looked => exact hcached looked
  | call call =>
    refine ⟨fun _ => trivial, ?_⟩
    intro answer db hrun
    cases call with
    | findSession looked =>
      intro session hsession
      obtain ⟨row, hrow, hdecode⟩ := Table.row_of_find (Call.lookedUp_iff.1 (hsession ▸ hrun)).1
      refine ⟨hrows looked row session hrow hdecode, fun heq hinside => (hcovers hinside).row ?_⟩
      rw [← heq]
      exact Option.isSome_of_eq_some hrow
    | _ => trivial
  | readClock => exact ⟨fun _ _ => trivial, fun _ => trivial⟩
  | remember | forget | listStale | drawId | lock | unlock => trivial

namespace Stand

variable {token : String} {found : Bool} {stand : Stand} {step : Step}

theorem entry_after (h : stand.entry = true) (hlock : step ≠ .lock token)
    (hforget : step ≠ .forget token) : (stand.after token found step).entry = true := by
  cases step with
  | lock locked =>
    have hne : ¬ locked = token := fun heq => hlock (heq ▸ rfl)
    exact (if_neg hne).trans h
  | forget forgotten =>
    have hne : ¬ forgotten = token := fun heq => hforget (heq ▸ rfl)
    exact (if_neg hne).trans h
  | remember entry =>
    show (if entry.session.token = token then true else stand.entry) = true
    rw [h, ite_self]
  | call | lookUp | peek | listStale | readClock | drawId | unlock => exact h

theorem row_after (h : stand.row = true) (hlock : step ≠ .lock token)
    (hdelete : step ≠ .call (.deleteSession token)) :
    (stand.after token found step).row = true := by
  cases step with
  | lock locked =>
    have hne : ¬ locked = token := fun heq => hlock (heq ▸ rfl)
    exact (if_neg hne).trans h
  | call call =>
    cases call with
    | upsertSession session =>
      show (if session.token = token then true else stand.row) = true
      rw [h, ite_self]
    | deleteSession deleted =>
      have hne : ¬ deleted = token := fun heq => hdelete (heq ▸ rfl)
      exact (if_neg hne).trans h
    | _ => exact h
  | lookUp | peek | remember | forget | listStale | readClock | drawId | unlock => exact h

/-- An operation that knows that nothing is there still knows it after a
step, unless the step writes a row. -/
theorem nothing_after {adds : Bool} (hallows : (guarded token adds).allows stand step)
    (hentry : stand.entry = false) (hrow : stand.row = false) (hlock : step ≠ .lock token)
    (hwrites : ∀ session, step = .call (.upsertSession session) → session.token ≠ token) :
    (stand.after token found step).entry = false ∧ (stand.after token found step).row = false := by
  cases step with
  | lock locked =>
    have hne : ¬ locked = token := fun heq => hlock (heq ▸ rfl)
    exact ⟨(if_neg hne).trans hentry, (if_neg hne).trans hrow⟩
  | forget forgotten =>
    refine ⟨?_, hrow⟩
    show (if forgotten = token then false else stand.entry) = false
    rw [hentry, ite_self]
  | remember entry =>
    -- An entry is put in only where something may be.
    refine ⟨(if_neg fun heq => ?_).trans hentry, hrow⟩
    rcases (hallows heq).2 with hmay | hmay
    · cases hentry.symm.trans hmay
    · cases hrow.symm.trans hmay
  | call call =>
    cases call with
    | upsertSession session => exact ⟨hentry, (if_neg (hwrites session rfl)).trans hrow⟩
    | deleteSession deleted =>
      refine ⟨hentry, ?_⟩
      show (if deleted = token then false else stand.row) = false
      rw [hrow, ite_self]
    | _ => exact ⟨hentry, hrow⟩
  | lookUp | peek | listStale | readClock | drawId | unlock => exact ⟨hentry, hrow⟩

/-- An operation is under the lock after a step if it was before and does
not give it back, or if it gets it. -/
theorem inside_after (h : (stand.after token found step).place = .inside) :
    step = .lock token ∨ stand.place = .inside := by
  have hstill (h : stand.place.still = .inside) : stand.place = .inside := by
    cases hplace : stand.place with
    | inside => rfl
    | outside | leaving => rw [hplace] at h; cases h
  cases step with
  | lock locked =>
    by_cases heq : locked = token
    · exact .inl (heq ▸ rfl)
    · exact .inr (hstill ((if_neg heq).symm.trans h))
  | unlock unlocked =>
    by_cases heq : unlocked = token
    · cases (if_pos heq).symm.trans h
    · exact .inr (hstill ((if_neg heq).symm.trans h))
  | call | lookUp | peek | remember | forget | listStale | readClock | drawId =>
    exact .inr (hstill h)

/-- An operation that keeps to the discipline has just been under the lock
when it gives it back. -/
theorem inside_of_leaving {adds : Bool} (hallows : (guarded token adds).allows stand step)
    (h : (stand.after token found step).place = .leaving) :
    stand.place = .inside ∧ step = .unlock token := by
  have hstill : stand.place.still ≠ .leaving := by
    cases stand.place <;> exact nofun
  cases step with
  | lock locked =>
    by_cases heq : locked = token
    · cases (if_pos heq).symm.trans h
    · exact absurd ((if_neg heq).symm.trans h) hstill
  | unlock unlocked =>
    by_cases heq : unlocked = token
    · exact ⟨hallows heq, heq ▸ rfl⟩
    · exact absurd ((if_neg heq).symm.trans h) hstill
  | call | lookUp | peek | remember | forget | listStale | readClock | drawId =>
    exact absurd h hstill

/-- An operation that keeps to the discipline and has to do with the lock
gets it or was under it. -/
theorem inside_of_ne_outside {adds : Bool} (hallows : (guarded token adds).allows stand step)
    (h : (stand.after token found step).place ≠ .outside) :
    step = .lock token ∨ stand.place = .inside := by
  cases hplace : (stand.after token found step).place with
  | outside => exact absurd hplace h
  | inside => exact inside_after hplace
  | leaving => exact .inr (inside_of_leaving hallows hplace).1

/-- Who gets the lock knows whether something may be there. -/
theorem after_lock (token : String) (found : Bool) (stand : Stand) :
    stand.after token found (.lock token) = ⟨.inside, found, found⟩ := by
  simp [Stand.after, Place.after]

/-- An operation is under the lock when it holds it. -/
theorem held_after {held : List String} (h : stand.place = .inside ↔ token ∈ held) :
    (stand.after token found step).place = .inside ↔ token ∈ step.heldAfter held := by
  have hstill : stand.place.still = .inside ↔ token ∈ held := by
    rw [← h]
    cases stand.place <;> decide
  cases step with
  | lock locked =>
    show (if locked = token then _ else _) = _ ↔ token ∈ locked :: held
    by_cases heq : locked = token
    · rw [if_pos heq, heq]
      exact ⟨fun _ => List.mem_cons_self, fun _ => rfl⟩
    · rw [if_neg heq, hstill, List.mem_cons]
      exact ⟨.inr, fun hmem => hmem.resolve_left fun heq' => heq heq'.symm⟩
  | unlock unlocked =>
    show (if unlocked = token then _ else _) = _ ↔ token ∈ held.filter (· != unlocked)
    by_cases heq : unlocked = token
    · rw [if_pos heq, heq]
      simp
    · rw [if_neg heq, hstill]
      simp [Ne.symm heq]
  | call | lookUp | peek | remember | forget | listStale | readClock | drawId => exact hstill

end Stand

/-- What is known still covers what is there after a step, unless the step
gets the lock. -/
theorem ensures_covers {token : String} {found : Bool} {step : Step} {server : Server}
    {stand : Stand} (h : Covers token server stand) (hlock : step ≠ .lock token) :
    step.Ensures server (fun _ after => Covers token after (stand.after token found step))
      (fun _ => True) := by
  refine ((ensures_entry token step server).and (ensures_row token step server)).mono
    (fun _ after hafter => ⟨fun hentry => ?_, fun hrow => ?_⟩) fun _ _ => trivial
  · rcases hafter.1 hentry with ⟨hold, hforget⟩ | ⟨entry, rfl, htoken⟩
    · exact Stand.entry_after (h.entry hold) hlock hforget
    · exact if_pos htoken
  · rcases hafter.2 hrow with ⟨hold, hdelete⟩ | ⟨session, rfl, htoken⟩
    · exact Stand.row_after (h.row hold) hlock hdelete
    · exact if_pos htoken

/-! ### Operations under way -/

/-- What an operation knows of the token is right, and it goes on as the
discipline has it. -/
structure Standing (token : String) (w : World Request Reply) (i : Nat)
    (task : Task Request Reply) (stand : Stand) : Prop where
  follows : task.rest.Follows (guarded token task.request.adds) (task.request.Ends token) stand
  held : stand.place = .inside ↔ token ∈ task.held
  covers : stand.place = .inside → Covers token w.server stand
  /-- Under the lock of a token that is signed out, nothing is there. -/
  nothing : stand.place = .inside → SignedOut token w.past →
    stand.entry = false ∧ stand.row = false
  /-- Who adds nothing finds nothing of a token that was signed out when
  its lock was got. -/
  nothingFound : task.request.adds = false → stand.place ≠ .outside →
    LockedSignedOut i token w.past → stand.entry = false ∧ stand.row = false

/-- The sessions are in order in regard of a token. -/
structure Sound (token : String) (w : World Request Reply) : Prop where
  entries : EntriesKeyed w.server.cache
  rows : w.server.database.SessionsKeyed
  exclusive : ∀ i j task task', w.tasks i = some task → w.tasks j = some task' →
    token ∈ task.held → token ∈ task'.held → i = j
  standing : ∀ i task, w.tasks i = some task → ∃ stand, Standing token w i task stand
  absent : SignedOut token w.past →
    w.server.cache.peek token = none ∧ w.server.database.sessions.get? token = none
  answers : ∀ i step answer result earlier,
    .took i (.get token) step answer (some result) :: earlier <:+ w.past →
      LockedSignedOut i token (.took i (.get token) step answer (some result) :: earlier) →
        result = .ok (.found none)

/-- A removal that comes to its end has just given the lock back, and
knows that nothing is there. -/
theorem leaving_of_signsOut {token : String} {i : Nat} {request : Request} {step : Step}
    {answer : step.Answer} {rest : Flow Reply} {adds : Bool} {stand : Stand}
    (hfollows : rest.Follows (guarded token adds) (request.Ends token) stand)
    (hsigns : SignsOut token (.took i request step answer rest.end?)) :
    stand.place = .leaving ∧ stand.entry = false ∧ stand.row = false := by
  cases request with
  | remove removed =>
    cases hend : rest.end? with
    | none => rw [hend] at hsigns; cases hsigns
    | some end? =>
      rw [hend] at hsigns
      cases end? with
      | error why => cases hsigns
      | ok reply => exact hfollows.of_end hend hsigns
  | add | get | sweep => cases hsigns

/-- An operation stands as it stood if what it knows is still right. -/
theorem Standing.still {token : String} {w w' : World Request Reply} {i : Nat}
    {task : Task Request Reply} {stand : Stand} (h : Standing token w i task stand)
    (hcovers : stand.place = .inside → Covers token w.server stand →
      Covers token w'.server stand)
    (hsigned : stand.place = .inside → SignedOut token w'.past → SignedOut token w.past)
    (hlocked : LockedSignedOut i token w'.past → LockedSignedOut i token w.past) :
    Standing token w' i task stand where
  follows := h.follows
  held := h.held
  covers hinside := hcovers hinside (h.covers hinside)
  nothing hinside hout := h.nothing hinside (hsigned hinside hout)
  nothingFound hadds hplace hout := h.nothingFound hadds hplace (hlocked hout)

section Step

variable {token : String} {w : World Request Reply} {i : Nat} {request : Request} {step : Step}
  {next : step.Answer → Flow Reply} {failed : StoreError → Flow Reply} {held : List String}
  {stand : Stand} {answer : step.Answer} {progress : Progress} {server : Server} {found : Bool}

/-- What an operation knows under the lock after a step covers what is
there: it covered it before, or the step got the lock. -/
theorem Standing.covers_after (hsound : Sound token w)
    (h : Standing token w i ⟨request, .step step next failed, held⟩ stand)
    (hfound : found = true ↔ ¬ SignedOut token w.past)
    (hrun : step.run .fair none {} w.server = .ok (answer, progress, server))
    (hinside : (stand.after token found step).place = .inside) :
    Covers token server (stand.after token found step) := by
  by_cases hlock : step = .lock token
  · -- Who gets the lock of a token that is signed out may take it for gone.
    subst hlock
    cases hrun
    rw [Stand.after_lock]
    refine ⟨fun hentry => hfound.2 fun hout => ?_, fun hrow => hfound.2 fun hout => ?_⟩
    · rw [(hsound.absent hout).1] at hentry
      cases hentry
    · rw [(hsound.absent hout).2] at hrow
      cases hrow
  · have hbefore := h.covers ((Stand.inside_after hinside).resolve_left hlock)
    exact (ensures_covers hbefore hlock).answered Weather.clear_fair hrun

/-- Under the lock of a token that is signed out, nothing is there after a
step either. -/
theorem Standing.nothing_after
    (h : Standing token w i ⟨request, .step step next failed, held⟩ stand)
    (hfound : SignedOut token w.past → found = false)
    (hfollows : (next answer).Follows (guarded token request.adds) (request.Ends token)
      (stand.after token found step))
    (hinside : (stand.after token found step).place = .inside)
    (hout : SignedOut token (.took i request step answer (next answer).end? :: w.past)) :
    (stand.after token found step).entry = false ∧
      (stand.after token found step).row = false := by
  -- A removal at its end has left the lock, so it was signed out before.
  have hsigns : ¬ SignsOut token (.took i request step answer (next answer).end?) := by
    intro hsigns
    cases hinside.symm.trans (leaving_of_signsOut hfollows hsigns).1
  obtain ⟨hwrites, hbefore⟩ := hout.earlier hsigns
  by_cases hlock : step = .lock token
  · subst hlock
    rw [Stand.after_lock]
    exact ⟨hfound hbefore, hfound hbefore⟩
  · obtain ⟨hentry, hrow⟩ := h.nothing ((Stand.inside_after hinside).resolve_left hlock) hbefore
    exact Stand.nothing_after h.follows.1 hentry hrow hlock
      fun session heq htoken => hwrites (heq ▸ htoken)

/-- Who adds nothing and got the lock of a token that was signed out finds
nothing with a step either. -/
theorem Standing.nothingFound_after
    (h : Standing token w i ⟨request, .step step next failed, held⟩ stand)
    (hfound : SignedOut token w.past → found = false) (hadds : request.adds = false)
    (hplace : (stand.after token found step).place ≠ .outside)
    (hlocked : LockedSignedOut i token (.took i request step answer (next answer).end? :: w.past)) :
    (stand.after token found step).entry = false ∧
      (stand.after token found step).row = false := by
  rcases hlocked with ⟨hgets, hout⟩ | ⟨hgets, hlocked⟩
  · cases step with
    | lock locked =>
      obtain ⟨-, rfl⟩ := hgets
      rw [Stand.after_lock]
      exact ⟨hfound hout, hfound hout⟩
    | _ => cases hgets
  · have hlock : step ≠ .lock token := by
      rintro rfl
      exact hgets ⟨rfl, rfl⟩
    have hinside := (Stand.inside_of_ne_outside h.follows.1 hplace).resolve_left hlock
    obtain ⟨hentry, hrow⟩ := h.nothingFound hadds (by rw [hinside]; decide) hlocked
    refine Stand.nothing_after h.follows.1 hentry hrow hlock ?_
    intro session heq htoken
    subst heq
    cases hadds.symm.trans (h.follows.1 htoken).2

/-- An operation that takes a step knows after it what it has to know. When
it gives the lock back, this still covers what is there. -/
theorem Standing.after_step (hsound : Sound token w)
    (h : Standing token w i ⟨request, .step step next failed, held⟩ stand)
    (hrun : step.run .fair none {} w.server = .ok (answer, progress, server))
    (tasks : Nat → Option (Task Request Reply)) :
    ∃ stand', Standing token
        ⟨server, tasks, .took i request step answer (next answer).end? :: w.past⟩ i
        ⟨request, next answer, step.heldAfter held⟩ stand' ∧
      (stand'.place = .leaving → token ∈ held ∧ Covers token server stand') := by
  obtain ⟨found, hfound⟩ : ∃ found : Bool, found = true ↔ ¬ SignedOut token w.past := by
    by_cases hout : SignedOut token w.past
    · exact ⟨false, by simp [hout]⟩
    · exact ⟨true, by simp [hout]⟩
  have hnothing (hout : SignedOut token w.past) : found = false :=
    Bool.eq_false_iff.2 fun htrue => hfound.1 htrue hout
  obtain ⟨hallows, hnext⟩ := h.follows
  have hfollows : (next answer).Follows (guarded token request.adds) (request.Ends token)
      (stand.after token found step) :=
    hnext answer _ ⟨(ensures_expected hsound.entries hsound.rows h.covers).answered
      Weather.clear_fair hrun, found, rfl⟩
  refine ⟨stand.after token found step, ⟨hfollows, Stand.held_after h.held,
    h.covers_after hsound hfound hrun, h.nothing_after hnothing hfollows,
    h.nothingFound_after hnothing⟩, fun hleaving => ?_⟩
  obtain ⟨hinside, hunlock⟩ := Stand.inside_of_leaving hallows hleaving
  have hlock : step ≠ .lock token := by
    rw [hunlock]
    exact nofun
  exact ⟨h.held.1 hinside,
    (ensures_covers (h.covers hinside) hlock).answered Weather.clear_fair hrun⟩

end Step

/-- An operation that puts the token into the cache or writes its row anew
holds its lock. -/
theorem Standing.holds_of_puts {token : String} {w : World Request Reply} {i : Nat}
    {request : Request} {step : Step} {next : step.Answer → Flow Reply}
    {failed : StoreError → Flow Reply} {held : List String} {stand : Stand}
    (h : Standing token w i ⟨request, .step step next failed, held⟩ stand)
    (hputs : (∃ entry, step = .remember entry ∧ entry.session.token = token) ∨
      ∃ session, step = .call (.upsertSession session) ∧ session.token = token) :
    token ∈ held := by
  refine h.held.1 ?_
  rcases hputs with ⟨entry, rfl, htoken⟩ | ⟨session, rfl, htoken⟩
  · exact (h.follows.1 htoken).1
  · exact (h.follows.1 htoken).1

/-! ### The world -/

/-- Who holds a lock after a step held it before or got it with the step. -/
theorem mem_of_heldAfter {token : String} {held : List String} {step : Step}
    (h : token ∈ step.heldAfter held) : token ∈ held ∨ step = .lock token := by
  cases step with
  | lock locked =>
    rcases List.mem_cons.1 h with rfl | hmem
    · exact .inr rfl
    · exact .inl hmem
  | unlock unlocked => exact .inl (List.mem_filter.1 h).1
  | call | lookUp | peek | remember | forget | listStale | readClock | drawId => exact .inl h

/-- Only a task itself gets a lock. -/
theorem not_getsLock {i j : Nat} {token : String} {request : Request} {step : Step}
    {answer : step.Answer} {end? : Option (Except Stop Reply)} (h : j ≠ i) :
    ¬ GetsLock j token (.took i request step answer end?) := by
  cases step with
  | lock locked => exact fun hgets => h hgets.1.symm
  | call | lookUp | peek | remember | forget | listStale | readClock | drawId | unlock => exact id

namespace Sound

variable {token : String} {w : World Request Reply} {i : Nat} {request : Request} {step : Step}
  {next : step.Answer → Flow Reply} {failed : StoreError → Flow Reply} {held : List String}
  {answer : step.Answer} {progress : Progress} {server : Server} {stand stand' : Stand}

/-- One operation at most holds the lock after a step: it held it before,
or it found it free. -/
theorem exclusive_take {stripe : String → Nat} (h : Sound token w)
    (htask : w.tasks i = some ⟨request, .step step next failed, held⟩)
    (hfree : ∀ locked, step = .lock locked → w.Free stripe locked) {j k : Nat}
    {task task' : Task Request Reply}
    (hj : w.withTask i (World.goesOn ⟨request, next answer, step.heldAfter held⟩) j = some task)
    (hk : w.withTask i (World.goesOn ⟨request, next answer, step.heldAfter held⟩) k = some task')
    (hheld : token ∈ task.held) (hheld' : token ∈ task'.held) : j = k := by
  -- Who holds the lock after the step held it before or has just got it.
  have hholds {j : Nat} {task : Task Request Reply}
      (hj : w.withTask i (World.goesOn ⟨request, next answer, step.heldAfter held⟩) j = some task)
      (hheld : token ∈ task.held) :
      (∃ before, w.tasks j = some before ∧ token ∈ before.held) ∨ (j = i ∧ step = .lock token) := by
    rcases World.of_withTask hj with ⟨rfl, hgoes⟩ | ⟨-, hold⟩
    · rw [World.eq_of_goesOn hgoes] at hheld
      rcases mem_of_heldAfter hheld with hmem | hlock
      · exact .inl ⟨_, htask, hmem⟩
      · exact .inr ⟨rfl, hlock⟩
    · exact .inl ⟨task, hold, hheld⟩
  rcases hholds hj hheld with ⟨before, hbefore, hmem⟩ | ⟨rfl, hlock⟩
  · rcases hholds hk hheld' with ⟨before', hbefore', hmem'⟩ | ⟨rfl, hlock⟩
    · exact h.exclusive j k before before' hbefore hbefore' hmem hmem'
    · exact absurd rfl (hfree token hlock j before hbefore token hmem)
  · rcases hholds hk hheld' with ⟨before', hbefore', hmem'⟩ | ⟨rfl, -⟩
    · exact absurd rfl (hfree token hlock k before' hbefore' token hmem')
    · rfl

/-- Another operation still knows what it has to know after a step: if it is
under the lock, nothing was put in or written and no removal came to its
end. -/
theorem still_take (hstand : Standing token w i ⟨request, .step step next failed, held⟩ stand)
    (hends : SignsOut token (.took i request step answer (next answer).end?) → token ∈ held)
    (hrun : step.run .fair none {} w.server = .ok (answer, progress, server))
    (tasks : Nat → Option (Task Request Reply)) {j : Nat} {task : Task Request Reply}
    (hne : j ≠ i) (h : Standing token w j task stand')
    (hnot : stand'.place = .inside → token ∉ held) :
    Standing token ⟨server, tasks, .took i request step answer (next answer).end? :: w.past⟩ j
      task stand' := by
  have hentry := (ensures_entry token step w.server).answered Weather.clear_fair hrun
  have hrow := (ensures_row token step w.server).answered Weather.clear_fair hrun
  -- Who puts something in or writes it holds the lock, so not while another does.
  refine h.still (fun hinside hcovers => ⟨fun hafter => ?_, fun hafter => ?_⟩)
    (fun hinside hout => ?_) fun hlocked => hlocked.earlier (not_getsLock hne)
  · have hput : ¬ ∃ entry, step = .remember entry ∧ entry.session.token = token :=
      fun hput => hnot hinside (hstand.holds_of_puts (.inl hput))
    exact hcovers.entry ((hentry hafter).resolve_right hput).1
  · have hput : ¬ ∃ session, step = .call (.upsertSession session) ∧ session.token = token :=
      fun hput => hnot hinside (hstand.holds_of_puts (.inr hput))
    exact hcovers.row ((hrow hafter).resolve_right hput).1
  · exact (hout.earlier fun hsigns => hnot hinside (hends hsigns)).2

/-- A token that is signed out after a step is nowhere: it was nowhere
before, or its removal left nothing. -/
theorem absent_take (h : Sound token w)
    (hstand : Standing token w i ⟨request, .step step next failed, held⟩ stand)
    (hleft : SignsOut token (.took i request step answer (next answer).end?) →
      Covers token server stand' ∧ stand'.entry = false ∧ stand'.row = false)
    (hrun : step.run .fair none {} w.server = .ok (answer, progress, server))
    (hout : SignedOut token (.took i request step answer (next answer).end? :: w.past)) :
    server.cache.peek token = none ∧ server.database.sessions.get? token = none := by
  by_cases hends : SignsOut token (.took i request step answer (next answer).end?)
  · obtain ⟨hcovers, hnoEntry, hnoRow⟩ := hleft hends
    refine ⟨Option.not_isSome_iff_eq_none.1 fun hafter => ?_,
      Option.not_isSome_iff_eq_none.1 fun hafter => ?_⟩
    · cases hnoEntry.symm.trans (hcovers.entry hafter)
    · cases hnoRow.symm.trans (hcovers.row hafter)
  obtain ⟨hwrites, hbefore⟩ := hout.earlier hends
  obtain ⟨hnoEntry, hnoRow⟩ := h.absent hbefore
  refine ⟨Option.not_isSome_iff_eq_none.1 fun hafter => ?_,
    Option.not_isSome_iff_eq_none.1 fun hafter => ?_⟩
  · rcases (ensures_entry token step w.server).answered Weather.clear_fair hrun hafter with
      ⟨hold, -⟩ | ⟨entry, rfl, htoken⟩
    · rw [hnoEntry] at hold
      cases hold
    · obtain ⟨hinside, hmay⟩ := hstand.follows.1 htoken
      obtain ⟨hentry, hrow⟩ := hstand.nothing hinside hbefore
      rw [hentry, hrow] at hmay
      cases hmay <;> contradiction
  · rcases (ensures_row token step w.server).answered Weather.clear_fair hrun hafter with
      ⟨hold, -⟩ | ⟨session, rfl, htoken⟩
    · rw [hnoRow] at hold
      cases hold
    · exact hwrites htoken

/-- The sessions are in order after a step of an operation. -/
theorem take {stripe : String → Nat} (h : Sound token w)
    (htask : w.tasks i = some ⟨request, .step step next failed, held⟩)
    (hfree : ∀ locked, step = .lock locked → w.Free stripe locked)
    (hrun : step.run .fair none {} w.server = .ok (answer, progress, server)) :
    Sound token
      ⟨server, w.withTask i (World.goesOn ⟨request, next answer, step.heldAfter held⟩),
        .took i request step answer (next answer).end? :: w.past⟩ := by
  obtain ⟨stand, hstand⟩ := h.standing i _ htask
  obtain ⟨stand', hstand', hleaving⟩ := hstand.after_step h hrun
    (w.withTask i (World.goesOn ⟨request, next answer, step.heldAfter held⟩))
  have hsigns (hsigns : SignsOut token (.took i request step answer (next answer).end?)) :=
    leaving_of_signsOut hstand'.follows hsigns
  refine ⟨(ensures_entriesKeyed h.entries).answered Weather.clear_fair hrun,
    (ensures_rowsKeyed h.rows).answered Weather.clear_fair hrun, ?_, ?_, ?_, ?_⟩
  · exact fun j k task task' => h.exclusive_take htask hfree
  · intro j task hj
    rcases World.of_withTask hj with ⟨rfl, hgoes⟩ | ⟨hne, hold⟩
    · rw [World.eq_of_goesOn hgoes]
      exact ⟨stand', hstand'⟩
    · obtain ⟨other, hother⟩ := h.standing j task hold
      exact ⟨other, still_take hstand (fun hends => (hleaving (hsigns hends).1).1) hrun _ hne
        hother fun hinside hmem =>
          hne (h.exclusive j i task _ hold htask (hother.held.1 hinside) hmem)⟩
  · exact h.absent_take hstand
      (fun hends => ⟨(hleaving (hsigns hends).1).2, (hsigns hends).2⟩) hrun
  · intro j step' answer' result earlier hsuffix hlocked
    rcases List.suffix_cons_iff.1 hsuffix with heq | hsuffix
    · -- The look-up has ended with this step, and found what it knew of.
      rw [heq] at hlocked
      obtain ⟨hhead, -⟩ := List.cons.inj heq
      injection hhead with hi hrequest hstep hanswer hend
      subst hi hrequest
      obtain ⟨hplace, hfound⟩ := hstand'.follows.of_end hend.symm rfl
      obtain ⟨hentry, hrow⟩ := hstand'.nothingFound rfl hplace hlocked
      exact hfound hentry hrow
    · exact h.answers j step' answer' result earlier hsuffix hlocked

/-- The sessions are in order when a task comes or goes. Who is under way
then was so before, or has just come and holds no lock. -/
theorem idle (h : Sound token w) {tasks : Nat → Option (Task Request Reply)}
    {happening : Happening Request Reply}
    (htook : ∀ i request step answer end?, happening ≠ .took i request step answer end?)
    (htasks : ∀ j task, tasks j = some task → w.tasks j = some task ∨
      (task.held = [] ∧
        task.rest.Follows (guarded token task.request.adds) (task.request.Ends token) .initial)) :
    Sound token ⟨w.server, tasks, happening :: w.past⟩ := by
  have hpast : ¬ SignsOut token happening ∧ ∀ i, ¬ GetsLock i token happening := by
    cases happening with
    | took i request step answer end? => exact absurd rfl (htook i request step answer end?)
    | arrived | failed | left => exact ⟨id, fun _ => id⟩
  have hold {j : Nat} {task : Task Request Reply} (hj : tasks j = some task)
      (hheld : token ∈ task.held) : w.tasks j = some task := by
    rcases htasks j task hj with hold | ⟨hnone, -⟩
    · exact hold
    · rw [hnone] at hheld
      cases hheld
  refine ⟨h.entries, h.rows, fun j k task task' hj hk hheld hheld' => ?_, fun j task hj => ?_,
    fun hout => h.absent (hout.earlier hpast.1).2, fun j step answer result earlier hsuffix => ?_⟩
  · exact h.exclusive j k task task' (hold hj hheld) (hold hk hheld') hheld hheld'
  · rcases htasks j task hj with hold | ⟨hnone, hfollows⟩
    · obtain ⟨stand, hstand⟩ := h.standing j task hold
      exact ⟨stand, hstand.still (fun _ => id) (fun _ hout => (hout.earlier hpast.1).2)
        fun hlocked => hlocked.earlier (hpast.2 j)⟩
    · refine ⟨.initial, hfollows, ?_, nofun, nofun, fun _ hplace => absurd rfl hplace⟩
      rw [hnone]
      exact ⟨nofun, nofun⟩
  · rcases List.suffix_cons_iff.1 hsuffix with heq | hsuffix
    · exact absurd (List.cons.inj heq).1.symm (htook j _ _ _ _)
    · exact h.answers j step answer result earlier hsuffix

/-- The sessions are in order after every move. -/
theorem move {stripe : String → Nat} {ttl : Duration} {w w' : World Request Reply}
    (h : Sound token w) (hfailStop : w.FailStop)
    (hmove : World.Moves stripe (Request.flow ttl) w w') : Sound token w' := by
  cases hmove with
  | take htask hfree hrun => exact h.take htask hfree hrun
  | arrive i request hfree =>
    refine h.idle (fun _ _ _ _ _ => nofun) ?_
    intro j task hj
    rcases World.of_withTask hj with ⟨-, hnew⟩ | ⟨-, hold⟩
    · cases hnew
      exact .inr ⟨rfl, request.follows token ttl⟩
    · exact .inl hold
  | fail error htask =>
    -- The operation does not go on with the error.
    rw [hfailStop.failed_eq htask error]
    exact h.idle (fun _ _ _ _ _ => nofun) fun j task hj => .inl (World.of_withTask_none hj).2
  | leave htask =>
    exact h.idle (fun _ _ _ _ _ => nofun) fun j task hj => .inl (World.of_withTask_none hj).2
  | restart capacity =>
    refine ⟨entriesKeyed_ofCapacity capacity, h.rows, fun _ _ _ _ hj => ?_, fun _ _ hj => ?_,
      fun hout => ⟨rfl, (h.absent hout).2⟩, h.answers⟩
    · cases hj
    · cases hj
  | setClock clock =>
    refine ⟨h.entries, h.rows, h.exclusive, fun j task hj => ?_, h.absent, h.answers⟩
    obtain ⟨stand, hstand⟩ := h.standing j task hj
    exact ⟨stand, hstand.still (fun _ hcovers => ⟨hcovers.entry, hcovers.row⟩) (fun _ => id) id⟩
  | edit database hsessions hcodes =>
    refine ⟨h.entries, ?_, h.exclusive, fun j task hj => ?_, fun hout => ?_, h.answers⟩
    · intro looked row session hrow
      rw [hsessions] at hrow
      exact h.rows looked row session hrow
    · obtain ⟨stand, hstand⟩ := h.standing j task hj
      refine ⟨stand, hstand.still (fun _ hcovers => ⟨hcovers.entry, fun hrow => ?_⟩)
        (fun _ => id) id⟩
      rw [hsessions] at hrow
      exact hcovers.row hrow
    · rw [hsessions]
      exact h.absent hout

end Sound

/-- Whatever operations are under way, in whichever order their steps come
and whichever of them are abandoned: as long as a token is signed out,
neither the cache nor the table has it, and a look-up that got the lock of
the token in that time finds nothing. An operation one of whose calls fails
ends with the error, and finds nothing either. -/
theorem stays_signed_out {stripe : String → Nat} {ttl : Duration} {database : Database}
    {capacity : Nat} {clock : Int} {w : World Request Reply} (hkeyed : database.SessionsKeyed)
    (h : World.Reaches stripe (Request.flow ttl)
      (.start ⟨database, .ofCapacity capacity, clock, 0⟩) w) (token : String) :
    (SignedOut token w.past →
      w.server.cache.peek token = none ∧ w.server.database.sessions.get? token = none) ∧
    (∀ i step answer result earlier,
      .took i (.get token) step answer (some result) :: earlier <:+ w.past →
        LockedSignedOut i token (.took i (.get token) step answer (some result) :: earlier) →
          result = .ok (.found none)) ∧
    ∀ i request call error ended, .failed i request call error ended ∈ w.past →
      ended = some (.error (.refused (.ofStore error))) := by
  have hsound : Sound token w := by
    refine h.invariant_of_failStop (Request.failStop ttl) (World.failStop_start _)
      ⟨entriesKeyed_ofCapacity capacity, hkeyed, fun _ _ _ _ hj => ?_, fun _ _ hj => ?_,
        False.elim, fun _ _ _ _ _ hsuffix => ?_⟩ fun hfailStop hsound hmove =>
          hsound.move hfailStop hmove
    · cases hj
    · cases hj
    · cases List.suffix_nil.1 hsuffix
  exact ⟨hsound.absent, hsound.answers, fun _ _ _ _ _ =>
    (World.failStop_start _).ends (Request.failStop ttl) rfl h⟩

/-- A look-up comes before the session is added and waits. Then the session
is added and removed, and the look-up goes on. -/
theorem stays_signed_out_of_waiting :
    ∃ w : World Request Reply,
      World.Reaches (fun _ => 0) (Request.flow 0) (.start ⟨{}, .ofCapacity 1, 0, 0⟩) w ∧
      SignedOut "token" w.past ∧ w.server.cache.peek "token" = none ∧
      w.server.database.sessions.get? "token" = none ∧
      ∃ step answer result earlier,
        w.past = .took 1 (.get "token") step answer (some result) :: earlier ∧
          LockedSignedOut 1 "token" w.past ∧ result = .ok (.found none) := by
  -- When an operation arrives that holds nothing, all locks are free.
  have hfree {w : World Request Reply} {task : Task Request Reply} (hheld : task.held = [])
      (hwaits : ∀ j, j ≠ 0 → w.tasks j =
        if j = 1 then some ⟨.get "token", Request.flow 0 (.get "token"), []⟩ else none) :
      ∀ i task', w.withTask 0 (some task) i = some task' → task'.held = [] := by
    intro i task' hi
    rcases World.of_withTask hi with ⟨-, hnew⟩ | ⟨hne, hold⟩
    · cases hnew
      exact hheld
    · rw [hwaits i hne] at hold
      split at hold
      · cases hold
        rfl
      · cases hold
  have harrived : World.Reaches (fun _ => 0) (Request.flow 0)
    (.start ⟨{}, .ofCapacity 1, 0, 0⟩) _ := .move .start (.arrive 1 (.get "token") rfl)
  -- The addition: the lock, the row, the entry.
  have hadds := harrived.move (.arrive 0 (.add { (default : Session) with token := "token" }) rfl)
  have hadds := hadds.take 0 (by rfl)
    (fun token _ => World.free_of_held token (hfree rfl fun j hj => rfl)) (by rfl)
  have hadds := hadds.take 0 (by rfl) (fun _ h => by cases h) (by rfl)
  have hadds := hadds.take 0 (by rfl) (fun _ h => by cases h) (by rfl)
  have hadded := hadds.take 0 (by rfl) (fun _ h => by cases h) (by rfl)
  -- The removal: the lock, the entry, the row.
  have hremoves := hadded.move (.arrive 0 (.remove "token") (by rfl))
  have hremoves := hremoves.take 0 (by rfl)
    (fun token _ => World.free_of_held token (hfree rfl fun j hj => by
      simp only [World.withTask, if_neg hj]
      rfl)) (by rfl)
  have hremoves := hremoves.take 0 (by rfl) (fun _ h => by cases h) (by rfl)
  have hremoves := hremoves.take 0 (by rfl) (fun _ h => by cases h) (by rfl)
  have hremoved := hremoves.take 0 (by rfl) (fun _ h => by cases h) (by rfl)
  -- The look-up: the lock, the cache, the table.
  have hlooks := hremoved.take 1 (by rfl) (fun token _ => World.free_of_held token (by
    intro i task hi
    by_cases hzero : i = 0
    · rw [hzero] at hi
      cases hi
    · simp only [World.withTask, if_neg hzero] at hi
      split at hi
      · cases hi
        rfl
      · cases hi)) (by rfl)
  have hlooks := hlooks.take 1 (by rfl) (fun _ h => by cases h) (by rfl)
  have hlooks := hlooks.take 1 (by rfl) (fun _ h => by cases h) (by rfl)
  have hlooked := hlooks.take 1 (by rfl) (fun _ h => by cases h) (by rfl)
  obtain ⟨habsent, hanswers, -⟩ := stays_signed_out (by intro _ _ _ h; cases h) hlooked "token"
  have hout := habsent (.inr ⟨id, .inr ⟨id, .inr ⟨id, .inr ⟨id, .inl rfl⟩⟩⟩⟩)
  refine ⟨_, hlooked, .inr ⟨id, .inr ⟨id, .inr ⟨id, .inr ⟨id, .inl rfl⟩⟩⟩⟩, hout.1, hout.2,
    _, _, _, _, rfl, ?_, ?_⟩
  · exact .inr ⟨id, .inr ⟨id, .inr ⟨id, .inl ⟨⟨rfl, rfl⟩, .inl rfl⟩⟩⟩⟩
  · exact hanswers 1 _ _ _ _ List.suffix_rfl
      (.inr ⟨id, .inr ⟨id, .inr ⟨id, .inl ⟨⟨rfl, rfl⟩, .inl rfl⟩⟩⟩⟩)

end Gatekeeper.SessionStore

import Gatekeeper.Proofs.Session.Cache
import Gatekeeper.Server

/-!
# `Gatekeeper.Proofs.Session.Recency`: which sessions the cache keeps

The cache is used over and over: entries are put into it, looked up with
and without effect on the order, and taken out, and the tokens for a sweep
are listed. After each use it has to be what a bounded map of the most
recently used sessions is.

It is compared with a reference that knows nothing of entries and of cuts.
`recency room uses` is a list of tokens alone: a token that is put or found
moves to the front, and if there is no room for a new token, the one at the
back goes. `lastPut? uses token` reads the entry of a token off what was
put. That the list of the reference is in order of use, with the times of
use counted in the history itself (`idle`), is part of the result.

`tokens_use` is the step: one use does to the tokens of a tidy cache what
it does to the list of the reference. `Reached` is what the steps keep, and
`keeps_recent` is the result for every capacity and every history. A
capacity of none is a capacity of one. `Server.cache_perform` says that an
operation of the server, in whatever weather, is nothing but such uses to
the cache.
-/

set_option autoImplicit false

namespace Gatekeeper

namespace SessionCache

/-- A use of the cache. -/
inductive Use where
  /-- Puts an entry in. -/
  | put (entry : CachedSession)
  /-- Looks a token up and makes it the most recently used. -/
  | get (token : String)
  /-- Looks a token up. -/
  | peek (token : String)
  /-- Takes a token out. -/
  | remove (token : String)
  /-- Lists the tokens that a sweep has to look at. -/
  | listStale (time : Timestamp)

/-- The cache after a use. -/
def use (c : SessionCache) : Use → SessionCache
  | .put entry => c.put entry
  | .get token => (c.get token).2
  | .remove token => c.erase token
  | .peek _ | .listStale _ => c

/-- The cache after many uses. -/
def after (c : SessionCache) (uses : List Use) : SessionCache := uses.foldl use c

/-- The tokens, most recently used first. -/
def tokens (c : SessionCache) : List String := c.entries.map (·.1)

/-! ### The reference -/

/-- The tokens that are kept after a use, most recently used first, where
there is room for so many. -/
def reorder (room : Nat) (order : List String) : Use → List String
  | .put entry =>
    let token := entry.session.token
    if token ∈ order then token :: order.erase token
    else if order.length < room then token :: order
    else token :: order.dropLast
  | .get token => if token ∈ order then token :: order.erase token else order
  | .remove token => order.erase token
  | .peek _ | .listStale _ => order

/-- The tokens that are kept after many uses, when there was none before. -/
def recency (room : Nat) (uses : List Use) : List String := uses.foldl (reorder room) []

/-- The entry that a use puts in for a token. -/
def Use.entryFor? (token : String) : Use → Option CachedSession
  | put entry => if entry.session.token = token then some entry else none
  | _ => none

/-- The entry that was put in last for a token. -/
def lastPut? (uses : List Use) (token : String) : Option CachedSession :=
  (uses.filterMap (·.entryFor? token)).getLast?

/-- Whether a use puts a token in, or looks it up with effect on the order. -/
def Use.touches (token : String) : Use → Bool
  | put entry => entry.session.token == token
  | get other => other == token
  | _ => false

/-- How many uses came after the last one that touched a token. -/
def idle (uses : List Use) (token : String) : Nat := uses.reverse.findIdx (·.touches token)

/-- Of any two tokens in the list, the one in front was touched later. -/
def InOrderOfUse (uses : List Use) (order : List String) : Prop :=
  order.Pairwise fun front back => idle uses front < idle uses back

/-- After a history the cache is a map of the most recently used sessions,
with room for so many. -/
structure KeepsRecent (room : Nat) (uses : List Use) (c : SessionCache) : Prop where
  /-- It has the tokens of the reference, in the same order. -/
  order : c.tokens = recency room uses
  /-- No token stands twice. -/
  distinct : c.tokens.Nodup
  /-- There are no more entries than there is room for. -/
  bounded : c.size ≤ room
  /-- They stand in the order in which they were put in or looked up last. -/
  recent : InOrderOfUse uses c.tokens
  /-- Each entry stands under the token of its session. -/
  keyed : ∀ token entry, (token, entry) ∈ c.entries → entry.session.token = token
  /-- Both look-ups find the entry that was put in last, if the token is kept. -/
  latest : ∀ token, (c.get token).1 = c.peek token ∧
    c.peek token = if token ∈ recency room uses then lastPut? uses token else none
  /-- The tokens for a sweep are listed in order, each once. -/
  listed : ∀ time, (c.staleTokens time).Sublist c.tokens ∧ (c.staleTokens time).Nodup
  /-- They are those of the entries that are expired or whose row lags behind. -/
  stale : ∀ time token, token ∈ c.staleTokens time ↔ ∃ entry, c.peek token = some entry ∧
    (entry.session.expiresAt ≤ time ∨ entry.persistedUntil < entry.session.expiresAt)

/-! ### The history, one use longer -/

section
variable {token other : String} {uses : List Use} {use : Use}

theorem recency_append (room : Nat) (uses : List Use) (use : Use) :
    recency room (uses ++ [use]) = reorder room (recency room uses) use := by
  unfold recency
  rw [List.foldl_append]
  rfl

/-- An entry that is put in is the last one for its token. -/
theorem lastPut?_append_put (uses : List Use) (entry : CachedSession) :
    lastPut? (uses ++ [.put entry]) entry.session.token = some entry := by
  simp [lastPut?, Use.entryFor?]

/-- A use that puts in nothing for a token leaves the last entry for it. -/
theorem lastPut?_append (h : use.entryFor? token = none) :
    lastPut? (uses ++ [use]) token = lastPut? uses token := by
  simp [lastPut?, h]

/-- What was put in for a token bears it. -/
theorem token_of_lastPut? {entry : CachedSession} (h : lastPut? uses token = some entry) :
    entry.session.token = token := by
  obtain ⟨use, -, hentry⟩ := List.mem_filterMap.1 (List.mem_of_getLast? h)
  cases use with
  | put put =>
    obtain ⟨htoken, hput⟩ := Option.ite_none_right_eq_some.1 hentry
    exact Option.some.inj hput ▸ htoken
  | get | peek | remove | listStale => cases hentry

/-- A token that was just touched has not been idle. -/
theorem idle_append_of_touches (h : use.touches token = true) : idle (uses ++ [use]) token = 0 := by
  simp [idle, List.findIdx_cons, h]

/-- Another token has been idle for one more use. -/
theorem idle_append_of_not_touches (h : use.touches token = false) :
    idle (uses ++ [use]) token = idle uses token + 1 := by
  simp [idle, List.findIdx_cons, h]

end

/-! ### One use -/

theorem length_tokens (c : SessionCache) : c.tokens.length = c.size := List.length_map _

/-- The tokens are those that a look-up finds. -/
theorem mem_tokens {c : SessionCache} {token : String} :
    token ∈ c.tokens ↔ ∃ entry, c.peek token = some entry := by
  constructor
  · intro hmem
    obtain ⟨⟨key, value⟩, hentry, rfl⟩ := List.mem_map.1 hmem
    cases hpeek : c.peek key with
    | some entry => exact ⟨entry, rfl⟩
    | none => exact absurd hentry (by simpa using List.lookup_eq_none_iff.1 hpeek (key, value))
  · rintro ⟨entry, hpeek⟩
    exact List.mem_map.2 ⟨_, mem_entries_of_peek hpeek, rfl⟩

@[simp] theorem capacity_use (c : SessionCache) (use : Use) :
    (c.use use).capacity = c.capacity := by
  cases use with
  | get token => exact c.capacity_get token
  | put | peek | remove | listStale => rfl

theorem Tidy.use {c : SessionCache} (h : c.Tidy) (use : Use) : (c.use use).Tidy := by
  cases use with
  | put entry => exact h.put entry
  | get token => exact h.get token
  | remove token => exact h.erase token
  | peek | listStale => exact h

theorem tokens_erase {c : SessionCache} (h : c.Tidy) (token : String) :
    (c.erase token).tokens = c.tokens.erase token := by
  show _ = (c.entries.map (·.1)).erase token
  rw [h.distinct.erase_eq_filter, List.filter_map]
  rfl

/-- An entry that is put in stands in front, and what finds no room behind it
is cut off. -/
theorem tokens_put {c : SessionCache} (h : c.Tidy) (entry : CachedSession) :
    (c.put entry).tokens =
      (entry.session.token :: c.tokens.erase entry.session.token).take c.capacity := by
  rw [← tokens_erase h]
  exact List.map_take

theorem tokens_get {c : SessionCache} (h : c.Tidy) (token : String) :
    (c.get token).2.tokens =
      if token ∈ c.tokens then token :: c.tokens.erase token else c.tokens := by
  unfold get
  split
  next entry hpeek =>
    rw [if_pos (mem_tokens.2 ⟨entry, hpeek⟩), ← tokens_erase h]
    rfl
  next hpeek =>
    rw [if_neg]
    intro hmem
    obtain ⟨entry, hsome⟩ := mem_tokens.1 hmem
    cases hpeek.symm.trans hsome

/-- One use does to the tokens what it does to the list of the reference. -/
theorem tokens_use {c : SessionCache} (h : c.Tidy) (use : Use) :
    (c.use use).tokens = reorder c.capacity c.tokens use := by
  cases use with
  | get token => exact tokens_get h token
  | remove token => exact tokens_erase h token
  | peek | listStale => rfl
  | put entry =>
    have hfits : c.tokens.length ≤ c.capacity := c.length_tokens ▸ h.fits
    obtain ⟨room, hroom⟩ := Nat.exists_eq_succ_of_ne_zero (Nat.ne_of_gt h.room)
    show (c.put entry).tokens = if entry.session.token ∈ c.tokens then _ else _
    rw [tokens_put h]
    generalize entry.session.token = token
    by_cases hmem : token ∈ c.tokens
    · -- The token leaves its place, so there is room in front.
      rw [if_pos hmem]
      refine List.take_of_length_le ?_
      have hpos := List.length_pos_of_mem hmem
      rw [List.length_cons, List.length_erase_of_mem hmem]
      omega
    · rw [if_neg hmem, List.erase_of_not_mem hmem]
      split
      next hfree => exact List.take_of_length_le hfree
      next hfull =>
        rw [hroom, List.take_succ_cons, List.dropLast_eq_take]
        refine congrArg (fun kept => token :: c.tokens.take kept) ?_
        omega

/-- An entry that is found after a use was put in by it or found before. -/
theorem peek_use {c : SessionCache} {use : Use} {token : String} {entry : CachedSession}
    (h : (c.use use).peek token = some entry) :
    (use = .put entry ∧ entry.session.token = token) ∨
      (use.entryFor? token = none ∧ c.peek token = some entry) := by
  cases use with
  | put put =>
    by_cases htoken : token = put.session.token
    · subst htoken
      rcases c.peek_put_self put with hnone | hsome
      · cases hnone.symm.trans h
      · cases hsome.symm.trans h
        exact .inl ⟨rfl, rfl⟩
    · refine .inr ⟨if_neg (Ne.symm htoken), ?_⟩
      rcases c.peek_put_of_ne put htoken with hnone | hsame
      · cases hnone.symm.trans h
      · exact hsame.symm.trans h
  | get other => exact .inr ⟨rfl, (c.peek_get other token).symm.trans h⟩
  | remove other =>
    have hpeek := c.peek_erase other token
    rw [show (c.erase other).peek token = some entry from h] at hpeek
    split at hpeek
    · cases hpeek
    · exact .inr ⟨rfl, hpeek.symm⟩
  | peek | listStale => exact .inr ⟨rfl, h⟩

/-- A sweep is told of the tokens whose entries are expired or have a row that
lags behind. -/
theorem mem_staleTokens_iff {c : SessionCache} (h : c.Tidy) {time : Timestamp} {token : String} :
    token ∈ c.staleTokens time ↔ ∃ entry, c.peek token = some entry ∧
      (entry.session.expiresAt ≤ time ∨ entry.persistedUntil < entry.session.expiresAt) := by
  have hstale (entry : CachedSession) : entry.isStale time = true ↔
      entry.session.expiresAt ≤ time ∨ entry.persistedUntil < entry.session.expiresAt := by
    simp [CachedSession.isStale, CachedSession.isPending, Session.isExpired]
  simp [staleTokens, ← h.mem_entries_iff, hstale]

/-! ### The order of use -/

section
variable {order : List String} {uses : List Use} {use : Use} {token : String}

/-- Tokens that a use does not touch keep their order: each of them has been
idle for one more use. -/
theorem InOrderOfUse.untouched (h : InOrderOfUse uses order)
    (huntouched : ∀ other ∈ order, use.touches other = false) :
    InOrderOfUse (uses ++ [use]) order := by
  refine h.imp_of_mem fun hfront hback hlt => ?_
  rw [idle_append_of_not_touches (huntouched _ hfront),
    idle_append_of_not_touches (huntouched _ hback)]
  exact Nat.succ_lt_succ hlt

/-- The token that a use touches belongs in front of all others. -/
theorem InOrderOfUse.touched (h : InOrderOfUse uses order)
    (htouches : ∀ other, use.touches other = true ↔ other = token) (habsent : token ∉ order) :
    InOrderOfUse (uses ++ [use]) (token :: order) := by
  have huntouched : ∀ other ∈ order, use.touches other = false := by
    intro other hmem
    refine Bool.eq_false_iff.2 fun htouched => habsent ?_
    exact (htouches other).1 htouched ▸ hmem
  refine List.pairwise_cons.2 ⟨fun other hmem => ?_, h.untouched huntouched⟩
  rw [idle_append_of_touches ((htouches token).2 rfl),
    idle_append_of_not_touches (huntouched other hmem)]
  exact Nat.succ_pos _

theorem InOrderOfUse.sublist {kept : List String} (h : InOrderOfUse uses order)
    (hkept : kept.Sublist order) : InOrderOfUse uses kept :=
  List.Pairwise.sublist hkept h

/-- The reference keeps its tokens in the order of their last use. -/
theorem InOrderOfUse.reorder (h : InOrderOfUse uses order) (hdistinct : order.Nodup) (room : Nat)
    (use : Use) : InOrderOfUse (uses ++ [use]) (reorder room order use) := by
  have hmoved (token : String) (htouches : ∀ other, use.touches other = true ↔ other = token) :
      InOrderOfUse (uses ++ [use]) (token :: order.erase token) :=
    (h.sublist List.erase_sublist).touched htouches hdistinct.not_mem_erase
  cases use with
  | put entry =>
    have htouches (other : String) :
        (Use.put entry).touches other = true ↔ other = entry.session.token :=
      beq_iff_eq.trans eq_comm
    show InOrderOfUse _ (if entry.session.token ∈ order then _ else _)
    split
    next => exact hmoved _ htouches
    next habsent =>
      -- The token is new. Whether there is room or not, it goes in front.
      split
      · exact h.touched htouches habsent
      · have hkept := List.dropLast_sublist order
        exact (h.sublist hkept).touched htouches (mt hkept.mem habsent)
  | get token =>
    have htouches (other : String) : (Use.get token).touches other = true ↔ other = token :=
      beq_iff_eq.trans eq_comm
    show InOrderOfUse _ (if token ∈ order then _ else _)
    split
    next => exact hmoved _ htouches
    next habsent =>
      -- The token is not kept, so its use is not that of a token in the list.
      refine h.untouched fun other hmem => Bool.eq_false_iff.2 fun htouched => ?_
      exact habsent ((htouches other).1 htouched ▸ hmem)
  | remove token => exact (h.sublist List.erase_sublist).untouched fun _ _ => rfl
  | peek | listStale => exact h.untouched fun _ _ => rfl

end

/-! ### Many uses -/

/-- What is kept from use to use. -/
structure Reached (room : Nat) (uses : List Use) (c : SessionCache) : Prop where
  tidy : c.Tidy
  capacity : c.capacity = room
  order : c.tokens = recency room uses
  recent : InOrderOfUse uses c.tokens
  latest : ∀ token entry, c.peek token = some entry → lastPut? uses token = some entry

namespace Reached

variable {room : Nat} {uses : List Use} {c : SessionCache}

theorem start (capacity : Nat) : Reached (max capacity 1) [] (ofCapacity capacity) where
  tidy := tidy_ofCapacity capacity
  capacity := rfl
  order := rfl
  recent := .nil
  latest token entry hpeek := by cases hpeek

theorem use (h : Reached room uses c) (use : Use) : Reached room (uses ++ [use]) (c.use use) where
  tidy := h.tidy.use use
  capacity := (c.capacity_use use).trans h.capacity
  order := by rw [tokens_use h.tidy, recency_append, h.capacity, h.order]
  recent := by
    rw [tokens_use h.tidy]
    exact h.recent.reorder h.tidy.distinct _ use
  latest := by
    intro token entry hpeek
    rcases peek_use hpeek with ⟨rfl, rfl⟩ | ⟨hnone, hpeek⟩
    · exact lastPut?_append_put uses entry
    · rw [lastPut?_append hnone]
      exact h.latest token entry hpeek

theorem after (h : Reached room uses c) (more : List Use) :
    Reached room (uses ++ more) (c.after more) := by
  induction more generalizing uses c with
  | nil =>
    rw [List.append_nil]
    exact h
  | cons next more ih =>
    rw [List.append_cons]
    exact ih (h.use next)

/-- What is kept is all that is asked for. -/
theorem keepsRecent (h : Reached room uses c) : KeepsRecent room uses c where
  order := h.order
  distinct := h.tidy.distinct
  bounded := h.capacity ▸ h.tidy.fits
  recent := h.recent
  keyed token entry hmem := token_of_lastPut? (h.latest token entry (h.tidy.mem_entries_iff.1 hmem))
  latest := by
    refine fun token => ⟨c.get_fst token, ?_⟩
    rw [← h.order]
    cases hpeek : c.peek token with
    | some entry => rw [if_pos (mem_tokens.2 ⟨entry, hpeek⟩), h.latest token entry hpeek]
    | none =>
      rw [if_neg]
      intro hmem
      obtain ⟨entry, hsome⟩ := mem_tokens.1 hmem
      cases hpeek.symm.trans hsome
  listed time := by
    have hsublist : (c.staleTokens time).Sublist c.tokens := List.filter_sublist.map _
    exact ⟨hsublist, h.tidy.distinct.sublist hsublist⟩
  stale time token := mem_staleTokens_iff h.tidy

end Reached

/-- Whatever the cache is used for, it is a map of the most recently used
sessions, with room for as many as its capacity says, and for one at
least. -/
theorem keeps_recent (capacity : Nat) (uses : List Use) :
    KeepsRecent (max capacity 1) uses ((ofCapacity capacity).after uses) :=
  ((Reached.start capacity).after uses).keepsRecent

/-- A token that is looked up outlives one that was put in after it. -/
example :
    let entry token : CachedSession := .persisted { (default : Session) with token }
    recency 2 [.put (entry "a"), .put (entry "b"), .get "a", .put (entry "c")] = ["c", "a"] := by
  decide

end SessionCache

/-! ### The operations of the server -/

open SessionCache (Use)

/-- What a step uses the cache for. -/
def Step.uses : Step → List Use
  | lookUp token => [.get token]
  | peek token => [.peek token]
  | remember entry => [.put entry]
  | forget token => [.remove token]
  | listStale time => [.listStale time]
  | _ => []

theorem Step.cache_of_run {weather : Weather} {limit : Option Nat} {step : Step}
    {progress progress' : Progress} {server after : Server} {answer : step.Answer}
    (h : step.run weather limit progress server = .ok (answer, progress', after)) :
    after.cache = server.cache.after step.uses := by
  cases step with
  | call c =>
    simp only [run] at h
    cases hanswer : c.attempt weather limit progress server.database with
    | error why =>
      rw [hanswer] at h
      cases h
    | ok answered =>
      rw [hanswer] at h
      cases h
      rfl
  | readClock =>
    simp only [run] at h
    split at h <;> cases h
    rfl
  | lookUp | peek | remember | forget | listStale | drawId | lock | unlock =>
    cases h
    rfl

theorem Flow.cache_of_run {α : Type} (weather : Weather) (limit : Option Nat) (flow : Flow α)
    (progress : Progress) (server : Server) :
    ∃ uses, (flow.run weather limit progress server).2.cache = server.cache.after uses := by
  induction flow generalizing progress server with
  | done | stop => exact ⟨[], rfl⟩
  | step s next failed ih ihfailed =>
    unfold run
    split
    next answer progress' after hstep =>
      obtain ⟨uses, hend⟩ := ih answer progress' after
      refine ⟨s.uses ++ uses, ?_⟩
      rw [hend, Step.cache_of_run hstep]
      exact (List.foldl_append ..).symm
    next => exact ihfailed _ _ _
    next => exact ⟨[], rfl⟩

/-- An operation of the server leaves the cache as some uses of it do,
whichever of its calls fail or are slow. -/
theorem Server.cache_perform {α : Type} (weather : Weather) (limit : Option Nat) (flow : Flow α)
    (server : Server) :
    ∃ uses, (server.perform weather limit flow).2.cache = server.cache.after uses := by
  obtain ⟨uses, hend⟩ := flow.cache_of_run weather limit {} server
  refine ⟨uses, ?_⟩
  unfold perform
  split <;> simp_all

end Gatekeeper

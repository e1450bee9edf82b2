import Gatekeeper.Json.Form
import Gatekeeper.Proofs.Json.Lexis

/-!
# `Gatekeeper.Proofs.Json.Sequence`: written arrays and objects read back

A written array is its items with commas between them, and a written
object its members. `readItems_joined` and `readMembers_joined` say that
the two repetitions of the reader pass over such a text item by item,
whatever reads the single item. `joined` is the text from an item on, so
it is what the reader has in front of it in each round.

A value is always followed by a comma, a closing bracket or nothing, and
a number could be longer if it were followed by anything else. `Ends`
says so of a text.
-/

set_option autoImplicit false

namespace Gatekeeper.Json

/-- What may stand behind a written value. -/
def Ends (rest : List Char) : Prop := ∀ c ∈ rest.head?, c = ',' ∨ c = ']' ∨ c = '\x7d'

theorem ends_nil : Ends [] := nofun

theorem ends_cons {c : Char} (h : c = ',' ∨ c = ']' ∨ c = '\x7d') (rest : List Char) :
    Ends (c :: rest) := by
  rintro d ⟨⟩
  exact h

/-- A number does not go on behind a written value. -/
theorem Ends.endsNumber {rest : List Char} (h : Ends rest) : EndsNumber rest := by
  intro c hc
  rcases h c hc with rfl | rfl | rfl <;> decide

/-- No space is skipped in front of another character. -/
theorem skipSpace_cons {c : Char} (h : isSpace c = false) (cs : List Char) :
    skipSpace (c :: cs) = c :: cs := by
  simp [skipSpace, h]

/-- A character that can begin a written value: no space, no closing
bracket of an array. -/
def Begins (c : Char) : Prop := isSpace c = false ∧ c ≠ ']'

/-! ### Items with commas between them -/

/-- The text of the items from one on, up to the closing bracket and what
follows it. All but the first item have a comma in front. -/
def joined (closing : Char) (rest : List Char) : Bool → List (List Char) → List Char
  | _, [] => closing :: rest
  | true, item :: items => item ++ joined closing rest false items
  | false, item :: items => ',' :: (item ++ joined closing rest false items)

/-- The items with commas between them, in front of a closing bracket. -/
theorem commaSeparated_append (closing : Char) (rest : List Char) (items : List (List Char)) :
    Value.commaSeparated items ++ closing :: rest = joined closing rest true items := by
  induction items with
  | nil => rfl
  | cons item items ih =>
    cases items with
    | nil => rfl
    | cons next items =>
      rw [Value.commaSeparated, List.append_assoc, List.cons_append, ih]
      · rfl
      · nofun

/-- Behind an item stands a comma or the closing bracket. -/
theorem ends_joined {closing : Char} (h : closing = ']' ∨ closing = '\x7d') (rest : List Char)
    (items : List (List Char)) : Ends (joined closing rest false items) := by
  cases items with
  | nil => exact ends_cons (.inr h) rest
  | cons item items => exact ends_cons (.inl rfl) _

/-- Each item has a character at least. -/
theorem length_le_joined (closing : Char) (rest : List Char) (first : Bool)
    {items : List (List Char)} (h : ∀ item ∈ items, item ≠ []) :
    items.length < (joined closing rest first items).length := by
  induction items generalizing first with
  | nil => simp [joined]
  | cons item items ih =>
    have hitem : 0 < item.length := List.length_pos_iff.2 (h item List.mem_cons_self)
    have hitems := ih false fun i hi => h i (List.mem_cons_of_mem item hi)
    cases first <;> simp only [joined, List.length_cons, List.length_append] <;> omega

/-! ### Arrays -/

/-- Where an item stands, the reader steps to it. -/
theorem nextItem_joined {c : Char} (h : Begins c) (first : Bool) (cs rest : List Char)
    (items : List (List Char)) :
    nextItem first (joined ']' rest first ((c :: cs) :: items)) =
      .ok (true, c :: cs ++ joined ']' rest false items) := by
  have hskip := skipSpace_cons h.1 (cs ++ joined ']' rest false items)
  cases first with
  | true =>
    show nextItem true (c :: (cs ++ joined ']' rest false items)) = _
    unfold nextItem
    rw [hskip]
    split
    next heq => cases heq
    next heq => exact absurd (List.cons.inj heq).1 h.2
    next heq => cases heq; rfl
  | false =>
    have hcomma : skipSpace (joined ']' rest false ((c :: cs) :: items)) =
        ',' :: c :: (cs ++ joined ']' rest false items) := rfl
    unfold nextItem
    rw [hcomma]
    split
    next heq => cases heq
    next heq => cases heq
    next heq =>
      -- Behind the comma is the item.
      cases heq
      rw [if_neg Bool.false_ne_true, if_pos rfl, hskip]
      split
      next heq => cases heq
      next heq => exact absurd (List.cons.inj heq).1 h.2
      next heq => rfl

/-- The reader of arrays reads written items, if `item` reads each. -/
theorem readItems_joined {α : Type} {item : List Char → Reading (α × List Char)}
    {write : α → List Char} {as : List α} (rest : List Char)
    (hbegins : ∀ a ∈ as, ∃ c cs, write a = c :: cs ∧ Begins c)
    (hitem : ∀ a ∈ as, ∀ {rest : List Char}, Ends rest → item (write a ++ rest) = .ok (a, rest))
    (first : Bool) {fuel : Nat} (hfuel : as.length < fuel) :
    readItems item fuel first (joined ']' rest first (as.map write)) = .ok (as, rest) := by
  induction as generalizing first fuel with
  | nil =>
    obtain ⟨fuel, rfl⟩ := Nat.exists_eq_succ_of_ne_zero (by omega : fuel ≠ 0)
    rfl
  | cons a as ih =>
    obtain ⟨fuel, rfl⟩ := Nat.exists_eq_succ_of_ne_zero (by omega : fuel ≠ 0)
    obtain ⟨c, cs, hwrite, hc⟩ := hbegins a List.mem_cons_self
    -- This round takes one unit of fuel, and each item left takes another.
    have hrest := ih (fun b hb => hbegins b (List.mem_cons_of_mem a hb))
      (fun b hb => hitem b (List.mem_cons_of_mem a hb)) false
      (by simpa using hfuel : as.length < fuel)
    have hread := hitem a List.mem_cons_self (ends_joined (.inl rfl) rest (as.map write))
    rw [List.map_cons, hwrite]
    unfold readItems
    rw [nextItem_joined hc]
    simp only [bind, Except.bind, if_true, ← hwrite, hread, hrest]
    rfl

/-! ### Objects -/

/-- The text of a member. -/
def memberText (member : String × List Char) : List Char :=
  writeString member.1 ++ ':' :: member.2

/-- Where a member stands, the reader steps over its name. -/
theorem nextMember_joined (first : Bool) (name : String) (value rest : List Char)
    (members : List (List Char)) :
    nextMember first (joined '\x7d' rest first (memberText (name, value) :: members)) =
      .ok (some name, ':' :: value ++ joined '\x7d' rest false members) := by
  have hname : nextMember.name
      (memberText (name, value) ++ joined '\x7d' rest false members) =
        .ok (some name, ':' :: value ++ joined '\x7d' rest false members) := by
    rw [memberText, List.append_assoc, writeString_append]
    show (readStringBody _ >>= fun p => Except.ok (some p.1, p.2)) = _
    rw [readStringBody_escaped]
    rfl
  -- A member begins with a quotation mark, so the reader takes it for a name.
  have hquote : ∃ cs, memberText (name, value) ++ joined '\x7d' rest false members = '"' :: cs := by
    rw [memberText, List.append_assoc, writeString_append]
    exact ⟨_, rfl⟩
  obtain ⟨cs, hcs⟩ := hquote
  rw [hcs] at hname
  cases first with
  | true =>
    rw [joined, hcs]
    exact hname
  | false =>
    rw [joined, hcs]
    exact hname

/-- The reader behind a name passes over the colon. -/
theorem readColon_cons (cs : List Char) : readColon (':' :: cs) = .ok cs := rfl

/-- The members, read one after the other, lead from one state to
another. -/
inductive MembersRead {σ : Type} (member : σ → String → List Char → Reading (σ × List Char)) :
    σ → List (String × List Char) → σ → Prop where
  | nil (state : σ) : MembersRead member state [] state
  | cons {start next stop : σ} {name : String} {value : List Char}
      {members : List (String × List Char)}
      (head : ∀ {rest : List Char}, Ends rest →
        member start name (':' :: value ++ rest) = .ok (next, rest))
      (tail : MembersRead member next members stop) :
      MembersRead member start ((name, value) :: members) stop

/-- The reader of objects reads written members. -/
theorem readMembers_joined {σ : Type}
    {member : σ → String → List Char → Reading (σ × List Char)} {start stop : σ}
    {members : List (String × List Char)} (rest : List Char)
    (h : MembersRead member start members stop) (first : Bool) {fuel : Nat}
    (hfuel : members.length < fuel) :
    readMembers member fuel first start (joined '\x7d' rest first (members.map memberText)) =
      .ok (stop, rest) := by
  induction h generalizing first fuel with
  | nil state =>
    obtain ⟨fuel, rfl⟩ := Nat.exists_eq_succ_of_ne_zero (by omega : fuel ≠ 0)
    rfl
  | cons head tail ih =>
    obtain ⟨fuel, rfl⟩ := Nat.exists_eq_succ_of_ne_zero (by omega : fuel ≠ 0)
    have hrest := ih false (by simpa using hfuel)
    rw [List.map_cons]
    unfold readMembers
    rw [nextMember_joined]
    simp only [bind, Except.bind, head (ends_joined (.inr rfl) rest _), hrest]

/-- So much fuel as the reader of an object has is enough. -/
theorem length_le_memberTexts (rest : List Char) (members : List (String × List Char)) :
    members.length < (joined '\x7d' rest true (members.map memberText)).length + 1 := by
  have hne : ∀ text ∈ members.map memberText, text ≠ [] := by
    intro text htext
    obtain ⟨member, -, rfl⟩ := List.mem_map.1 htext
    simp [memberText]
  have := length_le_joined '\x7d' rest true hne
  rw [List.length_map] at this
  omega

end Gatekeeper.Json

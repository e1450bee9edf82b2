import Gatekeeper.Proofs.Json.Sequence
import Gatekeeper.Proofs.SortedMap
import Gatekeeper.Proofs.Time.Rfc3339

/-!
# `Gatekeeper.Proofs.Json.Form`: forms that read back what they write

`Form.Faithful form depth a` says that `form` reads the written form of
`a` as `a`, from a text that may go on behind it, when it may nest so
deep. `Form.decode_encode` turns this into the round trip of a whole
text. Each form without fields is faithful: strings, truth values, whole
numbers, times, names, free JSON, sets and maps. Records follow in
`Proofs/Json/Record.lean`.
-/

set_option autoImplicit false

namespace Gatekeeper.Json

open Text (numeral isDigit_of_mem_numeral numeral_ne_nil isDigit_of_mem_padded)

namespace Form

/-- The form reads back what it writes for a value, if it may nest at
least `depth` deep. -/
structure Faithful {α : Type} (form : Form α) (depth : Nat) (a : α) : Prop where
  begins : ∃ c cs, form.write a = c :: cs ∧ Begins c
  read : ∀ {limit : Nat}, depth ≤ limit → ∀ {rest : List Char}, Ends rest →
    form.read limit (form.write a ++ rest) = .ok (a, rest)

variable {α : Type}

/-- A form that is faithful at a depth is so where it may nest deeper. -/
theorem Faithful.mono {form : Form α} {depth depth' : Nat} {a : α}
    (h : form.Faithful depth a) (hle : depth ≤ depth') : form.Faithful depth' a where
  begins := h.begins
  read hlimit _ hrest := h.read (Nat.le_trans hle hlimit) hrest

/-- The whole text of a value is decoded as the value. -/
theorem decode_encode {form : Form α} {depth : Nat} {a : α} (h : form.Faithful depth a)
    (hdepth : depth ≤ maxDepth) : form.decode (form.encode a) = .ok a := by
  have hread := h.read hdepth ends_nil
  unfold decode encode
  rw [String.toList_ofList]
  rw [List.append_nil] at hread
  rw [hread]
  rfl

/-! ### Strings, truth values and numbers -/

/-- Every string is read back. -/
theorem text_faithful (s : String) : text.Faithful 0 s where
  begins := ⟨'"', _, rfl, by decide, by decide⟩
  read _ rest _ := by
    show text.read _ (writeString s ++ rest) = _
    rw [writeString_append]
    exact readStringBody_escaped s rest

/-- A value that may be null is read back if it does not look like null. -/
theorem optional_faithful {form : Form α} {depth : Nat} {a : α} (h : form.Faithful depth a)
    (hnull : ∀ cs, form.write a ≠ 'n' :: cs) : form.optional.Faithful depth (some a) where
  begins := h.begins
  read {limit} hlimit rest hrest := by
    obtain ⟨c, cs, hwrite, hbegins⟩ := h.begins
    have hread := h.read hlimit hrest
    show form.optional.read limit (form.write a ++ rest) = _
    rw [hwrite] at hread hnull ⊢
    have hc : c ≠ 'n' := fun hc => hnull cs (hc ▸ rfl)
    rw [List.cons_append] at hread ⊢
    simp only [optional, skipSpace_cons hbegins.1]
    split
    next heq => exact absurd (List.cons.inj heq).1 hc
    next =>
      rw [hread]
      rfl

/-- A string does not look like null. -/
theorem optional_text_faithful (s : String) : text.optional.Faithful 0 (some s) := by
  refine optional_faithful (text_faithful s) ?_
  intro cs heq
  exact absurd (List.cons.inj heq).1 (by decide)

/-- Both truth values are read back. -/
theorem boolean_faithful (b : Bool) : boolean.Faithful 0 b := by
  cases b with
  | false => exact ⟨⟨'f', _, rfl, by decide, by decide⟩, fun _ _ _ => rfl⟩
  | true => exact ⟨⟨'t', _, rfl, by decide, by decide⟩, fun _ _ _ => rfl⟩

/-- A digit begins a value. -/
theorem begins_of_isDigit {c : Char} (h : c.isDigit = true) : Begins c := by
  constructor
  · simp only [isSpace, Bool.or_eq_false_iff, beq_eq_false_iff_ne]
    refine ⟨⟨⟨?_, ?_⟩, ?_⟩, ?_⟩ <;> (rintro rfl; exact absurd h (by decide))
  · rintro rfl
    exact absurd h (by decide)

/-- A whole number within its bound is read back. -/
theorem word_faithful {name : String} {limit : Nat} {ofNat : Nat → α} {toNat : α → Nat} {a : α}
    (hround : ofNat (toNat a) = a) (hle : toNat a ≤ limit) (hlimit : limit ≤ greatestWhole) :
    (word name limit ofNat toNat).Faithful 0 a := by
  obtain ⟨d, digits, hnumeral⟩ := List.exists_cons_of_ne_nil (numeral_ne_nil (toNat a))
  have hd : d.isDigit = true := isDigit_of_mem_numeral (n := toNat a) (by simp [hnumeral])
  have hbegins := begins_of_isDigit hd
  refine ⟨⟨d, digits, hnumeral, hbegins⟩, fun {depth} _ {rest} hrest => ?_⟩
  have hnumber := readNumber_numeral (Nat.le_trans hle hlimit) hrest.endsNumber
  -- The first character is a digit, so the reader takes the text for a number.
  simp only [word]
  rw [hnumeral] at hnumber ⊢
  rw [List.cons_append] at hnumber ⊢
  rw [skipSpace_cons hbegins.1]
  show (if d = '-' ∨ d.isDigit then _ else _) = _
  rw [if_pos (.inr hd), hnumber]
  show (if 0 ≤ (toNat a : Int) ∧ (toNat a : Int) ≤ (limit : Int) then _ else _) = _
  rw [if_pos (by omega), Int.toNat_natCast, hround]
  rfl

/-- Every word of 64 bits is read back. -/
theorem word64_faithful (n : UInt64) : word64.Faithful 0 n :=
  word_faithful UInt64.ofNat_toNat (Nat.le_sub_one_of_lt n.toNat_lt) (by decide)

/-- Every word of 32 bits is read back. -/
theorem word32_faithful (n : UInt32) : word32.Faithful 0 n :=
  word_faithful UInt32.ofNat_toNat (Nat.le_sub_one_of_lt n.toNat_lt) (by decide)

/-! ### Times -/

/-- Characters that stand for themselves inside a written string. -/
theorem flatMap_escapeChar_eq {cs : List Char} (h : ∀ c ∈ cs, escapeChar c = [c]) :
    cs.flatMap escapeChar = cs := by
  induction cs with
  | nil => rfl
  | cons c cs ih =>
    rw [List.flatMap_cons, h c List.mem_cons_self,
      ih fun d hd => h d (List.mem_cons_of_mem c hd)]
    rfl

/-- A digit stands for itself. -/
theorem escapeChar_of_isDigit {c : Char} (h : c.isDigit = true) : escapeChar c = [c] := by
  have hne {d : Char} (hd : d.isDigit = false) : c ≠ d := by
    rintro rfl
    rw [h] at hd
    cases hd
  have hcontrol : ¬ c.toNat < 0x20 := by
    simp only [Char.isDigit, Bool.and_eq_true, decide_eq_true_eq] at h
    have : 48 ≤ c.toNat := h.1
    omega
  unfold escapeChar
  rw [if_neg (hne (by decide)), if_neg (hne (by decide)), if_neg (hne (by decide)),
    if_neg (hne (by decide)), if_neg (hne (by decide)), if_neg (hne (by decide)),
    if_neg (hne (by decide)), if_neg hcontrol]

/-- The characters of a padded numeral stand for themselves. -/
theorem escapeChar_of_mem_padded (width n : Nat) :
    ∀ c ∈ Text.padded width n, escapeChar c = [c] :=
  fun _ hc => escapeChar_of_isDigit (isDigit_of_mem_padded hc)

/-- The characters of a written time stand for themselves. -/
theorem escapeChar_of_mem_write (t : Timestamp) : ∀ c ∈ t.write, escapeChar c = [c] := by
  have hpadded := escapeChar_of_mem_padded
  have hyear (year : Int) : ∀ c ∈ Time.writeYear year, escapeChar c = [c] := by
    unfold Time.writeYear
    split
    · exact hpadded 4 _
    split
    · exact List.forall_mem_cons.2 ⟨by decide, hpadded 4 _⟩
    · exact List.forall_mem_cons.2 ⟨by decide, hpadded 4 _⟩
  have hdecimals (nanos : Nat) : ∀ c ∈ Time.writeDecimals nanos, escapeChar c = [c] := by
    unfold Time.writeDecimals
    split
    · exact List.forall_mem_nil _
    split
    · exact List.forall_mem_cons.2 ⟨by decide, hpadded 3 _⟩
    split
    · exact List.forall_mem_cons.2 ⟨by decide, hpadded 6 _⟩
    · exact List.forall_mem_cons.2 ⟨by decide, hpadded 9 _⟩
  have hmarks : escapeChar '-' = ['-'] ∧ escapeChar 'T' = ['T'] ∧ escapeChar ':' = [':'] ∧
      escapeChar 'Z' = ['Z'] := by decide
  simp only [Timestamp.write, List.forall_mem_append, List.forall_mem_cons, hmarks,
    List.not_mem_nil, false_imp_iff, implies_true, and_true, true_and]
  exact ⟨⟨⟨⟨⟨⟨hyear _, hpadded 2 _⟩, hpadded 2 _⟩, hpadded 2 _⟩, hpadded 2 _⟩, hpadded 2 _⟩,
    hdecimals _⟩

/-- Every timestamp is read back. -/
theorem timestamp_faithful (t : Timestamp) : timestamp.Faithful 0 t where
  begins := ⟨'"', _, rfl, by decide, by decide⟩
  read _ rest _ := by
    have hbody := readStringBody_escaped (String.ofList t.write) rest
    rw [String.toList_ofList, flatMap_escapeChar_eq (escapeChar_of_mem_write t)] at hbody
    have htext : timestamp.write t ++ rest = '"' :: (t.write ++ '"' :: rest) := by
      simp [timestamp]
    rw [htext]
    unfold timestamp
    simp only [skipSpace_cons (c := '"') (by decide), hbody, bind, Except.bind,
      String.toList_ofList, Timestamp.parse_write]
    rfl

/-! ### Names -/

/-- A value with a name of its own is read back. -/
theorem variant_faithful {variants : List (String × α)} {name : α → String} {a : α}
    (h : variants.lookup (name a) = some a) : (variant variants name).Faithful 0 a where
  begins := ⟨'"', _, rfl, by decide, by decide⟩
  read _ rest _ := by
    show (variant variants name).read _ (writeString (name a) ++ rest) = _
    rw [writeString_append]
    show (readStringBody _ >>= fun p => findVariant variants p.1 p.2 >>= fun a =>
      Except.ok (a, p.2)) = _
    rw [readStringBody_escaped]
    show (findVariant variants (name a) rest >>= fun a => Except.ok (a, rest)) = _
    unfold findVariant
    rw [h]
    rfl

/-! ### Lists, sets and maps -/

/-- A list of values that are read back is read back. -/
theorem list_faithful {form : Form α} {depth : Nat} {as : List α}
    (h : ∀ a ∈ as, form.Faithful depth a) : (list form).Faithful (depth + 1) as where
  begins := ⟨'[', _, rfl, by decide, by decide⟩
  read {limit} hlimit rest _ := by
    obtain ⟨limit, rfl⟩ := Nat.exists_eq_succ_of_ne_zero (by omega : limit ≠ 0)
    have htext : (list form).write as ++ rest =
      '[' :: joined ']' rest true (as.map form.write) := by
      rw [← commaSeparated_append]
      simp [list]
    have hne : ∀ text ∈ as.map form.write, text ≠ [] := by
      intro text htext
      obtain ⟨a, ha, rfl⟩ := List.mem_map.1 htext
      obtain ⟨c, cs, hwrite, -⟩ := (h a ha).begins
      simp [hwrite]
    have hfuel := length_le_joined ']' rest true hne
    rw [List.length_map] at hfuel
    rw [htext]
    exact readItems_joined rest (fun a ha => (h a ha).begins)
      (fun a ha _ hends => (h a ha).read (by omega) hends) true (by omega)

/-- Every set of strings is read back. -/
theorem textSet_faithful (s : SortedSet String) : textSet.Faithful 1 s where
  begins := ⟨'[', _, rfl, by decide, by decide⟩
  read hlimit rest hrest := by
    have hlist := (list_faithful fun a (_ : a ∈ s.toList) => text_faithful a).read hlimit hrest
    show ((list text).read _ ((list text).write s.toList ++ rest) >>= fun p =>
      Except.ok (SortedSet.ofList p.1, p.2)) = _
    rw [hlist]
    show Except.ok (SortedSet.ofList s.toList, rest) = _
    rw [SortedSet.ofList_toList]

/-- A map is read back, if its keys have names of their own and its values
are read back. -/
theorem map_faithful {κ : Type} [Ord κ] [Std.TransOrd κ] [Std.LawfulEqOrd κ] {form : Form α}
    {key : String → List Char → Reading κ} {name : κ → String} {depth : Nat} {m : SortedMap κ α}
    (hkey : ∀ k cs, key (name k) cs = .ok k) (h : ∀ e ∈ m.entries, form.Faithful depth e.2) :
    (map form key name).Faithful (depth + 1) m where
  begins := ⟨'\x7b', _, rfl, by decide, by decide⟩
  read {limit} hlimit rest _ := by
    obtain ⟨limit, rfl⟩ := Nat.exists_eq_succ_of_ne_zero (by omega : limit ≠ 0)
    -- The reader puts each member into the map that it has so far.
    let member (m : SortedMap κ α) (s : String) (cs : List Char) :
        Reading (SortedMap κ α × List Char) := do
      let k ← key s cs
      let read ← form.read limit (← readColon cs)
      return (m.insert k read.1, read.2)
    let text (e : κ × α) : String × List Char := (name e.1, form.write e.2)
    have hmembers : ∀ (entries : List (κ × α)) (start : SortedMap κ α),
        (∀ e ∈ entries, form.Faithful depth e.2) →
        MembersRead member start (entries.map text)
          (entries.foldl (fun m e => m.insert e.1 e.2) start) := by
      intro entries
      induction entries with
      | nil => exact fun start _ => .nil start
      | cons e entries ih =>
        intro start hentries
        refine .cons (fun {rest} hrest => ?_)
          (ih _ fun e' he' => hentries e' (List.mem_cons_of_mem e he'))
        have hread := (hentries e List.mem_cons_self).read (by omega : depth ≤ limit) hrest
        simp only [member, hkey, List.cons_append, readColon_cons, hread, bind, Except.bind]
        rfl
    have hread := readMembers_joined rest (hmembers m.entries .empty h) true
      (length_le_memberTexts rest _)
    have htext : (map form key name).write m ++ rest =
        '\x7b' :: joined '\x7d' rest true ((m.entries.map text).map memberText) := by
      rw [← commaSeparated_append, List.map_map]
      simp only [map, List.append_assoc, List.cons_append]
      rfl
    rw [htext]
    show readMembers member _ true .empty _ = _
    rw [hread]
    show Except.ok (SortedMap.ofList m.entries, rest) = _
    rw [SortedMap.ofList_entries]

end Form

end Gatekeeper.Json

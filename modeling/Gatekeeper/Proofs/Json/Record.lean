import Gatekeeper.Json.Record
import Gatekeeper.Proofs.Json.Form

/-!
# `Gatekeeper.Proofs.Json.Record`: records read back

A record is written as an object with one member for each field and read
member by member into slots. `Fields.Faithful` asks that the fields have
names of their own and that each reads back its value. Then the members
fill exactly the slots of the record (`Fields.membersRead`), and
`Form.record_faithful` says that the record is read back.

The induction goes over the fields, while the reader always has the slots
of all of them. So `Fields.membersRead` is about a reader into any state
that holds the slots of the fields that are left, and `put` says where.
-/

set_option autoImplicit false

namespace Gatekeeper.Json

namespace Fields

/-- The names of the fields. -/
def names : {α : Type} → Fields α → List String
  | _, nil => []
  | _, cons field fields => field.name :: fields.names

/-- The fields have names of their own, and each value is read back or
left out. -/
def Faithful (depth : Nat) : {α : Type} → Fields α → α → Prop
  | _, nil, _ => True
  | _, cons field fields, (a, values) =>
    field.name ∉ fields.names ∧
      (if field.omits a then field.ifMissing = some a else field.form.Faithful depth a) ∧
      fields.Faithful depth values

/-- The members that are written, by name. -/
def members : {α : Type} → Fields α → α → List (String × List Char)
  | _, nil, _ => []
  | _, cons field fields, (a, values) =>
    if field.omits a then fields.members values
    else (field.name, field.form.write a) :: fields.members values

/-- The slots when the members have been read. -/
def filled : {α : Type} → (fields : Fields α) → α → fields.Slots
  | _, nil, _ => ()
  | _, cons field fields, (a, values) =>
    (if field.omits a then none else some a, fields.filled values)

/-- A field of its own name that reads back its value goes in front of the
others. -/
theorem Faithful.nested {α β : Type} {name : String} {form : Form α} {fields : Fields β}
    {depth inner : Nat} {a : α} {values : β} (h : form.Faithful inner a) (hinner : inner ≤ depth)
    (hname : name ∉ fields.names) (hfields : fields.Faithful depth values) :
    (cons (.required name form) fields).Faithful depth (a, values) :=
  ⟨hname, h.mono hinner, hfields⟩

/-- So does one that holds no array and no object. -/
theorem Faithful.required {α β : Type} {name : String} {form : Form α} {fields : Fields β}
    {depth : Nat} {a : α} {values : β} (h : form.Faithful 0 a) (hname : name ∉ fields.names)
    (hfields : fields.Faithful depth values) :
    (cons (.required name form) fields).Faithful depth (a, values) :=
  .nested h (Nat.zero_le depth) hname hfields

/-- And one that is left out, or else reads back its value. -/
theorem Faithful.optional {α β : Type} {name : String} {form : Form α} {fields : Fields β}
    {depth : Nat} {value : Option α} {values : β}
    (h : ∀ a, value = some a → form.optional.Faithful 0 (some a)) (hname : name ∉ fields.names)
    (hfields : fields.Faithful depth values) :
    (cons (.optional name form) fields).Faithful depth (value, values) := by
  refine ⟨hname, ?_, hfields⟩
  cases value with
  | none => rfl
  | some a => exact (h a rfl).mono (Nat.zero_le depth)

theorem writeMembers_eq_map {α : Type} (fields : Fields α) (values : α) :
    fields.writeMembers values = (fields.members values).map memberText := by
  induction fields with
  | nil => rfl
  | cons field fields ih =>
    obtain ⟨a, values⟩ := values
    simp only [writeMembers, members, ih]
    split <;> rfl

/-- The slots of the members hold the values. -/
theorem complete_filled {α : Type} {fields : Fields α} {depth : Nat} {values : α}
    (h : fields.Faithful depth values) (rest : List Char) :
    fields.complete (fields.filled values) rest = .ok values := by
  induction fields with
  | nil => rfl
  | cons field fields ih =>
    obtain ⟨a, values⟩ := values
    obtain ⟨-, hfield, hfields⟩ := h
    have hrest := ih hfields
    by_cases homits : field.omits a = true
    · rw [if_pos homits] at hfield
      simp only [complete, filled, homits, if_true, Option.none_or, hfield, hrest]
      rfl
    · simp only [complete, filled, homits, Bool.false_eq_true, if_false, Option.some_or, hrest]
      rfl

/-- A member that is not for the first field is read into the slots of
the others. -/
theorem readMember_cons_of_ne {α β : Type} {field : Field α} {fields : Fields β} {name : String}
    (h : name ≠ field.name) (limit : Nat) (slot : Option α) (slots : fields.Slots)
    (cs : List Char) :
    (cons field fields).readMember limit (slot, slots) name cs =
      (fields.readMember limit slots name cs).map fun p => ((slot, p.1), p.2) := by
  simp only [readMember, if_neg h]
  cases fields.readMember limit slots name cs <;> rfl

/-- The members of fields that read back their values fill the slots of
the fields, wherever the state of the reader has them. -/
theorem membersRead {σ α : Type} {fields : Fields α} {depth limit : Nat} {values : α}
    (h : fields.Faithful depth values) (hlimit : depth ≤ limit)
    {member : σ → String → List Char → Reading (σ × List Char)} (put : fields.Slots → σ)
    (hmember : ∀ slots name cs, name ∈ fields.names →
      member (put slots) name cs =
        (fields.readMember limit slots name cs).map fun p => (put p.1, p.2)) :
    MembersRead member (put fields.noSlots) (fields.members values)
      (put (fields.filled values)) := by
  induction fields with
  | nil => exact .nil _
  | @cons β γ field fields ih =>
    obtain ⟨a, values⟩ := values
    obtain ⟨hname, hfield, hfields⟩ := h
    -- Behind the first field, its slot stays as it is.
    have htail (slot : Option β) := ih hfields (fun slots => put (slot, slots))
      fun slots name cs hmem => by
        have hne : name ≠ field.name := by rintro rfl; exact hname hmem
        rw [hmember (slot, slots) name cs (List.mem_cons_of_mem _ hmem),
          readMember_cons_of_ne hne]
        cases fields.readMember limit slots name cs <;> rfl
    by_cases homits : field.omits a = true
    · simp only [members, filled, homits, if_true]
      exact htail none
    · rw [if_neg homits] at hfield
      simp only [members, filled, homits, Bool.false_eq_true, if_false]
      refine .cons (fun {rest} hrest => ?_) (htail (some a))
      rw [hmember _ _ _ List.mem_cons_self]
      show ((cons field fields).readMember limit (none, fields.noSlots) field.name _).map _ = _
      simp only [readMember, if_true, List.cons_append, readColon_cons, bind, Except.bind,
        hfield.read hlimit hrest]
      rfl

end Fields

/-- A record whose fields read back their values is read back. -/
theorem Form.record_faithful {α β : Type} {name : String} {fields : Fields β} {make : β → α}
    {values : α → β} {depth : Nat} {a : α} (hmake : make (values a) = a)
    (h : fields.Faithful depth (values a)) :
    (Form.record name fields make values).Faithful (depth + 1) a where
  begins := ⟨'\x7b', _, rfl, by decide, by decide⟩
  read {limit} hlimit rest _ := by
    obtain ⟨limit, rfl⟩ := Nat.exists_eq_succ_of_ne_zero (by omega : limit ≠ 0)
    have hmembers : MembersRead (fields.readMember limit) fields.noSlots
        (fields.members (values a)) (fields.filled (values a)) := by
      refine Fields.membersRead h (by omega : depth ≤ limit) id ?_
      intro slots name cs _
      show fields.readMember limit slots name cs = _
      cases fields.readMember limit slots name cs <;> rfl
    have hread := readMembers_joined rest hmembers true (length_le_memberTexts rest _)
    have htext : (Form.record name fields make values).write a ++ rest =
        '\x7b' :: joined '\x7d' rest true ((fields.members (values a)).map memberText) := by
      rw [← commaSeparated_append, ← Fields.writeMembers_eq_map]
      simp [record]
    rw [htext]
    show (readMembers (fields.readMember limit) _ true fields.noSlots _ >>= fun p =>
      fields.complete p.1 p.2 >>= fun b => Except.ok (make b, p.2)) = _
    rw [hread]
    show (fields.complete (fields.filled (values a)) rest >>= fun b => _) = _
    rw [Fields.complete_filled h]
    show Except.ok (make (values a), rest) = _
    rw [hmake]

end Gatekeeper.Json

import Gatekeeper.Json.Form

/-!
# `Gatekeeper.Json.Record`: records as objects

The form of a record is the list of its fields. It is written as an object with a member for
each field, in order. It is read from an object that has each field once, in any order and
among members with other names, or from an array that lists the values of the fields in
order.

A field may have a value for the case that an object has no member for it, and the written
object may leave the field out for some values.
-/

set_option autoImplicit false

namespace Gatekeeper.Json

/-- A field of a record. -/
structure Field (α : Type) where
  name : String
  form : Form α
  /-- The value of a field that an object has no member for, if it may be missing. -/
  ifMissing : Option α
  /-- Whether an array may end before this field. -/
  endsArray : Bool
  /-- Whether the written object has no member for a value. -/
  omits : α → Bool

namespace Field

/-- A field that has to be there. -/
def required {α : Type} (name : String) (form : Form α) : Field α :=
  ⟨name, form, none, false, fun _ => false⟩

/-- A field that may be missing or null, and is written as null if it has no value. -/
def nullable {α : Type} (name : String) (form : Form α) : Field (Option α) :=
  ⟨name, form.optional, some none, false, fun _ => false⟩

/-- A field that may be missing or null, and is left out if it has no value. -/
def optional {α : Type} (name : String) (form : Form α) : Field (Option α) :=
  ⟨name, form.optional, some none, false, Option.isNone⟩

/-- A field that may be missing, and then has a given value. -/
def withDefault {α : Type} (name : String) (form : Form α) (default : α) : Field α :=
  ⟨name, form, some default, true, fun _ => false⟩

end Field

/-- The fields of a record whose values are of the types that `α` pairs up. -/
inductive Fields : Type → Type 1 where
  | nil : Fields Unit
  | cons {α β : Type} (field : Field α) (fields : Fields β) : Fields (α × β)

namespace Fields

/-- What has been read so far of each field. -/
def Slots : {α : Type} → Fields α → Type
  | _, nil => Unit
  | _, cons (α := α) _ fields => Option α × fields.Slots

/-- Nothing has been read yet. -/
def noSlots : {α : Type} → (fields : Fields α) → fields.Slots
  | _, nil => ()
  | _, cons _ fields => (none, fields.noSlots)

/-- The number of fields. -/
def length : {α : Type} → Fields α → Nat
  | _, nil => 0
  | _, cons _ fields => fields.length + 1

/-- The written members. -/
def writeMembers : {α : Type} → Fields α → α → List (List Char)
  | _, nil, _ => []
  | _, cons field fields, (a, values) =>
    if field.omits a then fields.writeMembers values
    else (writeString field.name ++ ':' :: field.form.write a) :: fields.writeMembers values

/-- The rest after the end of an object, if it ends here. A fault of the object as a whole
shows behind it. -/
def passClosing (cs : List Char) : List Char :=
  match skipSpace cs with
  | '\x7d' :: rest => rest
  | rest => rest

/-- Reads the member of the given name, behind its name. A member for no field is read
over. -/
def readMember (depth : Nat) : {α : Type} → (fields : Fields α) → fields.Slots → String →
    List Char → Reading (fields.Slots × List Char)
  | _, nil, _, _, cs => do
    let cs ← readColon cs
    return ((), ← skipValue (cs.length + 1) cs)
  | _, cons (α := α) field fields, read, name, cs =>
    let (slot, slots) : Option α × fields.Slots := read
    if name = field.name then
      match slot with
      | some _ => .error (.behind (.repeatedMember name) (passClosing cs))
      | none => do
        let (a, cs) ← field.form.read depth (← readColon cs)
        return ((some a, slots), cs)
    else do
      let (slots, cs) ← fields.readMember depth slots name cs
      return ((slot, slots), cs)

/-- The values of the fields, when the object has been read to its end. -/
def complete : {α : Type} → (fields : Fields α) → fields.Slots → List Char → Reading α
  | _, nil, _, _ => .ok ()
  | _, cons (α := α) field fields, read, rest =>
    let (slot, slots) : Option α × fields.Slots := read
    match slot.or field.ifMissing with
    | some a => do return (a, ← fields.complete slots rest)
    | none => .error (.behind (.missingMember field.name) rest)

/-- The values of the fields from an array that lists them. `expected` names the record. -/
def readListed (depth : Nat) (expected : String) : {α : Type} → Fields α → Nat →
    List Char → Reading (α × List Char)
  | _, nil, _, cs => do return ((), ← closeArray cs)
  | _, cons field fields, index, cs => do
    let (more, rest) ← nextItem (index = 0) cs
    if more then
      let (a, rest) ← field.form.read depth rest
      let (values, rest) ← fields.readListed depth expected (index + 1) rest
      return ((a, values), rest)
    else
      match (if field.endsArray then field.ifMissing else none) with
      | some a => do
        let (values, rest) ← fields.readListed depth expected (index + 1) cs
        return ((a, values), rest)
      | none => .error (.behind (.wrongLength index expected) rest)

end Fields

/-- The form of a record, by its name, its fields and how the record is made of their
values. -/
def Form.record {α β : Type} (name : String) (fields : Fields β) (make : β → α)
    (values : α → β) : Form α where
  write a := '\x7b' :: Value.commaSeparated (fields.writeMembers (values a)) ++ ['\x7d']
  read depth cs :=
    match skipSpace cs with
    | '\x7b' :: rest =>
      if depth = 0 then .error (.ahead .tooDeep ('\x7b' :: rest))
      else do
        let (slots, rest) ← readMembers (fields.readMember (depth - 1)) (rest.length + 1) true
          fields.noSlots rest
        return (make (← fields.complete slots rest), rest)
    | '[' :: rest =>
      if depth = 0 then .error (.ahead .tooDeep ('[' :: rest))
      else do
        let (b, rest) ← fields.readListed (depth - 1)
          ("struct " ++ name ++ " with " ++ toString fields.length ++ " elements") 0 rest
        return (make b, rest)
    | rest => .error (mismatch ("struct " ++ name) rest)

end Gatekeeper.Json

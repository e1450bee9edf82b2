import Gatekeeper.Json.Value
import Gatekeeper.SortedSet
import Gatekeeper.Time.Rfc3339

/-!
# `Gatekeeper.Json.Form`: how values of a type are written and read

A `Form α` is a writer and a reader for the values of one type. The reader takes the value
from the front of a text, with a bound on how deep arrays and objects may be nested, and
leaves the rest. This module has the forms without fields: strings, truth values, whole
numbers of a word, times, free JSON, one of several names, an optional value, sets and maps.

`Form.encode` writes a whole text and `Form.decode` reads one, which may have spaces around
the value and nothing else.
-/

set_option autoImplicit false

namespace Gatekeeper.Json

/-- A way to write the values of a type and to read them back. -/
structure Form (α : Type) where
  /-- The written form of a value, without spaces. -/
  write : α → List Char
  /-- The value in front of a text, nested at most so deep, and the rest. -/
  read : Nat → List Char → Reading (α × List Char)

namespace Form

/-- How deep the arrays and objects of a text may be nested. -/
def maxDepth : Nat := 127

/-- The written form of a value, as a text. -/
def encode {α : Type} (form : Form α) (a : α) : String := String.ofList (form.write a)

/-- The value that a whole text stands for. -/
def decode {α : Type} (form : Form α) (text : String) : Except Failure α := do
  let (a, rest) ← form.read maxDepth text.toList
  match skipSpace rest with
  | [] => return a
  | rest => .error (.ahead .trailingCharacters rest)

/-- The failure for a text whose first character, no space, begins no value of the expected
form. A value of another form is read first, so a fault inside it comes before. -/
def mismatch (expected : String) : List Char → Failure
  | '[' :: rest => .behind (.wrongType .array expected) ('[' :: rest)
  | '\x7b' :: rest => .behind (.wrongType .object expected) ('\x7b' :: rest)
  | cs =>
    match Value.readScalar cs with
    | .error failure => failure
    | .ok (.boolean b, rest) => .behind (.wrongType (.boolean b) expected) rest
    | .ok (.number n, rest) => .behind (.wrongType n.found expected) rest
    | .ok (.text s, rest) => .behind (.wrongType (.text s) expected) rest
    | .ok (_, rest) => .behind (.wrongType .null expected) rest

/-- Any string. -/
def text : Form String where
  write := writeString
  read _ cs :=
    match skipSpace cs with
    | '"' :: rest => readStringBody rest
    | rest => .error (mismatch "a string" rest)

/-- A truth value. -/
def boolean : Form Bool where
  write b := if b then ['t', 'r', 'u', 'e'] else ['f', 'a', 'l', 's', 'e']
  read _ cs :=
    match skipSpace cs with
    | 't' :: rest => do return (true, ← readLiteral ['r', 'u', 'e'] rest)
    | 'f' :: rest => do return (false, ← readLiteral ['a', 'l', 's', 'e'] rest)
    | rest => .error (mismatch "a boolean" rest)

/-- A whole number from 0 to `limit`, for which `ofNat` and `toNat` pass between the type
and the numbers. -/
def word {α : Type} (name : String) (limit : Nat) (ofNat : Nat → α) (toNat : α → Nat) :
    Form α where
  write a := Text.numeral (toNat a)
  read _ cs :=
    match skipSpace cs with
    | c :: rest =>
      if c = '-' ∨ c.isDigit then do
        let (n, rest) ← readNumber (c :: rest)
        match n with
        | .integer n =>
          if 0 ≤ n ∧ n ≤ limit then return (ofNat n.toNat, rest)
          else .error (.behind (.wrongValue (.integer n) name) rest)
        | n => .error (.behind (.wrongType n.found name) rest)
      else .error (mismatch name (c :: rest))
    | [] => .error (.ahead .noValue [])

/-- A whole number of 64 bits. -/
def word64 : Form UInt64 := word "u64" (UInt64.size - 1) UInt64.ofNat UInt64.toNat

/-- A whole number of 32 bits. -/
def word32 : Form UInt32 := word "u32" (UInt32.size - 1) UInt32.ofNat UInt32.toNat

/-- JSON of any form. -/
def free : Form Value where
  write := Value.write
  read := Value.read

/-- A time, as a string. -/
def timestamp : Form Timestamp where
  write t := '"' :: t.write ++ ['"']
  read _ cs :=
    match skipSpace cs with
    | '"' :: rest => do
      let (s, rest) ← readStringBody rest
      match Timestamp.parse s.toList with
      | .ok t => return (t, rest)
      | .error cause => .error (.behind (.noTime cause) rest)
    | rest => .error (mismatch "an RFC 3339 formatted date and time string" rest)

/-- The value with the given name, or the fault that there is none. -/
def findVariant {α : Type} (variants : List (String × α)) (name : String) (rest : List Char) :
    Reading α :=
  match variants.lookup name with
  | some a => .ok a
  | none => .error (.behind (.unknownVariant name (variants.map (·.1))) rest)

/-- One of several values, by its name. A name may also stand as the only member of an
object, with nothing as its value. -/
def variant {α : Type} (variants : List (String × α)) (name : α → String) : Form α where
  write a := writeString (name a)
  read depth cs :=
    match skipSpace cs with
    | [] => .error (.ahead .noValue [])
    | '"' :: rest => do
      let (s, rest) ← readStringBody rest
      return (← findVariant variants s rest, rest)
    | '\x7b' :: rest =>
      if depth = 0 then .error (.ahead .tooDeep ('\x7b' :: rest))
      else
        match skipSpace rest with
        | '"' :: rest => do
          let (s, rest) ← readStringBody rest
          let a ← findVariant variants s rest
          let rest ← unit (← readColon rest)
          match skipSpace rest with
          | '\x7d' :: rest => return (a, rest)
          | [] => .error (.behind .openObject [])
          | rest => .error (.behind .noValueHere rest)
        | [] => .error (.ahead .openObject [])
        | '\x7d' :: rest => .error (.ahead .noValueHere ('\x7d' :: rest))
        | rest => .error (.ahead .keyNotString rest)
    | rest => .error (.ahead .noValueHere rest)
where
  /-- The rest after a `null`. -/
  unit (cs : List Char) : Reading (List Char) :=
    match skipSpace cs with
    | 'n' :: rest => readLiteral ['u', 'l', 'l'] rest
    | rest => .error (mismatch "unit" rest)

/-- A value or nothing. -/
def optional {α : Type} (form : Form α) : Form (Option α) where
  write
    | some a => form.write a
    | none => ['n', 'u', 'l', 'l']
  read depth cs :=
    match skipSpace cs with
    | 'n' :: rest => do return (none, ← readLiteral ['u', 'l', 'l'] rest)
    | rest => do
      let (a, rest) ← form.read depth rest
      return (some a, rest)

/-- A list, as an array. -/
def list {α : Type} (form : Form α) : Form (List α) where
  write as := '[' :: Value.commaSeparated (as.map form.write) ++ [']']
  read depth cs :=
    match skipSpace cs with
    | '[' :: rest =>
      if depth = 0 then .error (.ahead .tooDeep ('[' :: rest))
      else readItems (form.read (depth - 1)) (rest.length + 1) true rest
    | rest => .error (mismatch "a sequence" rest)

/-- A set of strings, as the array of its elements. -/
def textSet : Form (SortedSet String) where
  write s := (list text).write s.toList
  read depth cs := do
    let (items, rest) ← (list text).read depth cs
    return (SortedSet.ofList items, rest)

/-- A map as an object, with the names of its members as keys. `key` finds the key that a
name stands for, and `name` names a key. Of several members of one name the last counts. -/
def map {κ α : Type} [Ord κ] [Std.TransOrd κ] [Std.LawfulEqOrd κ] (form : Form α)
    (key : String → List Char → Reading κ) (name : κ → String) : Form (SortedMap κ α) where
  write m := '\x7b' :: Value.commaSeparated
    (m.entries.map fun (k, a) => writeString (name k) ++ ':' :: form.write a) ++ ['\x7d']
  read depth cs :=
    match skipSpace cs with
    | '\x7b' :: rest =>
      if depth = 0 then .error (.ahead .tooDeep ('\x7b' :: rest))
      else
        readMembers (fun (m : SortedMap κ α) s cs => do
          let k ← key s cs
          let (a, cs) ← form.read (depth - 1) (← readColon cs)
          return (m.insert k a, cs)) (rest.length + 1) true .empty rest
    | rest => .error (mismatch "a map" rest)

end Form

end Gatekeeper.Json

import Gatekeeper.Json.Sequence
import Gatekeeper.SortedMap

/-!
# `Gatekeeper.Json.Value`: JSON of any form

A `Value` is a JSON text without a fixed form, such as the metadata of a recover code.
`Value.write` writes it without spaces, and `Value.read` reads it to a given depth of
nesting; it lists the members of an object by name, where the last of several members of one
name counts.
-/

set_option autoImplicit false

namespace Gatekeeper.Json

/-- A JSON value. -/
inductive Value where
  | null
  | boolean (b : Bool)
  | number (n : Number)
  | text (s : String)
  | array (items : List Value)
  | object (members : List (String × Value))
  deriving Repr

namespace Value

instance : Inhabited Value := ⟨null⟩

/-- The written forms of items, with commas between them. -/
def commaSeparated : List (List Char) → List Char
  | [] => []
  | [item] => item
  | item :: items => item ++ ',' :: commaSeparated items

mutual

/-- The written form of a value, without spaces. -/
def write : Value → List Char
  | null => ['n', 'u', 'l', 'l']
  | boolean true => ['t', 'r', 'u', 'e']
  | boolean false => ['f', 'a', 'l', 's', 'e']
  | number n => n.write
  | text s => writeString s
  | array items => '[' :: commaSeparated (writeItems items) ++ [']']
  | object members => '\x7b' :: commaSeparated (writeMembers members) ++ ['\x7d']

/-- The written forms of the items of an array. -/
def writeItems : List Value → List (List Char)
  | [] => []
  | item :: items => item.write :: writeItems items

/-- The written forms of the members of an object. -/
def writeMembers : List (String × Value) → List (List Char)
  | [] => []
  | (name, value) :: members => (writeString name ++ ':' :: value.write) :: writeMembers members

end

/-- A value that holds no other, in front of a text without leading spaces. -/
def readScalar : List Char → Reading (Value × List Char)
  | [] => .error (.ahead .noValue [])
  | 'n' :: rest => do return (null, ← readLiteral ['u', 'l', 'l'] rest)
  | 't' :: rest => do return (boolean true, ← readLiteral ['r', 'u', 'e'] rest)
  | 'f' :: rest => do return (boolean false, ← readLiteral ['a', 'l', 's', 'e'] rest)
  | '"' :: rest => do
    let (s, rest) ← readStringBody rest
    return (text s, rest)
  | c :: rest =>
    if c = '[' ∨ c = '\x7b' then .error (.ahead .tooDeep (c :: rest))
    else if c = '-' ∨ c.isDigit then do
      let (n, rest) ← readNumber (c :: rest)
      return (number n, rest)
    else .error (.ahead .noValueHere (c :: rest))

/-- A value in front of a text, with at most `depth` arrays and objects inside each other. -/
def read : Nat → List Char → Reading (Value × List Char)
  | 0, cs => readScalar (skipSpace cs)
  | depth + 1, cs =>
    match skipSpace cs with
    | '[' :: rest => do
      let (items, rest) ← readItems (read depth) (rest.length + 1) true rest
      return (array items, rest)
    | '\x7b' :: rest => do
      let (members, rest) ← readMembers (fun (members : SortedMap String Value) name cs => do
        let (value, cs) ← read depth (← readColon cs)
        return (members.insert name value, cs)) (rest.length + 1) true .empty rest
      return (object members.entries, rest)
    | rest => readScalar rest

end Value

end Gatekeeper.Json

import Gatekeeper.Json.Lexis

/-!
# `Gatekeeper.Json.Sequence`: the items of arrays and the members of objects

The separators of arrays and objects. `nextItem` and `nextMember` step to the next item or
member, or over the closing bracket; `readItems` and `readMembers` repeat them with a reader
for what stands between. `skipValue` reads over a value that nobody asks for, however deep.

Every round of a repetition reads a character at least, so one more than the length of the text
is enough fuel for it, and what is left of the fuel of a value is enough for its parts.
-/

set_option autoImplicit false

namespace Gatekeeper.Json

/-- Steps to the next item of an array, and says whether there is one. Before all but the
first item stands a comma, and none before the closing bracket. -/
def nextItem (first : Bool) (cs : List Char) : Reading (Bool × List Char) :=
  match skipSpace cs with
  | [] => .error (.ahead .openArray [])
  | ']' :: rest => .ok (false, rest)
  | c :: rest =>
    if first then .ok (true, c :: rest)
    else if c = ',' then
      match skipSpace rest with
      | [] => .error (.ahead .noValue [])
      | ']' :: rest => .error (.ahead .trailingComma (']' :: rest))
      | rest => .ok (true, rest)
    else .error (.ahead .noItemEnd (c :: rest))

/-- Steps over the name of the next member of an object, if there is one. -/
def nextMember (first : Bool) (cs : List Char) : Reading (Option String × List Char) :=
  match skipSpace cs with
  | [] => .error (.ahead .openObject [])
  | '\x7d' :: rest => .ok (none, rest)
  | c :: rest =>
    if first then name (c :: rest)
    else if c = ',' then
      match skipSpace rest with
      | [] => .error (.ahead .noValue [])
      | '\x7d' :: rest => .error (.ahead .trailingComma ('\x7d' :: rest))
      | rest => name rest
    else .error (.ahead .noMemberEnd (c :: rest))
where
  /-- The name of a member, which is a string. -/
  name : List Char → Reading (Option String × List Char)
    | '"' :: rest => do
      let (s, rest) ← readStringBody rest
      return (some s, rest)
    | rest => .error (.ahead .keyNotString rest)

/-- The rest after the colon between the name and the value of a member. -/
def readColon (cs : List Char) : Reading (List Char) :=
  match skipSpace cs with
  | [] => .error (.ahead .openObject [])
  | ':' :: rest => .ok rest
  | rest => .error (.ahead .noColon rest)

/-- The items of an array whose opening bracket has been read. -/
def readItems {α : Type} (item : List Char → Reading (α × List Char)) :
    Nat → Bool → List Char → Reading (List α × List Char)
  | 0, _, cs => .error (.ahead .openArray cs)
  | fuel + 1, first, cs => do
    let (more, cs) ← nextItem first cs
    if more then
      let (a, cs) ← item cs
      let (as, cs) ← readItems item fuel false cs
      return (a :: as, cs)
    else return ([], cs)

/-- Folds the members of an object whose opening bracket has been read. `member` is given
the name of a member and the text behind it, before the colon. -/
def readMembers {σ : Type} (member : σ → String → List Char → Reading (σ × List Char)) :
    Nat → Bool → σ → List Char → Reading (σ × List Char)
  | 0, _, _, cs => .error (.ahead .openObject cs)
  | fuel + 1, first, state, cs => do
    let (name, cs) ← nextMember first cs
    match name with
    | some name =>
      let (state, cs) ← member state name cs
      readMembers member fuel false state cs
    | none => return (state, cs)

/-- The rest after an array whose items have all been read. -/
def closeArray (cs : List Char) : Reading (List Char) :=
  match skipSpace cs with
  | [] => .error (.ahead .openArray [])
  | ']' :: rest => .ok rest
  | ',' :: rest =>
    match skipSpace rest with
    | ']' :: rest => .error (.ahead .trailingComma (']' :: rest))
    | rest => .error (.ahead .trailingCharacters rest)
  | rest => .error (.ahead .trailingCharacters rest)

/-- The rest after a value that nobody asks for. -/
def skipValue : Nat → List Char → Reading (List Char)
  | 0, cs => .error (.ahead .noValue cs)
  | fuel + 1, cs =>
    match skipSpace cs with
    | [] => .error (.ahead .noValue [])
    | 'n' :: rest => readLiteral ['u', 'l', 'l'] rest
    | 't' :: rest => readLiteral ['r', 'u', 'e'] rest
    | 'f' :: rest => readLiteral ['a', 'l', 's', 'e'] rest
    | '"' :: rest => skipChars fuel rest
    | '[' :: rest => skipItems (skipValue fuel) fuel true rest
    | '\x7b' :: rest => skipMembers (skipValue fuel) fuel true rest
    | c :: rest =>
      if c = '-' ∨ c.isDigit then skipNumber (c :: rest)
      else .error (.ahead .noValueHere (c :: rest))
where
  /-- The rest after the items of an array that nobody asks for. Behind a comma has to stand a
  value. -/
  skipItems (value : List Char → Reading (List Char)) :
      Nat → Bool → List Char → Reading (List Char)
    | 0, _, cs => .error (.ahead .openArray cs)
    | fuel + 1, first, cs =>
      match skipSpace cs with
      | [] => .error (.ahead .openArray [])
      | ']' :: rest => .ok rest
      | c :: rest =>
        if first then do skipItems value fuel false (← value (c :: rest))
        else if c = ',' then do skipItems value fuel false (← value rest)
        else .error (.ahead .noItemEnd (c :: rest))
  /-- The rest after the members of an object that nobody asks for. Behind a comma has to stand
  a name. -/
  skipMembers (value : List Char → Reading (List Char)) :
      Nat → Bool → List Char → Reading (List Char)
    | 0, _, cs => .error (.ahead .openObject cs)
    | fuel + 1, first, cs =>
      match skipSpace cs with
      | [] => .error (.ahead .openObject [])
      | '\x7d' :: rest => .ok rest
      | c :: rest =>
        let name (cs : List Char) : Reading (List Char) :=
          match skipSpace cs with
          | [] => .error (.ahead .openObject [])
          | '"' :: rest => do
            let rest ← skipChars (fuel + 1) rest
            let rest ← value (← readColon rest)
            skipMembers value fuel false rest
          | rest => .error (.ahead .keyNotString rest)
        if first then name (c :: rest)
        else if c = ',' then name rest
        else .error (.ahead .noMemberEnd (c :: rest))

end Gatekeeper.Json

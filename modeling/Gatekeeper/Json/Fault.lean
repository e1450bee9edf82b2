import Gatekeeper.Double.Shortest
import Gatekeeper.Text.Quoted
import Gatekeeper.Time.Rfc3339

/-!
# `Gatekeeper.Json.Fault`: why a text is not the JSON of a record

A text can fail in three ways: it breaks off, it is not JSON, or it is JSON of another form
than the record's. `Fault` lists the causes, `Fault.category` sorts them into these three,
and `Fault.message` words them. A `Failure` also knows how much of the text was still to
come, from which `Failure.describe` finds the line and column. Texts are read byte by byte, so
a place may lie inside a character.
-/

set_option autoImplicit false

namespace Gatekeeper.Json

/-- The three ways in which a text fails to be the JSON of a record. -/
inductive Category where
  /-- The text ends too early. -/
  | brokenOff
  /-- The text is not JSON. -/
  | malformed
  /-- The text is JSON of another form. -/
  | mismatch
  deriving DecidableEq, Repr

/-- What stands in a text where something else was expected. -/
inductive Found where
  | null
  | boolean (b : Bool)
  | integer (n : Int)
  | decimal (isNegative : Bool) (magnitude : Double)
  | text (s : String)
  | array
  | object
  deriving DecidableEq, Repr

/-- The cause for which a text is not the JSON of a record. -/
inductive Fault where
  | noValue
  | openArray
  | openObject
  | openString
  | noColon
  | noItemEnd
  | noMemberEnd
  | unknownLiteral
  | noValueHere
  | unknownEscape
  | badNumber
  | hugeNumber
  | loneSurrogate
  | unpairedSurrogate
  | controlCharacter
  | keyNotString
  | trailingComma
  | trailingCharacters
  | tooDeep
  | wrongType (found : Found) (expected : String)
  | wrongValue (found : Found) (expected : String)
  | wrongLength (length : Nat) (expected : String)
  | unknownVariant (name : String) (known : List String)
  | missingMember (name : String)
  | repeatedMember (name : String)
  | noTime (cause : Time.Fault)
  deriving DecidableEq, Repr

namespace Fault

/-- Which of the three ways of failing a cause belongs to. -/
def category : Fault → Category
  | noValue | openArray | openObject | openString => .brokenOff
  | wrongType .. | wrongValue .. | wrongLength .. | unknownVariant .. | missingMember ..
  | repeatedMember .. | noTime _ => .mismatch
  | _ => .malformed

end Fault

/-- The written form of a number that need not be whole. -/
def writeDecimal (isNegative : Bool) (magnitude : Double) : List Char :=
  if isNegative then '-' :: magnitude.write else magnitude.write

/-- The words for what stands in a text. -/
def Found.describe : Found → String
  | null => "null"
  | boolean b => "boolean `" ++ (if b then "true" else "false") ++ "`"
  | integer n => "integer `" ++ toString n ++ "`"
  | decimal isNegative magnitude =>
    "floating point `" ++ String.ofList (writeDecimal isNegative magnitude) ++ "`"
  | text s => "string " ++ Text.quoted s
  | array => "sequence"
  | object => "map"

namespace Fault

/-- The names, each between back quotes, as a choice. -/
def choice : List String → String
  | [] => "there are no variants"
  | [a] => "expected `" ++ a ++ "`"
  | [a, b] => "expected `" ++ a ++ "` or `" ++ b ++ "`"
  | names => "expected one of " ++ ", ".intercalate (names.map fun n => "`" ++ n ++ "`")

/-- The words for a cause. -/
def message : Fault → String
  | noValue => "EOF while parsing a value"
  | openArray => "EOF while parsing a list"
  | openObject => "EOF while parsing an object"
  | openString => "EOF while parsing a string"
  | noColon => "expected `:`"
  | noItemEnd => "expected `,` or `]`"
  | noMemberEnd => "expected `,` or `\x7d`"
  | unknownLiteral => "expected ident"
  | noValueHere => "expected value"
  | unknownEscape => "invalid escape"
  | badNumber => "invalid number"
  | hugeNumber => "number out of range"
  | loneSurrogate => "lone leading surrogate in hex escape"
  | unpairedSurrogate => "unexpected end of hex escape"
  | controlCharacter =>
    "control character (\\u0000-\\u001F) found while parsing a string"
  | keyNotString => "key must be a string"
  | trailingComma => "trailing comma"
  | trailingCharacters => "trailing characters"
  | tooDeep => "recursion limit exceeded"
  | wrongType found expected => "invalid type: " ++ found.describe ++ ", expected " ++ expected
  | wrongValue found expected => "invalid value: " ++ found.describe ++ ", expected " ++ expected
  | wrongLength length expected =>
    "invalid length " ++ toString length ++ ", expected " ++ expected
  | unknownVariant name known => "unknown variant `" ++ name ++ "`, " ++ choice known
  | missingMember name => "missing field `" ++ name ++ "`"
  | repeatedMember name => "duplicate field `" ++ name ++ "`"
  | noTime cause => cause.message

end Fault

/-- A cause and the place in the text where it showed. -/
structure Failure where
  fault : Fault
  /-- The part of the text that was still to be read. -/
  rest : List Char
  /-- The number of bytes of the rest that belong to the fault all the same. -/
  beyond : Nat
  deriving DecidableEq, Repr

namespace Failure

/-- The cause, placed at the last byte that was read. -/
def behind (fault : Fault) (rest : List Char) : Failure := ⟨fault, rest, 0⟩

/-- The cause, placed at the byte that comes next, if there is one. -/
def ahead (fault : Fault) (rest : List Char) : Failure := ⟨fault, rest, 1⟩

/-- The bytes of a text in UTF-8. -/
def bytes (text : List Char) : List UInt8 := text.flatMap String.utf8EncodeChar

/-- The line of the place in `text`, from 1, and its column, from 1: how many lines end before
it, and how many bytes of its own line come up to it. -/
def position (failure : Failure) (text : List Char) : Nat × Nat :=
  let all := bytes text
  let read := all.take (all.length - (bytes failure.rest).length + failure.beyond)
  (read.count 10 + 1, (read.reverse.takeWhile (· != 10)).length)

/-- The words for the cause and the place in `text`. -/
def describe (failure : Failure) (text : List Char) : String :=
  let (line, column) := failure.position text
  failure.fault.message ++ " at line " ++ toString line ++ " column " ++ toString column

example : (ahead .badNumber ['\n']).position "1.\n".toList = (2, 0) := by decide +kernel

example : (ahead .unknownLiteral ['é']).position ['n', 'é'] = (1, 2) := by decide +kernel

end Failure

/-- What comes of reading: what was read, as a rule with the rest of the text, or a failure. -/
abbrev Reading : Type → Type := Except Failure

end Gatekeeper.Json

import Gatekeeper.Credential.Kind

/-!
# `Gatekeeper.Http.MediaType`: the type of a body

The value of a content type header is a type, a slash and a subtype, in letters of any case,
with parameters behind semicolons. A body counts as JSON if its type is `application` and its
subtype is `json` or has the suffix `+json`.
-/

set_option autoImplicit false

namespace Gatekeeper.Http.MediaType

/-- Whether a character may stand in a name. -/
def isTokenChar (c : Char) : Bool :=
  c.isAlphanum || "!#$%&'*+-.^_`|~".toList.contains c

/-- The rest after the value of a parameter that is not quoted, if it has one. -/
def skipToken (cs : List Char) : Option (List Char) :=
  let rest := cs.dropWhile isTokenChar
  if rest.length = cs.length then none else some rest

/-- Whether a character may stand in a quoted value. -/
def isQuotedChar (c : Char) : Bool := 0x20 ≤ c.toNat && c.toNat != 0x7F

/-- The rest after the value of a parameter whose opening quotation mark has been read, and
the spaces behind it. The value may not be empty, so its first character is never the closing
quotation mark. -/
def skipQuoted : List Char → Option (List Char)
  | [] => none
  | c :: cs =>
    match cs.dropWhile fun c => c != '"' with
    | '"' :: rest =>
      if (c :: cs.takeWhile fun c => c != '"').all isQuotedChar then
        some (rest.dropWhile (· == ' '))
      else none
    | _ => none

/-- Whether a text is a list of parameters, each a name, an equals sign and a value. Every
round reads a character at least, so the length of the text is enough fuel. -/
def areParameters : Nat → List Char → Bool
  | 0, _ => true
  | fuel + 1, cs =>
    match cs.dropWhile (· == ' ') with
    | [] => true
    | cs =>
      match skipToken cs with
      | some ('=' :: rest) =>
        let rest := match rest with
          | '"' :: rest => skipQuoted rest
          | [] => some []
          | rest => skipToken rest
        match rest with
        | some [] => true
        | some (';' :: rest) => areParameters fuel rest
        | _ => false
      | _ => false

/-- The parts of a subtype before and after its last plus sign. -/
def splitSuffix (subtype : List Char) : List Char × Option (List Char) :=
  let suffix := (subtype.reverse.takeWhile (· != '+')).reverse
  let base := subtype.take (subtype.length - suffix.length - 1)
  if suffix.length = subtype.length ∨ base.isEmpty then (subtype, none) else (base, some suffix)

/-- Whether the value of a content type header names JSON. -/
def isJson (header : String) : Bool :=
  let cs := header.toList
  let mainType := cs.takeWhile isTokenChar
  match cs.dropWhile isTokenChar with
  | '/' :: rest =>
    let subtype := (rest.takeWhile isTokenChar).map Char.toLower
    let fits := match rest.dropWhile isTokenChar with
      | [] => true
      | ';' :: parameters => areParameters (parameters.length + 1) parameters
      | _ => false
    let (base, suffix) := splitSuffix subtype
    cs.all isHeaderText && fits && mainType.map Char.toLower == "application".toList &&
      (base == "json".toList || suffix == some "json".toList)
  | _ => false

example : isJson "application/json; charset=utf-8" = true := by decide +kernel

example : isJson "Application/vnd.api+JSON" = true := by decide +kernel

example : isJson "application/json; a=\"\"\"" = true ∧
    isJson "application/json; a=\"\"" = false := by
  decide +kernel

example : isJson "text/json" = false ∧ isJson "application/json " = false := by decide +kernel

end Gatekeeper.Http.MediaType

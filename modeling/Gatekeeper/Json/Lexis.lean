import Gatekeeper.Json.Fault

/-!
# `Gatekeeper.Json.Lexis`: literals, strings and numbers

The parts of JSON that hold no other value, read from the front of a text. A string is
written with an escape for the quotation mark, the reverse solidus and the characters below
U+0020, and read with any escape that JSON has; a surrogate that stands without its partner
is not a character and is refused.

Whole numbers between `-2 ^ 63` and `2 ^ 64 - 1` are kept as they are, and all others as numbers
of double precision, for which they may be too large.
-/

set_option autoImplicit false

namespace Gatekeeper.Json

open Text (spanDigits valueUpTo)

/-- Whether a character may stand between the parts of JSON. -/
def isSpace (c : Char) : Bool := c == ' ' || c == '\n' || c == '\t' || c == '\r'

/-- The text from the first character on that is no space. -/
def skipSpace (cs : List Char) : List Char := cs.dropWhile isSpace

/-- The rest after the characters `expected`. -/
def readLiteral : List Char → List Char → Reading (List Char)
  | [], cs => .ok cs
  | _ :: _, [] => .error (.behind .noValue [])
  | e :: expected, c :: cs =>
    if c = e then readLiteral expected cs else .error (.ahead .unknownLiteral (c :: cs))

/-! ### Strings -/

/-- A character as it stands inside a written string. -/
def escapeChar (c : Char) : List Char :=
  if c = '"' then ['\\', '"']
  else if c = '\\' then ['\\', '\\']
  else if c = '\n' then ['\\', 'n']
  else if c = '\r' then ['\\', 'r']
  else if c = '\t' then ['\\', 't']
  else if c = '\x08' then ['\\', 'b']
  else if c = '\x0c' then ['\\', 'f']
  else if c.toNat < 0x20 then
    ['\\', 'u', '0', '0', Nat.digitChar (c.toNat / 16), Nat.digitChar (c.toNat % 16)]
  else [c]

/-- A written string. -/
def writeString (s : String) : List Char := '"' :: s.toList.flatMap escapeChar ++ ['"']

/-- The number that a hexadecimal digit stands for. -/
def hexDigit? (c : Char) : Option Nat :=
  if '0' ≤ c ∧ c ≤ '9' then some (c.toNat - 48)
  else if 'a' ≤ c ∧ c ≤ 'f' then some (c.toNat - 87)
  else if 'A' ≤ c ∧ c ≤ 'F' then some (c.toNat - 55)
  else none

/-- The number that four hexadecimal digits in front stand for. The text breaks off if it
holds fewer than four bytes. -/
def readHex (cs : List Char) : Reading (Nat × List Char) :=
  match cs.take 4 |>.mapM hexDigit? with
  | some [a, b, c, d] => .ok (((a * 16 + b) * 16 + c) * 16 + d, cs.drop 4)
  | _ =>
    if (String.ofList (cs.take 4)).utf8ByteSize < 4 then .error (.behind .openString [])
    else .error ⟨.unknownEscape, cs, 4⟩

/-- The character that stands for a UTF-16 unit by itself, or for it and a second unit in
an escape right behind it. -/
def readUnits (first : Nat) (cs : List Char) : Reading (Char × List Char) :=
  if 0xDC00 ≤ first ∧ first ≤ 0xDFFF then .error (.behind .loneSurrogate cs)
  else if first < 0xD800 ∨ 0xDFFF < first then .ok (Char.ofNat first, cs)
  else match cs with
    | [] | ['\\'] => .error (.behind .openString [])
    | '\\' :: 'u' :: rest => do
      let (second, rest) ← readHex rest
      if 0xDC00 ≤ second ∧ second ≤ 0xDFFF then
        return (Char.ofNat (0x10000 + (first - 0xD800) * 0x400 + (second - 0xDC00)), rest)
      else .error (.behind .loneSurrogate rest)
    | '\\' :: _ => .error ⟨.unpairedSurrogate, cs, 2⟩
    | _ => .error (.ahead .unpairedSurrogate cs)

/-- The character that an escape stands for, read after its reverse solidus. -/
def readEscape : List Char → Reading (Char × List Char)
  | [] => .error (.behind .openString [])
  | '"' :: rest => .ok ('"', rest)
  | '\\' :: rest => .ok ('\\', rest)
  | '/' :: rest => .ok ('/', rest)
  | 'b' :: rest => .ok ('\x08', rest)
  | 'f' :: rest => .ok ('\x0c', rest)
  | 'n' :: rest => .ok ('\n', rest)
  | 'r' :: rest => .ok ('\r', rest)
  | 't' :: rest => .ok ('\t', rest)
  | 'u' :: rest => do
    let (unit, rest) ← readHex rest
    readUnits unit rest
  | cs => .error (.ahead .unknownEscape cs)

/-- The characters up to the closing quotation mark. Every round reads a character at
least, so the length of the text is enough fuel. -/
def readChars : Nat → List Char → Reading (List Char × List Char)
  | 0, cs => .error (.behind .openString cs)
  | _ + 1, [] => .error (.behind .openString [])
  | fuel + 1, c :: rest =>
    if c = '"' then .ok ([], rest)
    else if c = '\\' then do
      let (c, rest) ← readEscape rest
      let (cs, rest) ← readChars fuel rest
      return (c :: cs, rest)
    else if c.toNat < 0x20 then .error (.ahead .controlCharacter (c :: rest))
    else do
      let (cs, rest) ← readChars fuel rest
      return (c :: cs, rest)

/-- The string whose opening quotation mark has been read. -/
def readStringBody (cs : List Char) : Reading (String × List Char) := do
  let (cs, rest) ← readChars (cs.length + 1) cs
  return (String.ofList cs, rest)

/-- The rest after a string that nobody asks for. Its surrogates need no partners. -/
def skipChars : Nat → List Char → Reading (List Char)
  | 0, cs => .error (.behind .openString cs)
  | _ + 1, [] => .error (.behind .openString [])
  | fuel + 1, c :: rest =>
    if c = '"' then .ok rest
    else if c = '\\' then
      match rest with
      | 'u' :: rest => do
        let (_, rest) ← readHex rest
        skipChars fuel rest
      | rest => do
        let (_, rest) ← readEscape rest
        skipChars fuel rest
    else if c.toNat < 0x20 then .error (.behind .controlCharacter (c :: rest))
    else skipChars fuel rest

/-! ### Numbers -/

/-- A number as JSON writes it. -/
inductive Number where
  /-- A whole number between `-2 ^ 63` and `2 ^ 64 - 1`, other than a written `-0`. -/
  | integer (n : Int)
  /-- Any other number. -/
  | decimal (isNegative : Bool) (magnitude : Double)
  deriving DecidableEq, Repr

/-- What a number counts as where something else was expected. -/
def Number.found : Number → Found
  | integer n => .integer n
  | decimal isNegative magnitude => .decimal isNegative magnitude

/-- The written form of a number. -/
def Number.write : Number → List Char
  | integer n => if n < 0 then '-' :: Text.numeral n.natAbs else Text.numeral n.natAbs
  | decimal isNegative magnitude => writeDecimal isNegative magnitude

/-- The greatest whole number that is kept as it is, `2 ^ 64 - 1`. -/
def greatestWhole : Nat := 0xFFFFFFFFFFFFFFFF

/-- How far below zero whole numbers are kept as they are, `2 ^ 63`. -/
def greatestDebt : Nat := 0x8000000000000000

/-- The greatest power of ten that can be written, `2 ^ 31 - 1`. -/
def greatestPower : Nat := 0x7FFFFFFF

/-- The digits of a fraction in front, and the rest. -/
def readFraction : List Char → Reading (List Char × List Char)
  | '.' :: rest =>
    match spanDigits rest with
    | ([], []) => .error (.behind .noValue [])
    | ([], rest) => .error (.ahead .badNumber rest)
    | (digits, rest) => .ok (digits, rest)
  | rest => .ok ([], rest)

/-- The power of ten of a number, as it is written. -/
structure Power where
  isNegative : Bool
  digits : List Char

/-- The power of ten in front, if there is one, and the rest. -/
def readPower : List Char → Reading (Option Power × List Char)
  | 'e' :: rest | 'E' :: rest =>
    let (isNegative, rest) : Bool × List Char := match rest with
      | '+' :: rest => (false, rest)
      | '-' :: rest => (true, rest)
      | rest => (false, rest)
    match spanDigits rest with
    | ([], []) => .error (.behind .noValue [])
    | ([], rest) => .error (.ahead .badNumber rest)
    | (digits, rest) => .ok (some ⟨isNegative, digits⟩, rest)
  | rest => .ok (none, rest)

/-- The number `significand * 10 ^ exponent`, if it is not too large. -/
def scaled (isNegative : Bool) (significand : Nat) (exponent : Int) (rest : List Char) :
    Reading (Number × List Char) :=
  match Double.ofDecimal? significand exponent with
  | some magnitude => .ok (.decimal isNegative magnitude, rest)
  | none => .error (.behind .hugeNumber rest)

/-- A number without its sign. Digits that do not fit into 64 bits are dropped, and a power of
ten that is too great makes any number but zero too large. -/
def readUnsigned (isNegative : Bool) (cs : List Char) : Reading (Number × List Char) :=
  match spanDigits cs with
  | ([], []) => .error (.behind .noValue [])
  | ([], rest) => .error (.ahead .badNumber rest)
  | ('0' :: _ :: _, _) => .error (.ahead .badNumber (cs.drop 1))
  | (digits, rest) => do
    let (fraction, rest) ← readFraction rest
    let (power, rest) ← readPower rest
    let (whole, dropped) := valueUpTo greatestWhole 0 digits
    let (significand, left) := valueUpTo greatestWhole whole fraction
    let exponent : Int := dropped.length + left.length - fraction.length
    match power with
    | none =>
      if fraction.isEmpty && dropped.isEmpty then
        if !isNegative then return (.integer whole, rest)
        else if 0 < whole ∧ whole ≤ greatestDebt then return (.integer (-whole), rest)
        else scaled isNegative whole 0 rest
      else scaled isNegative significand exponent rest
    | some power =>
      match valueUpTo greatestPower 0 power.digits with
      | (n, []) =>
        scaled isNegative significand (if power.isNegative then exponent - n else exponent + n) rest
      | (_, _ :: later) =>
        if significand = 0 ∨ power.isNegative then return (.decimal isNegative .zero, rest)
        else .error (.behind .hugeNumber (later ++ rest))

/-- A number in front of a text. -/
def readNumber : List Char → Reading (Number × List Char)
  | '-' :: rest => readUnsigned true rest
  | cs => readUnsigned false cs

/-- The rest after a number that nobody asks for. It may break off like any malformed one, and
cannot be too large. -/
def skipNumber (cs : List Char) : Reading (List Char) :=
  let unsigned := match cs with
    | '-' :: rest => rest
    | cs => cs
  let power (cs : List Char) : Reading (List Char) :=
    match cs with
    | 'e' :: rest | 'E' :: rest =>
      let rest := match rest with
        | '+' :: rest | '-' :: rest => rest
        | rest => rest
      match spanDigits rest with
      | ([], rest) => .error (.ahead .badNumber rest)
      | (_, rest) => .ok rest
    | cs => .ok cs
  match spanDigits unsigned with
  | ([], rest) => .error (.ahead .badNumber rest)
  | ('0' :: _ :: _, _) => .error (.ahead .badNumber (unsigned.drop 1))
  | (_, '.' :: rest) =>
    match spanDigits rest with
    | ([], rest) => .error (.ahead .badNumber rest)
    | (_, rest) => power rest
  | (_, rest) => power rest

end Gatekeeper.Json

import Gatekeeper.Credential.Kind
import Gatekeeper.Flow

/-!
# `Gatekeeper.Code.Store`: issuing and using recover codes

A new code has an id and a text of its own and is valid for a span from now on. Using a code
is a single call to the database. A challenge is used up by one use, a one-time code by as
many as are allowed.
-/

set_option autoImplicit false

namespace Gatekeeper

namespace SerialId

/-- The hexadecimal digits of the `n`-th id, twelve at least. -/
def digits (n : Nat) : List Char :=
  let hex := Nat.toDigits 16 n
  List.replicate (12 - hex.length) '0' ++ hex

/-- The written form of the `n`-th id, in groups of digits. -/
def grouped (n : Nat) : String :=
  String.ofList ("00000000-0000-4000-8000-".toList ++ digits n)

/-- The written form of the `n`-th id without marks between its digits. -/
def plain (n : Nat) : String := String.ofList ("00000000000040008000".toList ++ digits n)

end SerialId

/-- What a new recover code is issued for. -/
structure CodeOrder where
  ownerId : String
  origin : String
  kind : CodeKind
  network : Network
  metadata : Json.Value
  /-- Whether the code is good for some routes only. -/
  cli : Bool

namespace CodeStore

open Gatekeeper.Flow (call take)

/-- Issues a code that is valid for a span from now on. -/
def issue (ttl : Duration) (order : CodeOrder) : Flow RecoverCode := do
  let now ← Flow.now
  let validAt ← Flow.inCalendar (now.add? ttl)
  let id ← take .drawId
  let number ← take .drawId
  let mark := if order.cli then cliMark else codeMark
  let code : RecoverCode :=
    { id := SerialId.grouped id
      code := mark ++ SerialId.plain number
      ownerId := order.ownerId
      origin := order.origin
      kind := order.kind
      validAt := validAt
      used := false
      usesCount := 0
      network := order.network
      metadata := order.metadata
      createdAt := now }
  call (.insertCode code)
  return code

/-- Uses a code of a kind. -/
def consume (code : String) (kind : CodeKind) (maxUses : UInt32) : Flow RecoverCode := do
  let now ← Flow.now
  match ← call (.consumeCode code kind maxUses now) with
  | .consumed record => return record
  | .rejected _ => Flow.refuse .expiredCode
  | .notFound => Flow.refuse .unknownCode

/-- Uses a one-time code, which can be used `maxUses` times. -/
def consumeOnce (maxUses : UInt32) (code : String) : Flow RecoverCode :=
  consume code .oneTime maxUses

/-- Uses a challenge, which can be used once. -/
def consumeChallenge (code : String) : Flow RecoverCode := consume code .challenge 1

/-- The challenge with a code, if it can be used. -/
def findChallenge (code : String) : Flow RecoverCode := do
  match ← call (.findCode code) with
  | none => Flow.refuse .unknownCode
  | some record =>
    if record.kind = .challenge then
      if record.isUsable (← Flow.now) then return record else Flow.refuse .expiredCode
    else Flow.refuse .unknownCode

/-- Deletes the codes that expired longer ago than `retention`, and counts them. -/
def purge (retention : Duration) : Flow Nat := do
  let now ← Flow.now
  let cutoff ← Flow.inCalendar (now.subtract? retention)
  call (.deleteCodesBefore cutoff)

end CodeStore

end Gatekeeper

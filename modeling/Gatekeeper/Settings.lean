import Gatekeeper.Credential.Route
import Gatekeeper.Text.Numeral
import Gatekeeper.Time.Instant

/-!
# `Gatekeeper.Settings`: what can be set

The settings of the server, each from a named variable. Numbers may have blanks around them;
a variable that is missing or no number within bounds leaves the default.
-/

set_option autoImplicit false

namespace Gatekeeper

/-- The settings of the server. -/
structure Settings where
  /-- The directory of the database. -/
  dataDir : String := "/data"
  host : String := "0.0.0.0"
  port : Nat := 8080
  /-- How long a session lives without being used. -/
  sessionTtlSecs : Nat := 1200
  /-- The time between two sweeps. -/
  sweepIntervalSecs : Nat := 300
  /-- How many sessions are kept in memory. -/
  sessionCacheCapacity : Nat := 10000
  /-- How often a one-time code can be used. -/
  codeMaxUses : UInt32 := 3
  /-- How long a recover code is valid. -/
  codeTtlSecs : Nat := 300
  /-- How long an expired recover code is kept. -/
  codeRetentionSecs : Nat := 604800
  /-- How long the store may take for a decision. -/
  requestTimeoutMs : Nat := 5000
  /-- The routes that CLI codes are good for. -/
  cliRoutes : List CliRoute := CliRoute.defaults
  deriving DecidableEq, Repr

namespace Settings

/-- The number that a variable holds, if it is one within the limit, or the default. -/
def number (lookup : String → Option String) (name : String) (limit default : Nat) : Nat :=
  match lookup name with
  | none => default
  | some raw => (Text.boundedNumeral? limit (Text.trimChars raw.toList)).getD default

/-- The settings that variables name. A one-time code can be used once at least. -/
def ofLookup (lookup : String → Option String) : Settings :=
  let word := UInt64.size - 1
  { dataDir := (lookup "DATA_DIR").getD "/data"
    host := (lookup "HOST").getD "0.0.0.0"
    port := number lookup "PORT" (UInt16.size - 1) 8080
    sessionTtlSecs := number lookup "SESSION_TTL_SECS" word 1200
    sweepIntervalSecs := number lookup "SESSION_SWEEP_INTERVAL_SECS" word 300
    sessionCacheCapacity := number lookup "SESSION_CACHE_CAPACITY" word 10000
    codeMaxUses := .ofNat (max 1 (number lookup "RECOVER_CODE_MAX_USES" (UInt32.size - 1) 3))
    codeTtlSecs := number lookup "RECOVER_CODE_TTL_SECS" word 300
    codeRetentionSecs := number lookup "RECOVER_CODE_RETENTION_SECS" word 604800
    requestTimeoutMs := number lookup "REQUEST_TIMEOUT_MS" word 5000
    cliRoutes := ((lookup "CLI_ROUTES").map CliRoute.parseList).getD CliRoute.defaults }

/-- The file of the database. -/
def databasePath (s : Settings) : String :=
  match s.dataDir.toList.getLast? with
  | none | some '/' => s.dataDir ++ "auth.redb"
  | some _ => s.dataDir ++ "/auth.redb"

/-- The address at which the server listens. -/
def bindAddress (s : Settings) : String := s.host ++ ":" ++ toString s.port

/-- The directories that a path leads through from the root, if it is absolute. Repeated
slashes and single points lead nowhere. -/
def steps? (path : String) : Option (List String) :=
  match path.toList with
  | '/' :: rest =>
    some ((Text.split '/' rest).map String.ofList |>.filter fun step => step != "" && step != ".")
  | _ => none

/-- Whether nothing is set but the defaults. Two paths to the data directory are the same if
they lead through the same directories. -/
def isDefault (s : Settings) : Bool :=
  steps? s.dataDir == some ["data"] && { s with dataDir := "/data" } == ({} : Settings)

/-- How long a session lives without being used, as a span of time. -/
def sessionTtl (s : Settings) : Duration := .clamped s.sessionTtlSecs 0

/-- How long a recover code is valid, as a span of time. -/
def codeTtl (s : Settings) : Duration := .clamped s.codeTtlSecs 0

/-- How long an expired recover code is kept, as a span of time. -/
def codeRetention (s : Settings) : Duration := .clamped s.codeRetentionSecs 0

end Settings

end Gatekeeper

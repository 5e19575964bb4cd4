import PoolOperator.Address.Socket
import PoolOperator.Text.Blank

/-!
# Settings

What the operator is told through variables. Every setting has a default, which stands only for a
variable that is not set: a value that cannot be read is an error.
-/

namespace PoolOperator

/-- What the operator is told. Delays are in seconds. -/
structure Settings where
  /-- The namespace whose objects are watched. -/
  ns : String
  /-- The delay after which an unchanged object is looked at again. -/
  resync : UInt64
  /-- The number of attempts before conflicting writes become an error. -/
  maxAttempts : UInt32
  backoffLeast : UInt64
  backoffGreatest : UInt64
  /-- Where probes and metrics are served. -/
  bindAddress : SocketAddress
deriving DecidableEq, Repr

/-- Why settings are refused. -/
inductive SettingsError where
  | notANumeral (key raw : String) (cause : Text.NumeralError)
  | notASocketAddress (raw : String)
  | resyncZero
  | maxAttemptsZero
  | backoffBounds (least greatest : Nat)
deriving DecidableEq, Repr

/-- The wording of a settings error. -/
def SettingsError.message : SettingsError → String
  | .notANumeral key raw cause => s!"{key} '{raw}' is invalid: {cause.message}"
  | .notASocketAddress raw =>
    s!"HEALTH_PROBE_BIND_ADDRESS '{raw}' is not a socket address: invalid socket address syntax"
  | .resyncZero => "RESYNC_INTERVAL_SECS must be greater than 0"
  | .maxAttemptsZero => "MAX_CONFLICT_RETRIES must be at least 1"
  | .backoffBounds least greatest =>
    "backoff bounds must satisfy 0 < BACKOFF_MIN_SECS <= BACKOFF_MAX_SECS " ++
      s!"(got {least} and {greatest})"

namespace Settings

/-- The namespace watched when none is named. -/
def defaultNs : String := "metallb-system"

/-- The text of the default address for probes. -/
def defaultBindAddress : String := "0.0.0.0:8081"

/-- The namespace to watch: the first of two variables that is set, unless its value is blank. -/
def readNs (lookup : String → Option String) : String :=
  let named := (lookup "WATCH_NAMESPACE").or (lookup "OPERATOR_NAMESPACE")
  (named.filter fun ns => !Text.allBlank ns.toList).getD defaultNs

/-- The value of a numeric variable. Blanks around the numeral do not count. -/
def readWord (lookup : String → Option String) (key : String) (greatest default : Nat) :
    Except SettingsError Nat :=
  match lookup key with
  | none => .ok default
  | some raw =>
    match Text.readNumeral greatest (Text.trim raw.toList) with
    | .ok n => .ok n
    | .error cause => .error (.notANumeral key raw cause)

/-- The address for probes. -/
def readBindAddress (lookup : String → Option String) : Except SettingsError SocketAddress :=
  let raw := (lookup "HEALTH_PROBE_BIND_ADDRESS").getD defaultBindAddress
  match SocketAddress.parse? raw with
  | some address => .ok address
  | none => .error (.notASocketAddress raw)

/-- Reads the settings. All variables are read before the values are compared. -/
def read (lookup : String → Option String) : Except SettingsError Settings := do
  let resync ← readWord lookup "RESYNC_INTERVAL_SECS" Text.maxWord64 300
  let maxAttempts ← readWord lookup "MAX_CONFLICT_RETRIES" Text.maxWord32 5
  let least ← readWord lookup "BACKOFF_MIN_SECS" Text.maxWord64 1
  let greatest ← readWord lookup "BACKOFF_MAX_SECS" Text.maxWord64 60
  let bindAddress ← readBindAddress lookup
  if resync = 0 then .error .resyncZero
  else if maxAttempts = 0 then .error .maxAttemptsZero
  else if least = 0 ∨ greatest < least then .error (.backoffBounds least greatest)
  else
    .ok {
      ns := readNs lookup
      resync := .ofNat resync
      maxAttempts := .ofNat maxAttempts
      backoffLeast := .ofNat least
      backoffGreatest := .ofNat greatest
      bindAddress := bindAddress }

end Settings

end PoolOperator

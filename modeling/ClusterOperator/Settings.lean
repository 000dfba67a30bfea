import ClusterOperator.Queue.Backoff
import ClusterOperator.Text.Decimal

/-!
# Settings

* `Settings` : the numbers and switches that the environment sets;
* `Settings.read` : the settings of an environment, or the first variable that cannot be read;
* `RequeueSettings.refresh`, `RequeueSettings.backoff`, `Settings.workerCount`,
  `Settings.queryTimeout` : the settings as they are used, each raised to its floor.
-/

namespace ClusterOperator

/-- How often passes are repeated and retried, in the units of the environment. -/
structure RequeueSettings where
  defaultRefreshSecs : UInt64 := 30
  minRefreshSecs : UInt64 := 5
  retryBaseMillis : UInt64 := 1000
  retryMaxSecs : UInt64 := 300
  deriving DecidableEq, Repr

structure Settings where
  httpPort : UInt16 := 8081
  watchNamespace : Option String := none
  workers : UInt64 := 4
  clusters : Bool := true
  queries : Bool := true
  requeue : RequeueSettings := {}
  queryTimeoutSecs : UInt64 := 30
  deriving DecidableEq, Repr

/-- The interval between refreshes of a query that sets none, and the shortest interval. -/
structure RefreshSettings where
  default : Duration := Duration.ofSecs 30
  shortest : Duration := Duration.ofSecs 5
  deriving DecidableEq, Repr

namespace RequeueSettings

/-- The intervals are at least a second, and the default is no shorter than the shortest. -/
def refresh (s : RequeueSettings) : RefreshSettings :=
  let shortest := Duration.ofSecs (max s.minRefreshSecs 1)
  { default := max (Duration.ofSecs s.defaultRefreshSecs) shortest, shortest }

/-- The first delay is at least a millisecond, and the longest is no shorter than the first. -/
def backoff (s : RequeueSettings) : BackoffPolicy :=
  let base := Duration.ofMillis (max s.retryBaseMillis 1)
  { base, longest := max (Duration.ofSecs s.retryMaxSecs) base }

end RequeueSettings

namespace Settings

/-- The number of workers, at least one. -/
def workerCount (s : Settings) : Nat :=
  max s.workers.toNat 1

/-- The time that a query may take, at least a second. -/
def queryTimeout (s : Settings) : Duration :=
  Duration.ofSecs (max s.queryTimeoutSecs 1)

/-- The address that the health endpoint listens on: every interface. -/
def httpAddress (s : Settings) : String :=
  "0.0.0.0:" ++ String.ofList (Text.Decimal.digits s.httpPort.toNat)

/-! ## Reading the environment -/

/-- The variable of this name could not be read. -/
structure Unreadable where
  name : String
  deriving DecidableEq, Repr

def Unreadable.message (u : Unreadable) : String :=
  "Failed to parse environment variable " ++ u.name

/-- The value of a variable, or its default when it is not set. -/
def setting {α : Type} (env : String → Option String) (name : String)
    (read : List Char → Option α) (default : α) : Except Unreadable α :=
  match env name with
  | none => .ok default
  | some text =>
    match read text.toList with
    | some a => .ok a
    | none => .error ⟨name⟩

/-- `true` or `false`. -/
def readSwitch? (s : List Char) : Option Bool :=
  if s = "true".toList then some true else if s = "false".toList then some false else none

def readUInt64? (s : List Char) : Option UInt64 :=
  (Text.Decimal.readUnsigned? 18446744073709551615 s).map UInt64.ofNat

def readUInt16? (s : List Char) : Option UInt16 :=
  (Text.Decimal.readUnsigned? 65535 s).map UInt16.ofNat

/-- The settings of an environment; of several variables that cannot be read, the first in the
order below is named. -/
def read (env : String → Option String) : Except Unreadable Settings := do
  let httpPort ← setting env "HTTP_PORT" readUInt16? 8081
  let workers ← setting env "BSS_OPERATOR_WORKERS" readUInt64? 4
  let clusters ← setting env "BSS_OPERATOR_FEATURES_CLUSTER" readSwitch? true
  let queries ← setting env "BSS_OPERATOR_FEATURES_QUERY" readSwitch? true
  let defaultRefreshSecs ← setting env "BSS_OPERATOR_DEFAULT_REFRESH_SECS" readUInt64? 30
  let minRefreshSecs ← setting env "BSS_OPERATOR_MIN_REFRESH_SECS" readUInt64? 5
  let retryBaseMillis ← setting env "BSS_OPERATOR_RETRY_BASE_MS" readUInt64? 1000
  let retryMaxSecs ← setting env "BSS_OPERATOR_RETRY_MAX_SECS" readUInt64? 300
  let queryTimeoutSecs ← setting env "BSS_OPERATOR_QUERY_TIMEOUT_SECS" readUInt64? 30
  return {
    httpPort, workers, clusters, queries, queryTimeoutSecs
    watchNamespace := env "BSS_OPERATOR_WATCH_NAMESPACE"
    requeue := { defaultRefreshSecs, minRefreshSecs, retryBaseMillis, retryMaxSecs } }

end Settings

end ClusterOperator

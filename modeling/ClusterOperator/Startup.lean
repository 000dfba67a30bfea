import ClusterOperator.Log.Filter
import ClusterOperator.Settings

/-!
# The start of the operator

* `environmentNames` : the environment variables that the operator reads;
* `Startup` : how far the operator gets before it looks for its cluster;
* `startUp` : the start under an environment.
-/

namespace ClusterOperator

/-- The environment variables that the operator reads: the filter of its log, and its settings. -/
def environmentNames : List String :=
  ["RUST_LOG", "HTTP_PORT", "BSS_OPERATOR_WATCH_NAMESPACE", "BSS_OPERATOR_WORKERS",
    "BSS_OPERATOR_FEATURES_CLUSTER", "BSS_OPERATOR_FEATURES_QUERY",
    "BSS_OPERATOR_DEFAULT_REFRESH_SECS", "BSS_OPERATOR_MIN_REFRESH_SECS",
    "BSS_OPERATOR_RETRY_BASE_MS", "BSS_OPERATOR_RETRY_MAX_SECS",
    "BSS_OPERATOR_QUERY_TIMEOUT_SECS"]

def logTarget : String := "bss_operator"

/-- The record that announces the start, and the fields that it carries. -/
def startRecord : String := "Starting bss-operator"

def startFields : List String :=
  ["message", "cfg"]

/-- The directive that holds unless the environment has a more specific one. -/
def defaultDirective : LogDirective where
  level := .info

def logFilter? (env : String → Option String) : Option LogFilter :=
  (LogFilter.read? ((env "RUST_LOG").getD "")).map (·.add defaultDirective)

/-- The line with which the operator reports that it cannot start. -/
def Settings.Unreadable.line (u : Settings.Unreadable) : String :=
  "Error: " ++ u.message

/-- How far the operator gets before it looks for its cluster. -/
inductive Startup where
  /-- The filter of the log cannot be read. -/
  | crashed
  | refused (u : Settings.Unreadable)
  /-- The settings are read; whether the start is announced depends on the filter. -/
  | ready (s : Settings) (announced : Bool)

namespace Startup

def announced : Startup → Bool
  | .ready _ announced => announced
  | _ => false

/-- The line with which the operator reports what is wrong with its settings. -/
def line? : Startup → Option String
  | .refused u => some u.line
  | _ => none

/-- The exit code of an operator that finds no cluster. -/
def exitCode : Startup → Nat
  | .crashed => 101
  | _ => 1

end Startup

/-- The filter of the log and then the settings are read, and the start is announced at the level
of information. -/
def startUp (env : String → Option String) : Startup :=
  match logFilter? env, Settings.read env with
  | none, _ => .crashed
  | some _, .error u => .refused u
  | some filter, .ok s => .ready s (filter.allows logTarget startFields .info)

end ClusterOperator

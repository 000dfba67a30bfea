import ClusterOperator.Json.Record

/-!
# Conditions

* `Condition` : one aspect of an entity's state, with its reason and the time of its last change;
* `Reason` : the reasons that passes give;
* `Condition.set` : the conditions with the one of a type set, and whether that changed anything;
* `Condition.find?`, `Condition.holds` : the condition of a type, and its status.

A list of conditions is kept in the order of their ranks. The time of a condition moves only when
its status does.
-/

namespace ClusterOperator

/-- The aspects that conditions speak of. -/
inductive ConditionType where
  | available
  | degraded
  | unknown
  deriving DecidableEq, Repr

inductive ConditionStatus where
  | yes
  | no
  | unknown
  deriving DecidableEq, Repr

/-- One aspect of an entity's state. -/
structure Condition where
  type : ConditionType
  status : ConditionStatus
  reason : Option String := none
  message : Option String := none
  lastTransitionTime : Option String := none
  deriving DecidableEq, Repr

/-! ## Reasons -/

namespace Reason

def reconciling : String := "Reconciling"
def reconcileSuccess : String := "ReconcileSuccess"
def reconcileFailed : String := "ReconcileFailed"
def querySuccess : String := "QuerySuccess"
def queryFailed : String := "QueryFailed"
def invalidConfig : String := "InvalidConfig"

end Reason

/-! ## JSON -/

namespace ConditionType

def name : ConditionType → String
  | .available => "Available"
  | .degraded => "Degraded"
  | .unknown => "Unknown"

/-- The type of a name; a name that is not known is of the type `unknown`. -/
def ofName (s : String) : ConditionType :=
  if s = "Available" then .available else if s = "Degraded" then .degraded else .unknown

def decode? (j : Json) : Option ConditionType :=
  (Json.readVariant? j).map ofName

/-- The place of a type among the conditions. -/
def rank : ConditionType → Nat
  | .available => 0
  | .degraded => 1
  | .unknown => 250

end ConditionType

namespace ConditionStatus

def name : ConditionStatus → String
  | .yes => "True"
  | .no => "False"
  | .unknown => "Unknown"

def ofName? (s : String) : Option ConditionStatus :=
  if s = "True" then some .yes
  else if s = "False" then some .no
  else if s = "Unknown" then some .unknown
  else none

def decode? (j : Json) : Option ConditionStatus :=
  (Json.readVariant? j).bind ofName?

end ConditionStatus

namespace Condition

open Json

def encode (c : Condition) : Json :=
  record [
    ("type", some (.str c.type.name)),
    ("status", some (.str c.status.name)),
    ("reason", c.reason.map .str),
    ("message", c.message.map .str),
    ("lastTransitionTime", c.lastTransitionTime.map .str)]

def decode? (j : Json) : Option Condition :=
  match slots? ["type", "status", "reason", "message", "lastTransitionTime"] j with
  | some [type, status, reason, message, time] => do
    return {
      type := ← type.required ConditionType.decode?
      status := ← status.required ConditionStatus.decode?
      reason := ← reason.optional readString?
      message := ← message.optional readString?
      lastTransitionTime := ← time.optional readString? }
  | _ => none

/-! ## Updates -/

/-- The condition with a new status, reason and message. The time is kept while the status is. -/
def update (c : Condition) (status : ConditionStatus) (reason message stamp : String) :
    Condition where
  type := c.type
  status := status
  reason := some reason
  message := some message
  lastTransitionTime :=
    if c.status = status then some (c.lastTransitionTime.getD stamp) else some stamp

/-- The condition after the ones that come before it by rank, in front of those that do not. -/
def insertByRank (c : Condition) : List Condition → List Condition
  | [] => [c]
  | d :: rest => if c.type.rank ≤ d.type.rank then c :: d :: rest else d :: insertByRank c rest

/-- The conditions in the order of their ranks; those of one rank keep their order. -/
def sortByRank (cs : List Condition) : List Condition :=
  cs.foldr insertByRank []

/-- The first condition of a type, updated, if there is one. -/
def updateFirst? (type : ConditionType) (f : Condition → Condition) :
    List Condition → Option (List Condition)
  | [] => none
  | c :: rest =>
    if c.type = type then some (f c :: rest)
    else (updateFirst? type f rest).map (c :: ·)

def find? (type : ConditionType) (cs : List Condition) : Option Condition :=
  cs.find? (·.type = type)

/-- The conditions with the one of a type set, and whether anything changed. -/
def set (type : ConditionType) (status : ConditionStatus) (reason message stamp : String)
    (cs : List Condition) : List Condition × Bool :=
  match updateFirst? type (·.update status reason message stamp) cs, find? type cs with
  | some updated, some c =>
    (updated, c.status ≠ status || c.reason ≠ some reason || c.message ≠ some message ||
      c.lastTransitionTime.isNone)
  | _, _ => (sortByRank (cs ++ [⟨type, status, some reason, some message, some stamp⟩]), true)

def holds (type : ConditionType) (status : ConditionStatus) (cs : List Condition) : Bool :=
  (find? type cs).any (·.status = status)

end Condition

end ClusterOperator

import ClusterOperator.Entity.Cluster
import ClusterOperator.Entity.Query

/-!
# Changes of a status

* `material` : an encoded status without the times that every pass moves;
* `shouldPublish` : a status differs from the published one in more than those times;
* `laterGeneration` : the greater of two generations;
* `ClusterStatus.started`, `ClusterStatus.failed`, `ClusterStatus.ready` : the statuses that a
  pass over a cluster reports;
* `QueryStatus.started`, `QueryStatus.failed`, `QueryStatus.answered` : those of a query.
-/

namespace ClusterOperator

/-- The members of a status that change with every pass. -/
def volatileMembers : List String :=
  ["lastReconcileTime", "lastQueryTime"]

/-- An encoded status without the times that every pass moves. -/
def material (status : Json) : Json :=
  match volatileMembers.foldl (fun j name => j.erase name) status with
  | .obj members =>
    .obj (members.map fun
      | ("conditions", .arr cs) => ("conditions", .arr (cs.map (Json.erase "lastTransitionTime")))
      | m => m)
  | j => j

/-- A status differs from the published one in more than times; the first one always does. -/
def shouldPublish {τ : Type} (encode : τ → Json) (published : Option τ) (status : τ) : Bool :=
  match published with
  | none => true
  | some old => material (encode old) ≠ material (encode status)

/-- The greater of two generations; a missing one is the least. -/
def laterGeneration : Option Int64 → Option Int64 → Option Int64
  | some a, some b => if a < b then some b else some a
  | a, none => a
  | none, b => b

def startMessage : String := "Starting reconciliation"

namespace ClusterStatus

def withCondition (s : ClusterStatus) (type : ConditionType) (status : ConditionStatus)
    (reason message stamp : String) : ClusterStatus :=
  { s with conditions := (s.conditions |> Condition.set type status reason message stamp).1 }

/-- The status that the first pass reports before it does anything. -/
def started (s : ClusterStatus) (stamp : String) : ClusterStatus :=
  { s.withCondition .available .unknown Reason.reconciling startMessage stamp with
    phase := some Phase.reconciling.name
    message := some startMessage }

def failed (s : ClusterStatus) (reason message stamp : String) : ClusterStatus :=
  { (s.withCondition .available .no reason message stamp).withCondition
      .degraded .yes reason message stamp with
    phase := some Phase.failed.name
    message := some message }

def readyMessage : String := "All child resources converged"

/-- The status of a pass that converged the children `present` of a cluster's `generation`. -/
def ready (s : ClusterStatus) (generation : Option Int64) (present : List ResourceRef)
    (stamp : String) : ClusterStatus :=
  { (s.withCondition .available .yes Reason.reconcileSuccess readyMessage stamp).withCondition
      .degraded .no Reason.reconcileSuccess readyMessage stamp with
    phase := some Phase.ready.name
    message := some readyMessage
    observedGeneration := laterGeneration s.observedGeneration generation
    lastReconcileTime := some stamp
    resourceRefs := present }

end ClusterStatus

namespace QueryStatus

def withCondition (s : QueryStatus) (type : ConditionType) (status : ConditionStatus)
    (reason message stamp : String) : QueryStatus :=
  { s with conditions := (s.conditions |> Condition.set type status reason message stamp).1 }

/-- The status that the first pass reports before it does anything. -/
def started (s : QueryStatus) (stamp : String) : QueryStatus :=
  s.withCondition .available .unknown Reason.reconciling startMessage stamp

/-- The status of a pass that failed; the last result stays. -/
def failed (s : QueryStatus) (reason message stamp : String) : QueryStatus :=
  s.withCondition .degraded .yes reason message stamp

def answeredMessage : String := "Query executed successfully"

/-- The status of a pass that got the answer `result` with `count` records for a query's
`generation`. -/
def answered (s : QueryStatus) (generation : Option Int64) (result : String) (count : Nat)
    (stamp : String) : QueryStatus :=
  { (s.withCondition .available .yes Reason.querySuccess answeredMessage stamp).withCondition
      .degraded .no Reason.querySuccess answeredMessage stamp with
    result := some result
    clusterCount := some (Int64.ofNat count)
    observedGeneration := laterGeneration s.observedGeneration generation
    lastQueryTime := some stamp }

end QueryStatus

end ClusterOperator

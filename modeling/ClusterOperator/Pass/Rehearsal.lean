import ClusterOperator.Pass.Cluster
import ClusterOperator.Pass.Query
import ClusterOperator.Store.Faulty

/-!
# Rehearsals of passes

Passes and convergences are run over stores in memory that fail on demand.

* `ClusterBench` : the stores of clusters and of their children;
* `ClusterBench.pass`, `ClusterBench.converge`, `ClusterBench.convergeAll` : a pass over a cluster,
  the convergence of one child, and that of every child, also after a failure;
* `QueryBench` : the store of queries, and the inventory service;
* `QueryBench.pass` : a pass over a query.
-/

namespace ClusterOperator

/-! ## Clusters -/

/-- The stores of clusters and of their children. -/
abbrev ClusterBench := Bench ClusterSpec ClusterStatus

namespace ClusterBench

def answer (stamp : String) : (q : ClusterRequest) → ClusterBench → q.Reply × ClusterBench
  | .entity q, b => Bench.entityAnswer stamp {} q b
  | .child q, b => Bench.childAnswer q b

def pass (stamp : String) (key : Key) (b : ClusterBench) :
    Except PassError Requeue × ClusterBench :=
  (reconcileCluster key).run (answer stamp) b

def converge (d : ChildDialogue (Except ChildError ChildOutcome)) (b : ClusterBench) :
    Except ChildError ChildOutcome × ClusterBench :=
  d.run Bench.childAnswer b

/-- Convergences one after the other; those after a failure are made too. -/
def convergeEach : List (ChildDialogue (Except ChildError ChildOutcome)) → ClusterBench →
    List (Except ChildError ChildOutcome) × ClusterBench
  | [], b => ([], b)
  | d :: rest, b =>
    let (outcome, b) := converge d b
    let (outcomes, b) := convergeEach rest b
    (outcome :: outcomes, b)

/-- Every wanted child of a cluster converged, and every dropped one removed. -/
def convergeAll (owner : OwnerReference) (c : Cluster) (b : ClusterBench) :
    List (Except ChildError ChildOutcome) × ClusterBench :=
  convergeEach ((Children.wanted c).map (convergeChild owner) ++
    (Children.dropped c).map (removeChild owner)) b

end ClusterBench

/-! ## Queries -/

/-- The store of queries, and the inventory service. -/
structure QueryBench where
  stores : Bench QuerySpec QueryStatus := {}
  service : ScriptedInventory := {}

namespace QueryBench

def answer (stamp : String) : (q : QueryRequest) → QueryBench → q.Reply × QueryBench
  | .entity q, b =>
    let (reply, stores) := Bench.entityAnswer stamp {} q b.stores
    (reply, { b with stores })
  | .lookup q, b =>
    let (reply, service) := b.service.answer q
    (reply, { b with service })

def pass (settings : RefreshSettings) (stamp : String) (key : Key) (b : QueryBench) :
    Except PassError Requeue × QueryBench :=
  (reconcileQuery settings key).run (answer stamp) b

def withoutNotes (b : QueryBench) : QueryBench :=
  { stores := b.stores.withoutNotes, service := { b.service with asked := [] } }

end QueryBench

end ClusterOperator

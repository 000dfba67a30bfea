import ClusterOperator.Children.Wanted
import ClusterOperator.Convergence.Child
import ClusterOperator.Entity.StatusChange
import ClusterOperator.Pass.Error

/-!
# The pass over a cluster

* `ClusterRequest` : what a pass asks of the stores and the clock;
* `convergeChildren` : the wanted children converged in order, then the dropped ones removed;
* `reconcileCluster` : one pass.

A pass succeeds without a delay: it is repeated when the cluster or a child changes. A failure is
written to the status before it is reported.
-/

namespace ClusterOperator

inductive ClusterRequest where
  | entity (q : EntityRequest Cluster)
  | child (q : ChildRequest)

abbrev ClusterRequest.Reply : ClusterRequest → Type
  | .entity q => q.Reply
  | .child q => q.Reply

abbrev ClusterDialogue := Dialogue ClusterRequest ClusterRequest.Reply

namespace ClusterDialogue

def clock : ClusterDialogue String :=
  Dialogue.request (ClusterRequest.entity .clock)

def fetch (key : Key) : ClusterDialogue (Except StoreError (Option Cluster)) :=
  Dialogue.request (ClusterRequest.entity (.fetch key))

def publish (c : Cluster) : ClusterDialogue (Except StoreError Cluster) :=
  Dialogue.request (ClusterRequest.entity (.publish c))

/-- A dialogue with the store of child objects as part of a pass. -/
def ofChild {α : Type} (d : ChildDialogue α) : ClusterDialogue α :=
  d.interpret fun q => Dialogue.request (ClusterRequest.child q)

end ClusterDialogue

open ClusterDialogue

/-- The wanted children converged in their order; the first failure ends it. -/
def convergeWanted (owner : OwnerReference) :
    List Manifest → ChildDialogue (Except ChildError (List ChildRef))
  | [] => return .ok []
  | m :: rest => do
    match ← convergeChild owner m with
    | .error e => return .error e
    | .ok _ =>
      match ← convergeWanted owner rest with
      | .error e => return .error e
      | .ok refs => return .ok (m.ref :: refs)

/-- The dropped children removed in their order; the first failure ends it. -/
def removeDropped (owner : OwnerReference) :
    List ChildRef → ChildDialogue (Except ChildError Unit)
  | [] => return .ok ()
  | r :: rest => do
    match ← removeChild owner r with
    | .error e => return .error e
    | .ok _ => removeDropped owner rest

/-- The wanted children of a cluster converged, then the dropped ones removed. The children that
now exist are returned. -/
def convergeChildren (c : Cluster) : ChildDialogue (Except ChildError (List ChildRef)) := do
  match ownerReference c with
  | .error e => return .error e
  | .ok owner =>
    match ← convergeWanted owner (Children.wanted c) with
    | .error e => return .error e
    | .ok refs =>
      match ← removeDropped owner (Children.dropped c) with
      | .error e => return .error e
      | .ok () => return .ok refs

def Cluster.withStatus (c : Cluster) (status : ClusterStatus) : Cluster :=
  { c with status := some status }

def Cluster.statusOrEmpty (c : Cluster) : ClusterStatus :=
  c.status.getD {}

/-- The cluster with its first condition published, unless it has conditions; the stored cluster
is worked on from then on. -/
def startCluster (stamp : String) (c : Cluster) : ClusterDialogue (Except StoreError Cluster) :=
  if c.conditions.isEmpty then publish (c.withStatus (c.statusOrEmpty.started stamp))
  else return .ok c

/-- A status published when it differs from the published one in more than times, and then the
outcome of the pass. -/
def reportCluster (c : Cluster) (status : ClusterStatus) (outcome : Except PassError Requeue) :
    ClusterDialogue (Except PassError Requeue) := do
  if shouldPublish ClusterStatus.encode c.status status then
    match ← publish (c.withStatus status) with
    | .error e => return .error (.statusWrite e)
    | .ok _ => return outcome
  else return outcome

/-- A started cluster validated, its children converged, and the outcome reported. -/
def workOnCluster (stamp : String) (c : Cluster) : ClusterDialogue (Except PassError Requeue) := do
  match c.spec.validate with
  | .error reason =>
    reportCluster c (c.statusOrEmpty.failed Reason.invalidConfig reason.message stamp)
      (.error (.validation reason))
  | .ok () =>
    match ← ofChild (convergeChildren c) with
    | .error e =>
      reportCluster c (c.statusOrEmpty.failed Reason.reconcileFailed e.message stamp)
        (.error (.children e))
    | .ok refs =>
      reportCluster c
        (c.statusOrEmpty.ready c.metadata.generation
          (refs.map fun r => ⟨r.kind.name, r.name⟩) stamp)
        (.ok .awaitChange)

/-- One pass over a cluster. A cluster that is gone, or being deleted, is left alone. -/
def reconcileCluster (key : Key) : ClusterDialogue (Except PassError Requeue) := do
  match ← fetch key with
  | .error e => return .error (.fetch key e)
  | .ok none => return .ok .awaitChange
  | .ok (some c) =>
    if c.metadata.deletionTimestamp.isSome then return .ok .awaitChange
    else
      let stamp ← clock
      match ← startCluster stamp c with
      | .error e => return .error (.statusWrite e)
      | .ok c => workOnCluster stamp c

end ClusterOperator

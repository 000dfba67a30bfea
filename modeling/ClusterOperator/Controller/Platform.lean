import ClusterOperator.Api.Client
import ClusterOperator.Pass.Cluster
import ClusterOperator.Pass.Query

/-!
# Passes on the platform

A pass asks stores, the clock and the inventory service. On the platform the stores are calls to
the API.

* `PlatformRequest` : what a pass asks of the platform;
* `PlatformDialogue.entity`, `PlatformDialogue.child` : the stores as calls to the API;
* `clusterPass`, `queryPass` : the passes as dialogues with the platform.
-/

namespace ClusterOperator

inductive PlatformRequest where
  | clock
  | call (c : ApiCall)
  | lookup (q : LookupRequest)

abbrev PlatformRequest.Reply : PlatformRequest → Type
  | .clock => String
  | .call _ => ApiReply
  | .lookup q => q.Reply

abbrev PlatformDialogue := Dialogue PlatformRequest PlatformRequest.Reply

namespace PlatformDialogue

/-- A dialogue with the API as part of one with the platform. -/
def ofApi {α : Type} (d : ApiDialogue α) : PlatformDialogue α :=
  d.interpret fun call => Dialogue.request (PlatformRequest.call call)

/-- A request to the store of entities. -/
def entity {σ τ : Type} [Managed σ τ] :
    (q : EntityRequest (Entity σ τ)) → PlatformDialogue q.Reply
  | .clock => Dialogue.request PlatformRequest.clock
  | .fetch key => ofApi (ApiClient.fetch σ key)
  | .publish e => ofApi (ApiClient.publish e)

/-- A request to the store of child objects. -/
def child (q : ChildRequest) : PlatformDialogue q.Reply :=
  ofApi (ApiClient.child q)

end PlatformDialogue

def passOutcome (result : Except PassError Requeue) : Except Retry Requeue :=
  result.mapError PassError.retry

def clusterPass (key : Key) : PlatformDialogue (Except Retry Requeue) :=
  let pass := (reconcileCluster key).interpret fun
    | .entity q => PlatformDialogue.entity q
    | .child q => PlatformDialogue.child q
  pass.bind fun result => .finish (passOutcome result)

def queryPass (settings : RefreshSettings) (key : Key) : PlatformDialogue (Except Retry Requeue) :=
  let pass := (reconcileQuery settings key).interpret fun
    | .entity q => PlatformDialogue.entity q
    | .lookup q => Dialogue.request (PlatformRequest.lookup q)
  pass.bind fun result => .finish (passOutcome result)

end ClusterOperator

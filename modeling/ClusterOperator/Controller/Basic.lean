import ClusterOperator.Controller.Platform
import ClusterOperator.Queue.Pool
import ClusterOperator.Watch.Follower

/-!
# Controllers

A controller follows its entities, and the children that they own, and makes a pass over each
entity that one of its followers signals.

* `Controller` : the pool, the followers, and the pass;
* `Controller.ofClusters`, `Controller.ofQueries` : the two controllers under their settings;
* `Controller.hear` : the followers advance, and the keys that they signal are added.
-/

namespace ClusterOperator

structure Controller where
  pool : Pool Key
  entities : Follower
  filter : GenerationFilter := {}
  /-- Those who follow the children of entities. -/
  children : List Follower := []
  pass : Key → PlatformDialogue (Except Retry Requeue)

namespace Controller

def entityFollower (σ : Type) {τ : Type} [Managed σ τ] (s : Settings) : Follower where
  selection := { resource := Resource.ofEntity σ, namespaceName := s.watchNamespace }
  decode? object := ((Entity.decode? object : Option (Entity σ τ))).map (·.metadata)

/-- A follower of the children of a kind that this operator manages. -/
def childFollower (kind : ChildKind) (s : Settings) : Follower where
  selection := {
    resource := Resource.ofChild kind, namespaceName := s.watchNamespace, managedOnly := true }
  decode? object := (Manifest.decodeAs? kind object).map (·.metadata)

/-- The controller of clusters. It follows the deployments and services that clusters own. -/
def ofClusters (s : Settings) : Controller where
  pool := Pool.ofSize s.requeue.backoff s.workerCount
  entities := entityFollower ClusterSpec s
  children := [childFollower .deployment s, childFollower .service s]
  pass := clusterPass

def ofQueries (s : Settings) : Controller where
  pool := Pool.ofSize s.requeue.backoff s.workerCount
  entities := entityFollower QuerySpec s
  pass := queryPass s.requeue.refresh

def ofKind? (kindName : String) (s : Settings) : Option Controller :=
  if kindName = Resource.clusters.kindName then some (ofClusters s)
  else if kindName = Resource.queries.kindName then some (ofQueries s)
  else none

/-- The controllers that the settings switch on. -/
def enabled (s : Settings) : List Controller :=
  (if s.clusters then [ofClusters s] else []) ++ (if s.queries then [ofQueries s] else [])

def signal (c : Controller) (keys : List Key) : Controller :=
  { c with pool := { c.pool with queue := keys.foldl WorkQueue.add c.pool.queue } }

def hearEntities (c : Controller) (events : List WatchEvent) : Controller :=
  events.foldl (fun c event =>
    let (keys, filter) := c.filter.handle event
    signal { c with filter } keys) c

def advanceEntities (c : Controller) (now : Nat) (api : ApiServer) : Controller × ApiServer :=
  let (events, entities, api) := c.entities.advance now api
  (hearEntities { c with entities } events, api)

/-- Followers advance; the keys that their events signal, the followers and the API after it. -/
def advanceAll (now : Nat) : List Follower → ApiServer → List Key × List Follower × ApiServer
  | [], api => ([], [], api)
  | f :: rest, api =>
    let (events, f, api) := f.advance now api
    let (keys, rest, api) := advanceAll now rest api
    (events.flatMap ownedSignals ++ keys, f :: rest, api)

/-- The followers advance, and the keys that they signal are added to the queue. -/
def hear (c : Controller) (now : Nat) (api : ApiServer) : Controller × ApiServer :=
  let (c, api) := c.advanceEntities now api
  let (keys, children, api) := advanceAll now c.children api
  (signal { c with children } keys, api)

def mapFollowers (c : Controller) (r : Resource) (change : Follower → Follower) : Controller :=
  let changeIf (f : Follower) : Follower := if f.selection.resource = r then change f else f
  { c with entities := changeIf c.entities, children := c.children.map changeIf }

/-- The first end of a pause of a follower after `now`. -/
def nextPauseEnd? (c : Controller) (now : Nat) : Option Nat :=
  ((c.entities :: c.children).filterMap (·.pauseEnd? now)).min?

end Controller

end ClusterOperator

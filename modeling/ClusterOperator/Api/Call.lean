import ClusterOperator.Address
import ClusterOperator.Entity.Cluster
import ClusterOperator.Entity.Query
import ClusterOperator.Object.Manifest

/-!
# Calls to the platform API

* `Resource` : a kind of object as the API serves it;
* `ApiCall` : a call, with its method, address, media type and body;
* `ApiReply` : the status and the text that the API answers with.
-/

namespace ClusterOperator

/-- A kind of object as the API serves it. -/
structure Resource where
  /-- The path under which its group and version are served. -/
  root : String
  plural : String
  kindName : String
  deriving DecidableEq, Repr

namespace Resource

/-- The resource of the managed entities with the wanted state `σ`. -/
def ofEntity (σ : Type) {τ : Type} [Managed σ τ] : Resource where
  root := "/apis/" ++ apiVersion
  plural := Managed.plural σ
  kindName := Managed.kindName σ

def clusters : Resource := ofEntity ClusterSpec

def queries : Resource := ofEntity QuerySpec

def services : Resource where
  root := "/api/" ++ ChildKind.service.apiVersion
  plural := "services"
  kindName := ChildKind.service.name

def deployments : Resource where
  root := "/apis/" ++ ChildKind.deployment.apiVersion
  plural := "deployments"
  kindName := ChildKind.deployment.name

def ofChild : ChildKind → Resource
  | .service => services
  | .deployment => deployments

def all : List Resource :=
  [clusters, queries, services, deployments]

def isChild (r : Resource) : Bool :=
  r = services || r = deployments

def ofKind? (kindName : String) : Option Resource :=
  all.find? (·.kindName = kindName)

/-- The path of the objects in a namespace. -/
def collection (r : Resource) (namespaceName : String) : String :=
  r.root ++ "/namespaces/" ++ namespaceName ++ "/" ++ r.plural

/-- The path of an object. -/
def object (r : Resource) (key : Key) : String :=
  r.collection key.namespaceName ++ "/" ++ key.name

end Resource

inductive ApiCall where
  | get (r : Resource) (key : Key)
  | create (r : Resource) (namespaceName : String) (object : Json)
  /-- Replaces an object whole. -/
  | update (r : Resource) (key : Key) (object : Json)
  | delete (r : Resource) (key : Key)
  /-- Merges a patch into an object; only its status changes. -/
  | patchStatus (r : Resource) (key : Key) (patch : Json)
  deriving DecidableEq, Repr

namespace ApiCall

def method : ApiCall → String
  | .get _ _ => "GET"
  | .create _ _ _ => "POST"
  | .update _ _ _ => "PUT"
  | .delete _ _ => "DELETE"
  | .patchStatus _ _ _ => "PATCH"

def resource : ApiCall → Resource
  | .get r _ | .create r _ _ | .update r _ _ | .delete r _ | .patchStatus r _ _ => r

/-- The text of the address that a call is sent to. Only a read has no mark of a query. -/
def target : ApiCall → String
  | .get r key => r.object key
  | .update r key _ | .delete r key => r.object key ++ "?"
  | .create r namespaceName _ => r.collection namespaceName ++ "?"
  | .patchStatus r key _ => r.object key ++ "/status?"

/-- The address that a call is sent to; one whose text stands for no address is not sent. -/
def address? (c : ApiCall) : Option Address :=
  Address.ofText? c.target

/-- The path and the query that a call is sent to. -/
def address (c : ApiCall) : Address :=
  c.address?.getD { path := c.target }

def contentType : ApiCall → Option String
  | .get _ _ => none
  | .patchStatus _ _ _ => some "application/merge-patch+json"
  | .create _ _ _ | .update _ _ _ | .delete _ _ => some "application/json"

/-- What a delete carries: the dependents of the object are removed in the background. -/
def deleteOptions : Json :=
  .obj [("propagationPolicy", .str "Background")]

def body : ApiCall → Option Json
  | .get _ _ => none
  | .create _ _ object | .update _ _ object => some object
  | .delete _ _ => some deleteOptions
  | .patchStatus _ _ patch => some patch

end ApiCall

structure ApiReply where
  status : Nat
  body : String
  deriving DecidableEq, Repr

end ClusterOperator

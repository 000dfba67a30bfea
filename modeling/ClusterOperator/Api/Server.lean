import ClusterOperator.Api.Call
import ClusterOperator.Api.Failure
import ClusterOperator.Children.Labels
import ClusterOperator.Json.Printer

/-!
# An API in memory

The API keeps objects as JSON. Every object that it stores gets a fresh version, and every change
is announced to those who watch. Requests can be made to fail.

* `Place` : the resource of an object, and its key;
* `Selection` : the objects that a listing or a watch is about;
* `Announcement` : an object that was stored or removed;
* `ApiFault` : requests that fail, and how;
* `ApiWrite` : a request that changes objects, as it was answered;
* `ApiServer` : the objects, versions, announcements, faults and writes;
* `ApiServer.answer` : the reply to a call;
* `ApiServer.put`, `ApiServer.remove`, `ApiServer.patch` : changes by others.
-/

namespace ClusterOperator

/-- Where the API keeps an object. -/
structure Place where
  resource : Resource
  key : Key
  deriving DecidableEq, Repr

def Place.text (p : Place) : String :=
  p.resource.plural ++ " " ++ p.key.name

/-- The objects that a listing or a watch is about. -/
structure Selection where
  resource : Resource
  /-- The namespace of the objects, any when there is none. -/
  namespaceName : Option String := none
  /-- Only objects with the label of this operator. -/
  managedOnly : Bool := false
  deriving DecidableEq, Repr

structure Announcement where
  place : Place
  object : Json
  isDeletion : Bool := false
  deriving DecidableEq, Repr

/-- The next `times` requests with a method about a resource fail. -/
structure ApiFault where
  method : String
  resource : Resource
  status : Nat
  reason : String
  times : Nat
  deriving DecidableEq, Repr

/-- A request that changes objects, and the status that answered it. -/
structure ApiWrite where
  time : Nat
  call : ApiCall
  status : Nat
  deriving DecidableEq, Repr

namespace Json

/-- The metadata of an object, empty when it has none. -/
def metadataOf (object : Json) : Json :=
  (object.find? "metadata").getD (.obj [])

/-- A member of the metadata that is a text, or nothing. -/
def metadataText (name : String) (object : Json) : String :=
  match object.metadataOf.find? name with
  | some (.str s) => s
  | _ => ""

def objectKey (object : Json) : Key :=
  ⟨object.metadataText "namespace", object.metadataText "name"⟩

/-- The place of an object that names its kind, or else is one of a resource. -/
def placeAmong (object : Json) (r : Resource) : Place :=
  match object.find? "kind" with
  | some (.str kindName) => ⟨(Resource.ofKind? kindName).getD r, object.objectKey⟩
  | _ => ⟨r, object.objectKey⟩

def withVersion (object : Json) (version : String) : Json :=
  object.insert "metadata" (object.metadataOf.insert "resourceVersion" (.str version))

end Json

def bearsManagedLabel (object : Json) : Bool :=
  (object.metadataOf.find? "labels").bind (Json.find? Children.labelManagedBy) =
    some (.str Children.operatorName)

def Selection.selects (s : Selection) (place : Place) (object : Json) : Bool :=
  place.resource = s.resource && s.namespaceName.all (· = place.key.namespaceName) &&
    (!s.managedOnly || bearsManagedLabel object)

structure ApiServer where
  objects : Dict Place Json := {}
  /-- The number of versions given so far. -/
  versions : Nat := 0
  /-- The changes so far, the first one first. -/
  announcements : List Announcement := []
  faults : List ApiFault := []
  /-- The writes so far, the first one first. -/
  writes : List ApiWrite := []
  /-- The resources of which there was an object at some time. -/
  known : List Resource := []

namespace ApiServer

def announce (s : ApiServer) (a : Announcement) : ApiServer :=
  { s with announcements := s.announcements ++ [a] }

/-- An object stored in a place with a fresh version, which is not announced. -/
def store (s : ApiServer) (place : Place) (object : Json) : Json × ApiServer :=
  let stored := object.withVersion (String.ofList (Text.Decimal.digits (s.versions + 1)))
  (stored, { s with
    objects := s.objects.insert place stored
    versions := s.versions + 1
    known := if place.resource ∈ s.known then s.known else s.known ++ [place.resource] })

/-- An object stored in a place with a fresh version, which is announced. -/
def storeAloud (s : ApiServer) (place : Place) (object : Json) : Json × ApiServer :=
  let (stored, s) := s.store place object
  (stored, s.announce { place, object := stored })

/-- The selected objects, in the order of their keys. -/
def listing (s : ApiServer) (selection : Selection) : List (Key × Json) :=
  ((s.objects.entries.filter fun (place, object) => selection.selects place object).mergeSort
    fun a b => a.1.key.isBefore b.1.key).map fun (place, object) => (place.key, object)

/-! ## Faults -/

def ApiFault.hits (f : ApiFault) (method : String) (r : Resource) : Bool :=
  f.method = method && f.resource = r && 0 < f.times

/-- The first fault that counts for a request, and the faults after it was used once. -/
def useFault (method : String) (r : Resource) : List ApiFault → Option ApiFault × List ApiFault
  | [] => (none, [])
  | f :: rest =>
    if ApiFault.hits f method r then (some f, { f with times := f.times - 1 } :: rest)
    else
      let (fault, rest) := useFault method r rest
      (fault, f :: rest)

/-- The fault that a request meets, and the API after it. -/
def meetFault (s : ApiServer) (method : String) (r : Resource) : Option ApiFault × ApiServer :=
  let (fault, faults) := useFault method r s.faults
  (fault, { s with faults })

/-! ## Calls -/

/-- The reply that describes a failure. -/
def failing (code : Nat) (reason message : String) : ApiReply :=
  ⟨code, (ApiFailure.encode { status := "Failure", message, reason, code }).text⟩

/-- The reply with an object. -/
def replying (status : Nat) (object : Json) : ApiReply :=
  ⟨status, object.text⟩

def absent (place : Place) : ApiReply :=
  failing 404 "NotFound" place.text

def versionOf (object : Json) : Option Json :=
  object.metadataOf.find? "resourceVersion"

/-- The key that the address of a call leads to, as far as the path reaches: a call that creates
an object leads to a namespace alone. -/
def reached? (call : ApiCall) : Option Key :=
  let root := call.resource.root ++ "/namespaces/"
  match (String.ofList (call.address.path.toList.drop root.length)).splitOn "/" with
  | [namespaceName, plural] =>
    if plural = call.resource.plural then some ⟨namespaceName, ""⟩ else none
  | [namespaceName, plural, name] | [namespaceName, plural, name, "status"] =>
    if plural = call.resource.plural then some ⟨namespaceName, name⟩ else none
  | _ => none

/-- The reply to a call about the object in a place, and the API after it. -/
def serveAt (s : ApiServer) (place : Place) (call : ApiCall) : ApiReply × ApiServer :=
  match call, s.objects.get? place with
  | .create _ _ object, none =>
    let (stored, s) := s.storeAloud place object
    (replying 201 stored, s)
  | .create _ _ _, some _ => (failing 409 "AlreadyExists" place.text, s)
  | _, none => (absent place, s)
  | .get _ _, some live => (replying 200 live, s)
  | .update _ _ object, some live =>
    if versionOf object = versionOf live then
      let (stored, s) := s.storeAloud place object
      (replying 200 stored, s)
    else (failing 409 "Conflict" place.text, s)
  | .delete _ _, some live =>
    (replying 200 (.obj [("kind", .str "Status"), ("status", .str "Success")]),
      { s with objects := s.objects.erase place }.announce
        { place, object := live, isDeletion := true })
  | .patchStatus _ _ change, some live =>
    let (stored, s) := s.storeAloud place (live.merge change)
    (replying 200 stored, s)

/-- The place that a call is about, when its address leads to a key. -/
def placeOf (call : ApiCall) (key : Key) : Place :=
  match call with
  | .create r _ object => ⟨r, key.namespaceName, object.metadataText "name"⟩
  | _ => ⟨call.resource, key⟩

/-- The reply to a call that meets no fault, and the API after it. -/
def serve (s : ApiServer) (call : ApiCall) : ApiReply × ApiServer :=
  match reached? call with
  | some key => s.serveAt (placeOf call key) call
  | none => (failing 404 "NotFound" call.address.path, s)

/-- A call that changes objects is noted with the status of its reply. -/
def note (s : ApiServer) (time : Nat) (call : ApiCall) (status : Nat) : ApiServer :=
  match call with
  | .get _ _ => s
  | _ => { s with writes := s.writes ++ [⟨time, call, status⟩] }

/-- The reply to a call at a time, and the API after it. A call that meets a fault has no
effect. -/
def answer (s : ApiServer) (time : Nat) (call : ApiCall) : ApiReply × ApiServer :=
  let (fault, s) := s.meetFault call.method call.resource
  let (reply, s) := match fault with
    | some f => (failing f.status f.reason "injected", s)
    | none => s.serve call
  (reply, s.note time call reply.status)

/-! ## Changes by others -/

/-- How a change by others is made known. -/
inductive Loudness where
  | announced
  /-- Nobody who watches gets to know. -/
  | quiet
  deriving DecidableEq, Repr

def announceUnlessQuiet (s : ApiServer) (loudness : Loudness) (a : Announcement) : ApiServer :=
  match loudness with
  | .announced => s.announce a
  | .quiet => s

/-- An object is stored. The status that was stored before is kept when it has none. -/
def put (s : ApiServer) (r : Resource) (object : Json) (loudness : Loudness) : ApiServer :=
  let place : Place := ⟨r, object.objectKey⟩
  let object := match object.find? "status", (s.objects.get? place).bind (Json.find? "status") with
    | none, some status => object.insert "status" status
    | _, _ => object
  let (stored, s) := s.store place object
  s.announceUnlessQuiet loudness { place, object := stored }

def remove (s : ApiServer) (place : Place) (loudness : Loudness) : ApiServer :=
  match s.objects.get? place with
  | none => s
  | some object =>
    { s with objects := s.objects.erase place }.announceUnlessQuiet loudness
      { place, object, isDeletion := true }

/-- A patch is merged into an object, if it is there. The outcome is stored under its own key; when
the patch changes that, the object stays as it was and another one is stored. -/
def patch (s : ApiServer) (place : Place) (change : Json) (loudness : Loudness) : ApiServer :=
  match s.objects.get? place with
  | none => s
  | some live =>
    let patched := live.merge change
    let place := patched.placeAmong place.resource
    let (stored, s) := s.store place patched
    s.announceUnlessQuiet loudness { place, object := stored }

/-- The API with objects that were there from the start. -/
def ofObjects (objects : List (Resource × Json)) : ApiServer :=
  objects.foldl (fun s (r, object) => s.put r object .quiet) {}

end ApiServer

end ClusterOperator

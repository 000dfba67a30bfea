import ClusterOperator.Api.Failure
import ClusterOperator.Api.Status
import ClusterOperator.Store.Request

/-!
# Stores behind the API

* `ApiDialogue` : a dialogue of calls to the API;
* `ApiClient.fetch`, `ApiClient.publish` : the store of entities as calls;
* `ApiClient.child` : the store of child objects as calls.

A call about an object without a name, or with one that no address may hold, fails without being
sent.
-/

namespace ClusterOperator

abbrev ApiDialogue := Dialogue ApiCall (fun _ => ApiReply)

namespace ApiClient

open Json

/-- A call is sent, and its reply is read. -/
def send {α : Type} (call : ApiCall) (read : ApiReply → Except StoreError α) :
    ApiDialogue (Except StoreError α) :=
  if call.address?.isSome then do
    let reply ← (Dialogue.request call : ApiDialogue ApiReply)
    return read reply
  else return .error (.api "the address is not valid")

/-- A call about an object that has to have a name. -/
def sendNamed {α : Type} (key : Key) (call : ApiCall) (read : ApiReply → Except StoreError α) :
    ApiDialogue (Except StoreError α) :=
  if key.name.isEmpty then return .error (.api "the name is empty") else send call read

def readBody {α : Type} (decode? : Json → Option α) (r : ApiReply) : Except StoreError α :=
  match (parse? r.body.toList).bind decode? with
  | some a => .ok a
  | none => .error (.api "the reply has an unexpected form")

def readObject {α : Type} (kindName name : String) (decode? : Json → Option α) (r : ApiReply) :
    Except StoreError α :=
  match ApiFailure.ofReply? r with
  | some f => .error (f.toStoreError kindName name)
  | none => readBody decode? r

/-- The object in a reply, none when it is absent. -/
def readIfPresent {α : Type} (kindName name : String) (decode? : Json → Option α) (r : ApiReply) :
    Except StoreError (Option α) :=
  match ApiFailure.ofReply? r with
  | some f => if f.isAbsence then .ok none else .error (f.toStoreError kindName name)
  | none => (readBody decode? r).map some

/-! ## Entities -/

section

variable {σ τ : Type} [Managed σ τ]

def fetch (σ : Type) {τ : Type} [Managed σ τ] (key : Key) :
    ApiDialogue (Except StoreError (Option (Entity σ τ))) :=
  sendNamed key (.get (Resource.ofEntity σ) key)
    (readIfPresent (Managed.kindName σ) key.name Entity.decode?)

/-- The status of an entity is merged into the stored one. -/
def publish (e : Entity σ τ) : ApiDialogue (Except StoreError (Entity σ τ)) :=
  let status := (e.status.map (Managed.encodeStatus σ)).getD .null
  sendNamed e.key (.patchStatus (Resource.ofEntity σ) e.key (.obj [("status", status)]))
    (readObject (Managed.kindName σ) e.key.name Entity.decode?)

end

/-! ## Child objects -/

/-- The key of a child object among those of its kind. -/
def childKey (child : ChildRef) : Key :=
  ⟨child.namespaceName, child.name⟩

/-- What a removal is answered with: the status of the operation, or the object that was removed. -/
def decodeRemoval? (kind : ChildKind) (j : Json) : Option Unit := do
  let u ← j.untyped
  if u.find? "kind" = some (.str "Status") then ApiStatus.check? j
  else (Manifest.decodeAs? kind j).map fun _ => ()

/-- A request to the store of child objects as calls. -/
def child : (q : ChildRequest) → ApiDialogue q.Reply
  | .get child =>
    sendNamed (childKey child) (.get (Resource.ofChild child.kind) (childKey child))
      (readIfPresent child.kind.name child.name (Manifest.decodeAs? child.kind))
  | .create m =>
    send (.create (Resource.ofChild m.kind) m.namespaceName m.encode)
      (readObject m.kind.name m.name (Manifest.decodeAs? m.kind))
  | .update m =>
    sendNamed (childKey m.ref) (.update (Resource.ofChild m.kind) (childKey m.ref) m.encode)
      (readObject m.kind.name m.name (Manifest.decodeAs? m.kind))
  | .delete child =>
    sendNamed (childKey child) (.delete (Resource.ofChild child.kind) (childKey child))
      (readObject child.kind.name child.name (decodeRemoval? child.kind))

end ApiClient

end ClusterOperator

import ClusterOperator.Address

/-!
# The health endpoint

* `HealthReply` : a status and a text;
* `health` : the reply to a request with a method for an address;
* `askHealth?` : the reply to a request as it is written, if that is a request.
-/

namespace ClusterOperator

structure HealthReply where
  status : Nat
  body : String := ""
  deriving DecidableEq, Repr

def healthPaths : List String :=
  ["/health", "/healthz"]

/-- The operator is healthy whenever it answers. A request for the head alone gets no text, other
methods are not allowed, and other paths do not exist. -/
def health (method : String) (address : Address) : HealthReply :=
  if address.path ∈ healthPaths then
    if method = "GET" then { status := 200, body := "ok" }
    else if method = "HEAD" then { status := 200 }
    else { status := 405 }
  else { status := 404 }

def isMethodChar (c : Char) : Bool :=
  c.isAlphanum || "!#$%&'*+-.^_`|~".toList.contains c

def isMethodName (text : String) : Bool :=
  !text.isEmpty && text.toList.all isMethodChar

/-- The reply to a request that names its method and its address. -/
def askHealth? (method address : String) : Option HealthReply :=
  if isMethodName method then (Address.ofText? address).map (health method) else none

end ClusterOperator

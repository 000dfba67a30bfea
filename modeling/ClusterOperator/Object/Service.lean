import ClusterOperator.Object.Metadata

/-!
# Services

* `PortTarget` : the port of a pod by number or by name;
* `ServicePort`, `ServiceSpec`, `Service` : a service and what it forwards;
* `Service.ports` : the ports of a service, none when it has no spec or no list of ports.

Members that the operator neither builds, compares nor carries over are left out: the status, and
the members of a spec about load balancers, external names and addresses, families of addresses,
traffic and sessions. `nodePort`, `protocol` and `type` are there as what a live service may have
besides.
-/

namespace ClusterOperator

/-- The port of a pod that a service forwards to. -/
inductive PortTarget where
  | number (n : Int32)
  | named (name : String)
  deriving DecidableEq, Repr

structure ServicePort where
  name : Option String := none
  port : Int32 := 0
  targetPort : Option PortTarget := none
  protocol : Option String := none
  nodePort : Option Int32 := none
  deriving DecidableEq, Repr

structure ServiceSpec where
  selector : Option Labels := none
  ports : Option (List ServicePort) := none
  clusterIP : Option String := none
  clusterIPs : Option (List String) := none
  type : Option String := none
  deriving DecidableEq, Repr

structure Service where
  metadata : Metadata := {}
  spec : Option ServiceSpec := none
  deriving DecidableEq, Repr

open Json

namespace PortTarget

def encode : PortTarget → Json
  | .number n => ofInt32 n
  | .named s => .str s

def decode? : Json → Option PortTarget
  | .str s => some (.named s)
  | j => (readInt32? j).map .number

end PortTarget

namespace ServicePort

def encode (p : ServicePort) : Json :=
  record [
    ("name", p.name.map .str),
    ("nodePort", p.nodePort.map ofInt32),
    ("port", some (ofInt32 p.port)),
    ("protocol", p.protocol.map .str),
    ("targetPort", p.targetPort.map PortTarget.encode)]

def decode? (j : Json) : Option ServicePort := do
  let ms ← readObject? j
  return {
    name := ← optionalMember readString? "name" ms
    port := ← memberOr 0 readInt32? "port" ms
    targetPort := ← optionalMember PortTarget.decode? "targetPort" ms
    protocol := ← optionalMember readString? "protocol" ms
    nodePort := ← optionalMember readInt32? "nodePort" ms }

end ServicePort

namespace ServiceSpec

def encode (s : ServiceSpec) : Json :=
  record [
    ("clusterIP", s.clusterIP.map .str),
    ("clusterIPs", s.clusterIPs.map fun ips => .arr (ips.map .str)),
    ("ports", s.ports.map fun ps => .arr (ps.map ServicePort.encode)),
    ("selector", s.selector.map ofDict),
    ("type", s.type.map .str)]

def decode? (j : Json) : Option ServiceSpec := do
  let ms ← readObject? j
  return {
    selector := ← optionalMember readDict? "selector" ms
    ports := ← optionalMember (readList? ServicePort.decode?) "ports" ms
    clusterIP := ← optionalMember readString? "clusterIP" ms
    clusterIPs := ← optionalMember (readList? readString?) "clusterIPs" ms
    type := ← optionalMember readString? "type" ms }

end ServiceSpec

def Service.ports (s : Service) : List ServicePort :=
  (s.spec.bind (·.ports)).getD []

end ClusterOperator

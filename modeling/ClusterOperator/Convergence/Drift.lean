import ClusterOperator.Children.Labels
import ClusterOperator.Object.Manifest

/-!
# Drift of child objects

* `Manifest.carryForward` : a wanted child with what the platform assigned to the live one;
* `Manifest.version` : the version label of a child;
* `Manifest.needsUpdate` : a live child differs from the wanted one in a managed field.
-/

namespace ClusterOperator

namespace Manifest

/-- The wanted metadata with the version that the store gave the live object, and with its owner
references unless the wanted object has its own. -/
def carryMetadata (live wanted : Metadata) : Metadata :=
  { wanted with
    resourceVersion := live.resourceVersion
    ownerReferences := wanted.ownerReferences.or live.ownerReferences }

/-- The wanted child with what the platform assigned to the live one, so that a replacement does
not lose it: the store's version, the owner references, and the addresses of a service. -/
def carryForward (live wanted : Manifest) : Manifest :=
  let metadata := carryMetadata live.metadata wanted.metadata
  match live, wanted with
  | .service l, .service w =>
    .service {
      metadata
      spec := match l.spec, w.spec with
        | some ls, some ws =>
          some { ws with clusterIP := ls.clusterIP, clusterIPs := ls.clusterIPs }
        | _, spec => spec }
  | _, wanted => wanted.withMetadata metadata

/-- The version that a child is stamped with. -/
def version (m : Manifest) : Option String :=
  m.metadata.labels.bind (·.get? Children.labelVersion)

end Manifest

/-- The replica counts, the images of the first containers or their ports differ; a count or a
container that is missing on either side differs from anything. -/
def Deployment.differs (live wanted : Deployment) : Bool :=
  match live.replicas, wanted.replicas, live.firstContainer?, wanted.firstContainer? with
  | some l, some w, some lc, some wc =>
    l ≠ w || lc.image ≠ wc.image ||
      lc.portList.map (fun p => (p.name, p.containerPort)) ≠
        wc.portList.map fun p => (p.name, p.containerPort)
  | _, _, _, _ => true

/-- The ports differ in name, number or target. -/
def Service.differs (live wanted : Service) : Bool :=
  live.ports.map (fun p => (p.name, p.port, p.targetPort)) ≠
    wanted.ports.map fun p => (p.name, p.port, p.targetPort)

/-- The live child is not under the owner's control, or differs from the wanted one in a managed
field. -/
def Manifest.needsUpdate (live wanted : Manifest) (owner : OwnerReference) : Bool :=
  !live.metadata.isControlledBy owner.uid || live.version ≠ wanted.version ||
    match live, wanted with
    | .deployment l, .deployment w => l.differs w
    | .service l, .service w => l.differs w
    | _, _ => true

end ClusterOperator

import ClusterOperator.Children.Labels
import ClusterOperator.Entity.Cluster
import ClusterOperator.Object.Manifest

/-!
# The children that a cluster wants

* `service`, `deployment` : the two child objects of a cluster;
* `wanted` : those that the spec wants, the service before the deployment that it fronts;
* `dropped` : those that an earlier spec may have wanted and this one does not.
-/

namespace ClusterOperator.Children

def containerName : String := "bss"

def portName : String := "http"

/-- The metadata of a child: named and placed like its cluster, with the common labels. -/
def childMetadata (c : Cluster) : Metadata where
  name := some c.metadata.anyName
  namespaceName := c.metadata.namespaceName
  labels := some (commonLabels c.metadata.anyName c.spec.version)

/-- The deployment that runs a cluster's workload. -/
def deployment (c : Cluster) : Deployment where
  metadata := childMetadata c
  spec := some {
    replicas := some c.spec.replicaCount
    selector := { matchLabels := some (selectorLabels c.metadata.anyName) }
    template := {
      metadata := some { labels := some (commonLabels c.metadata.anyName c.spec.version) }
      spec := some {
        containers := [{
          name := containerName
          image := some c.spec.image
          ports := some [{ name := some portName, containerPort := c.spec.portNumber }] }] } } }

/-- The service in front of a cluster's workload. -/
def service (c : Cluster) : Service where
  metadata := childMetadata c
  spec := some {
    selector := some (selectorLabels c.metadata.anyName)
    ports := some [{
      name := some portName
      port := c.spec.portNumber
      targetPort := some (.number c.spec.portNumber) }] }

/-- The children that a cluster wants, each before those that depend on it. -/
def wanted (c : Cluster) : List Manifest :=
  if c.spec.isExposed then [.service (service c), .deployment (deployment c)]
  else [.deployment (deployment c)]

/-- The children that a cluster no longer wants. -/
def dropped (c : Cluster) : List ChildRef :=
  if c.spec.isExposed then []
  else [⟨.service, c.metadata.anyNamespace, c.metadata.anyName⟩]

end ClusterOperator.Children

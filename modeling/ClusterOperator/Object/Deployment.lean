import ClusterOperator.Object.Metadata

/-!
# Deployments

* `ContainerPort`, `Container`, `PodSpec`, `PodTemplate` : what a deployment runs;
* `LabelSelector`, `DeploymentSpec`, `Deployment` : a deployment;
* `Deployment.replicas`, `Deployment.firstContainer?`, `Container.portList` : the parts that are
  compared for drift.

Members that the operator neither builds nor compares are left out: the status, the strategy and the
other settings of a roll-out, match expressions, and all of a pod but its containers with their
names, images and ports. `progressDeadlineSeconds`, `hostPort` and `protocol` are there as what a
live deployment may have besides.
-/

namespace ClusterOperator

structure ContainerPort where
  name : Option String := none
  containerPort : Int32 := 0
  protocol : Option String := none
  hostPort : Option Int32 := none
  deriving DecidableEq, Repr

structure Container where
  name : String := ""
  image : Option String := none
  ports : Option (List ContainerPort) := none
  deriving DecidableEq, Repr

structure PodSpec where
  containers : List Container := []
  deriving DecidableEq, Repr

structure PodTemplate where
  metadata : Option Metadata := none
  spec : Option PodSpec := none
  deriving DecidableEq, Repr

structure LabelSelector where
  matchLabels : Option Labels := none
  deriving DecidableEq, Repr

structure DeploymentSpec where
  replicas : Option Int32 := none
  selector : LabelSelector := {}
  template : PodTemplate := {}
  progressDeadlineSeconds : Option Int32 := none
  deriving DecidableEq, Repr

structure Deployment where
  metadata : Metadata := {}
  spec : Option DeploymentSpec := none
  deriving DecidableEq, Repr

open Json

namespace ContainerPort

def encode (p : ContainerPort) : Json :=
  record [
    ("containerPort", some (ofInt32 p.containerPort)),
    ("hostPort", p.hostPort.map ofInt32),
    ("name", p.name.map .str),
    ("protocol", p.protocol.map .str)]

def decode? (j : Json) : Option ContainerPort := do
  let ms ← readObject? j
  return {
    name := ← optionalMember readString? "name" ms
    containerPort := ← memberOr 0 readInt32? "containerPort" ms
    protocol := ← optionalMember readString? "protocol" ms
    hostPort := ← optionalMember readInt32? "hostPort" ms }

end ContainerPort

namespace Container

def encode (c : Container) : Json :=
  record [
    ("image", c.image.map .str),
    ("name", some (.str c.name)),
    ("ports", c.ports.map fun ps => .arr (ps.map ContainerPort.encode))]

def decode? (j : Json) : Option Container := do
  let ms ← readObject? j
  return {
    name := ← memberOr "" readString? "name" ms
    image := ← optionalMember readString? "image" ms
    ports := ← optionalMember (readList? ContainerPort.decode?) "ports" ms }

def portList (c : Container) : List ContainerPort :=
  c.ports.getD []

end Container

namespace PodSpec

def encode (s : PodSpec) : Json :=
  record [("containers", some (.arr (s.containers.map Container.encode)))]

def decode? (j : Json) : Option PodSpec := do
  let ms ← readObject? j
  return { containers := ← memberOr [] (readList? Container.decode?) "containers" ms }

end PodSpec

namespace PodTemplate

def encode (t : PodTemplate) : Json :=
  record [("metadata", t.metadata.map Metadata.encode), ("spec", t.spec.map PodSpec.encode)]

def decode? (j : Json) : Option PodTemplate := do
  let ms ← readObject? j
  return {
    metadata := ← optionalMember Metadata.decode? "metadata" ms
    spec := ← optionalMember PodSpec.decode? "spec" ms }

end PodTemplate

namespace LabelSelector

def encode (s : LabelSelector) : Json :=
  record [("matchLabels", s.matchLabels.map ofDict)]

def decode? (j : Json) : Option LabelSelector := do
  let ms ← readObject? j
  return { matchLabels := ← optionalMember readDict? "matchLabels" ms }

end LabelSelector

namespace DeploymentSpec

def encode (s : DeploymentSpec) : Json :=
  record [
    ("progressDeadlineSeconds", s.progressDeadlineSeconds.map ofInt32),
    ("replicas", s.replicas.map ofInt32),
    ("selector", some s.selector.encode),
    ("template", some s.template.encode)]

def decode? (j : Json) : Option DeploymentSpec := do
  let ms ← readObject? j
  return {
    replicas := ← optionalMember readInt32? "replicas" ms
    selector := ← memberOr {} LabelSelector.decode? "selector" ms
    template := ← memberOr {} PodTemplate.decode? "template" ms
    progressDeadlineSeconds := ← optionalMember readInt32? "progressDeadlineSeconds" ms }

end DeploymentSpec

namespace Deployment

def replicas (d : Deployment) : Option Int32 :=
  d.spec.bind (·.replicas)

def firstContainer? (d : Deployment) : Option Container :=
  (d.spec.bind (·.template.spec)).bind (·.containers.head?)

end Deployment

end ClusterOperator

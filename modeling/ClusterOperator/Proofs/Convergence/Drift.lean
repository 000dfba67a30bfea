import ClusterOperator.Proofs.Convergence.Managed

/-!
# What the drift check sees

A live child is left alone exactly if nothing that the spec of its cluster decides would change. The
rest of the child is not looked at, though a replacement carries some of it over.

* `Deployment.Runs`, `Service.Forwards` : a live object does what a spec decides;
* `Manifest.IsControlled` : an owner reference with the identity of an owner has control;
* `Manifest.IsCurrent` : a live child has all that a spec decides of a wanted one;
* `Manifest.AgreesWith` : two live children agree on what a spec decides;
* `Manifest.not_needsUpdate_iff` : a live child is left alone exactly if it has all of this;
* `drift_seen_exactly` : which live children are left alone.
-/

namespace ClusterOperator

/-! ## Live objects -/

/-- The names and the numbers of the ports of the first container. -/
def Deployment.mainPorts (d : Deployment) : List (Option String × Int32) :=
  (d.firstContainer?.map fun k => k.portList.map fun p => (p.name, p.containerPort)).getD []

/-- The deployment asks for that many pods, and their first container runs the image and opens the
ports. -/
def Deployment.Runs (d : Deployment) (replicas : Int32) (image : String)
    (ports : List (Option String × Int32)) : Prop :=
  ∃ spec pod container others, d.spec = some spec ∧ spec.replicas = some replicas ∧
    spec.template.spec = some pod ∧ pod.containers = container :: others ∧
    container.image = some image ∧
    (container.ports.getD []).map (fun p => (p.name, p.containerPort)) = ports

/-- The service forwards these ports; no list of ports is an empty one. -/
def Service.Forwards (s : Service) (ports : List (Option String × Int32 × Option PortTarget)) :
    Prop :=
  ((s.spec.bind (·.ports)).getD []).map (fun p => (p.name, p.port, p.targetPort)) = ports

theorem Deployment.runs_iff {d : Deployment} {replicas : Int32} {image : String}
    {ports : List (Option String × Int32)} :
    d.Runs replicas image ports ↔
      (Manifest.deployment d).managedFields =
        .deployment (some replicas) (some (some image, ports)) := by
  rw [Manifest.managedFields, ManagedFields.deployment.injEq, Option.map_eq_some_iff]
  constructor
  · rintro ⟨spec, pod, container, others, hspec, hreplicas, hpod, hcontainers, himage, hports⟩
    have hfirst : d.firstContainer? = some container := by
      simp [firstContainer?, hspec, hpod, hcontainers]
    refine ⟨by simp [Deployment.replicas, hspec, hreplicas], container, hfirst, ?_⟩
    rw [himage, Container.portList, hports]
  · rintro ⟨hreplicas, container, hfirst, hfields⟩
    obtain ⟨himage, hports⟩ := Prod.mk.inj hfields
    obtain ⟨spec, hspec, hreplicas⟩ := Option.bind_eq_some_iff.1 hreplicas
    obtain ⟨pod, hpod, hhead⟩ := Option.bind_eq_some_iff.1 hfirst
    rw [hspec, Option.bind_some] at hpod
    obtain ⟨others, hcontainers⟩ := List.head?_eq_some_iff.1 hhead
    exact ⟨spec, pod, container, others, hspec, hreplicas, hpod, hcontainers, himage, hports⟩

theorem Service.forwards_iff {s : Service}
    {ports : List (Option String × Int32 × Option PortTarget)} :
    s.Forwards ports ↔ (Manifest.service s).managedFields = .service ports := by
  rw [Manifest.managedFields, ManagedFields.service.injEq]
  exact Iff.rfl

namespace Manifest

def IsControlled (m : Manifest) (owner : OwnerReference) : Prop :=
  ∃ rs, m.metadata.ownerReferences = some rs ∧
    ∃ r ∈ rs, r.uid = owner.uid ∧ r.controller = some true

theorem isControlled_iff {m : Manifest} {owner : OwnerReference} :
    m.IsControlled owner ↔ m.metadata.isControlledBy owner.uid = true := by
  unfold IsControlled Metadata.isControlledBy
  cases m.metadata.ownerReferences <;> simp

/-! ## Children that are left alone -/

/-- A live object is of the kind of a wanted one and does what a spec decides, on its ports. -/
def Fulfils (live wanted : Manifest) (spec : ClusterSpec) : Prop :=
  match live, wanted with
  | .deployment l, .deployment w => l.Runs spec.replicaCount spec.image w.mainPorts
  | .service l, .service w => l.Forwards (w.ports.map fun p => (p.name, p.port, p.targetPort))
  | _, _ => False

/-- A live child has all that a spec decides of a wanted one, and the owner controls it. -/
structure IsCurrent (live wanted : Manifest) (spec : ClusterSpec) (owner : OwnerReference) :
    Prop where
  controlled : live.IsControlled owner
  version : live.version = wanted.version
  fulfils : live.Fulfils wanted spec

/-- Two live children agree on what a spec decides and on whether the owner controls them. -/
structure AgreesWith (live other : Manifest) (owner : OwnerReference) : Prop where
  controlled : live.IsControlled owner ↔ other.IsControlled owner
  version : live.version = other.version
  fields : live.managedFields = other.managedFields

variable {live other m : Manifest} {owner : OwnerReference} {c : Cluster}

theorem managedFields_eq_iff (hm : m ∈ Children.wanted c) :
    live.managedFields = m.managedFields ↔ live.Fulfils m c.spec := by
  rcases Children.mem_wanted.1 hm with rfl | ⟨rfl, -⟩
  · cases live with
    | deployment l => exact Deployment.runs_iff.symm
    | service l => exact ⟨nofun, False.elim⟩
  · cases live with
    | deployment l => exact ⟨nofun, False.elim⟩
    | service l => exact Service.forwards_iff.symm

theorem isConverged_iff (hm : m ∈ Children.wanted c) :
    live.IsConverged m owner.uid ↔ live.IsCurrent m c.spec owner := by
  have hfields : live.managedFields = m.managedFields ↔ live.Fulfils m c.spec :=
    managedFields_eq_iff hm
  constructor
  · intro h
    exact ⟨isControlled_iff.2 h.controlled, h.version, hfields.1 h.fields⟩
  · intro h
    exact ⟨hfields.2 h.fulfils, h.version, isControlled_iff.1 h.controlled⟩

/-- What a live child has to share with its replacement is what it has to share with the wanted
child: nothing that is carried over counts. -/
theorem isConverged_owned_carryForward :
    live.IsConverged ((live.carryForward m).owned owner) owner.uid ↔
      live.IsConverged m owner.uid := by
  constructor
  · intro h
    exact ⟨by simpa using h.fields, by simpa using h.version, h.controlled⟩
  · intro h
    exact ⟨by simpa using h.fields, by simpa using h.version, h.controlled⟩

/-- A live child is left alone exactly if it is as wanted in all that the spec decides. -/
theorem not_needsUpdate_iff (hm : m ∈ Children.wanted c) :
    live.needsUpdate ((live.carryForward m).owned owner) owner = false ↔
      live.IsCurrent m c.spec owner := by
  rw [← isConverged_iff hm, ← isConverged_owned_carryForward]
  refine ⟨isConverged_of_unchanged, fun h => not_needsUpdate_of_isConverged h ?_⟩
  rw [managedFields_owned, managedFields_carryForward, Children.managedFields_of_wanted hm]
  exact c.spec.isFull_managedFields m.kind

theorem AgreesWith.symm (h : live.AgreesWith other owner) : other.AgreesWith live owner :=
  ⟨h.controlled.symm, h.version.symm, h.fields.symm⟩

theorem AgreesWith.isCurrent (h : live.AgreesWith other owner) (hm : m ∈ Children.wanted c)
    (hlive : live.IsCurrent m c.spec owner) : other.IsCurrent m c.spec owner where
  controlled := h.controlled.1 hlive.controlled
  version := h.version.symm.trans hlive.version
  fulfils := by
    rw [← managedFields_eq_iff hm, ← h.fields, managedFields_eq_iff hm]
    exact hlive.fulfils

end Manifest

/-- Whoever the owner is, a live child is left alone exactly if it is of the kind of the wanted one,
the owner controls it, it has the same version label or none like it, and it runs or forwards what
the spec of the cluster decides. So two live children that agree on this get the same answer,
whatever else they hold and is carried over from them. -/
theorem drift_seen_exactly {c : Cluster} {m : Manifest} (hm : m ∈ Children.wanted c)
    (owner : OwnerReference) (live : Manifest) :
    (live.needsUpdate ((live.carryForward m).owned owner) owner = false ↔
      live.IsCurrent m c.spec owner) ∧
    ∀ other : Manifest, live.AgreesWith other owner →
      live.needsUpdate ((live.carryForward m).owned owner) owner =
        other.needsUpdate ((other.carryForward m).owned owner) owner := by
  refine ⟨Manifest.not_needsUpdate_iff hm, fun other h => ?_⟩
  apply Bool.not_inj
  rw [← Bool.coe_false_iff_false, Manifest.not_needsUpdate_iff hm, Manifest.not_needsUpdate_iff hm]
  exact ⟨h.isCurrent hm, h.symm.isCurrent hm⟩

/-- A cluster of version 2 that keeps three pods. -/
def versionedCluster : Cluster where
  metadata := { name := some "demo", namespaceName := some "ns", uid := some "u" }
  spec := { image := "a", replicas := some 3, version := some "2" }

def versionedOwner : OwnerReference :=
  { apiVersion, kind := "BssCluster", name := "demo", uid := "u", controller := some true }

/-- A deployment of that cluster as the platform and other clients have left it: without the labels
that it was made with but the version, with an annotation, a second container, and a protocol for
its port. -/
def seasonedDeployment : Manifest :=
  .deployment {
    metadata := {
      name := some "demo", namespaceName := some "ns", resourceVersion := some "41"
      labels := some (({} : Labels).insert Children.labelVersion "2")
      annotations := some (({} : Labels).insert "deployment.kubernetes.io/revision" "7")
      ownerReferences := some [{ kind := "Other", uid := "v" }, versionedOwner] }
    spec := some {
      replicas := some 3
      progressDeadlineSeconds := some 600
      template := { spec := some { containers := [
        { name := "main", image := some "a", ports := some [
          { name := some "http", containerPort := 8080, protocol := some "TCP" }] },
        { name := "proxy", image := some "b" }] } } } }

/-- It is left alone, and so is the deployment as it was made. -/
theorem drift_seen_exactly_past_side_fields :
    let wanted : Manifest := .deployment (Children.deployment versionedCluster)
    let made := wanted.owned versionedOwner
    let live := seasonedDeployment
    wanted ∈ Children.wanted versionedCluster ∧ live.AgreesWith made versionedOwner ∧ live ≠ made ∧
      live.needsUpdate ((live.carryForward wanted).owned versionedOwner) versionedOwner = false ∧
      made.needsUpdate ((made.carryForward wanted).owned versionedOwner) versionedOwner =
        false := by
  intro wanted made live
  have hm : wanted ∈ Children.wanted versionedCluster := by decide
  have hcontrol (m : Manifest) (h : m.metadata.isControlledBy "u" = true) :
      m.IsControlled versionedOwner := Manifest.isControlled_iff.2 h
  have hagree : live.AgreesWith made versionedOwner :=
    ⟨iff_of_true (hcontrol _ (by decide)) (hcontrol _ (by decide)), by decide, by decide⟩
  have hruns : live.Fulfils wanted versionedCluster.spec :=
    ⟨_, _, _, _, rfl, rfl, rfl, rfl, rfl, rfl⟩
  obtain ⟨hiff, hsame⟩ := drift_seen_exactly hm versionedOwner live
  have halone := hiff.2 ⟨hcontrol _ (by decide), by decide, hruns⟩
  exact ⟨hm, hagree, by decide, halone, (hsame made hagree).symm.trans halone⟩

end ClusterOperator

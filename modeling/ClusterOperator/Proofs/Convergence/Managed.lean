import ClusterOperator.Children.Wanted
import ClusterOperator.Convergence.Child

/-!
# Managed fields

The spec of a cluster decides a few fields of its children. What is written to the store has these
fields as wanted, and a child that is left alone has them already.

* `ManagedFields`, `Manifest.managedFields` : the fields of a child that a spec decides;
* `ClusterSpec.managedFields`, `ClusterSpec.versionLabel` : what a spec decides;
* `Manifest.IsConverged` : a child has what a wanted one has, under the control of an owner;
* `Manifest.isConverged_of_unchanged`, `Manifest.isConverged_owned` : a child that needs no update,
  and a child that is written; `Manifest.not_needsUpdate_of_isConverged`, such a child needs none;
* `Children.managedFields_of_wanted`, `Children.version_of_wanted` : wanted children have what the
  spec decides.
-/

namespace ClusterOperator

/-- The fields of a child that a spec decides, beside its version label. -/
inductive ManagedFields where
  /-- The replica count, and the image and the ports of the first container. -/
  | deployment (replicas : Option Int32)
      (container : Option (Option String × List (Option String × Int32)))
  | service (ports : List (Option String × Int32 × Option PortTarget))
  deriving DecidableEq

def ManagedFields.isFull : ManagedFields → Bool
  | .deployment replicas container => replicas.isSome && container.isSome
  | .service _ => true

def Manifest.managedFields : Manifest → ManagedFields
  | .deployment d => .deployment d.replicas (d.firstContainer?.map fun k =>
      (k.image, k.portList.map fun p => (p.name, p.containerPort)))
  | .service s => .service (s.ports.map fun p => (p.name, p.port, p.targetPort))

namespace ClusterSpec

def managedFields (s : ClusterSpec) : ChildKind → ManagedFields
  | .deployment => .deployment (some s.replicaCount)
      (some (some s.image, [(some Children.portName, s.portNumber)]))
  | .service => .service [(some Children.portName, s.portNumber, some (.number s.portNumber))]

theorem isFull_managedFields (s : ClusterSpec) (kind : ChildKind) :
    (s.managedFields kind).isFull = true := by
  cases kind <;> rfl

/-- The version label that a spec decides: none for an empty version. -/
def versionLabel (s : ClusterSpec) : Option String :=
  s.version.filter (!·.isEmpty)

end ClusterSpec

/-! ## Owners -/

namespace Metadata

theorem any_upsert {owner : OwnerReference} (h : owner.controller = some true)
    (rs : List OwnerReference) :
    (upsert owner rs).any (fun r => r.uid = owner.uid && r.controller = some true) = true := by
  induction rs with
  | nil => simp [upsert, h]
  | cons r rest ih =>
    rw [upsert]
    split
    · simp [h]
    · rw [List.any_cons, ih, Bool.or_true]

theorem isControlledBy_upsertOwner (m : Metadata) {owner : OwnerReference}
    (h : owner.controller = some true) :
    (m.upsertOwner owner).isControlledBy owner.uid = true :=
  any_upsert h _

end Metadata

namespace Manifest

/-! ## What a replacement keeps -/

@[simp] theorem managedFields_withMetadata (m : Manifest) (x : Metadata) :
    (m.withMetadata x).managedFields = m.managedFields := by
  cases m <;> rfl

@[simp] theorem managedFields_owned (m : Manifest) (owner : OwnerReference) :
    (m.owned owner).managedFields = m.managedFields :=
  managedFields_withMetadata m _

@[simp] theorem version_owned (m : Manifest) (owner : OwnerReference) :
    (m.owned owner).version = m.version := by
  simp [version, owned, Metadata.upsertOwner]

@[simp] theorem ref_owned (m : Manifest) (owner : OwnerReference) :
    (m.owned owner).ref = m.ref := by
  simp [ref, name, namespaceName, owned, Metadata.upsertOwner, Metadata.anyNamespace]

@[simp] theorem metadata_carryForward (live wanted : Manifest) :
    (live.carryForward wanted).metadata = carryMetadata live.metadata wanted.metadata := by
  cases live <;> cases wanted <;> rfl

@[simp] theorem kind_carryForward (live wanted : Manifest) :
    (live.carryForward wanted).kind = wanted.kind := by
  cases live <;> cases wanted <;> rfl

@[simp] theorem managedFields_carryForward (live wanted : Manifest) :
    (live.carryForward wanted).managedFields = wanted.managedFields := by
  cases live with
  | deployment l => cases wanted <;> rfl
  | service l =>
    cases wanted with
    | deployment w => rfl
    | service w =>
      obtain ⟨lm, ls⟩ := l
      obtain ⟨wm, ws⟩ := w
      cases ls <;> cases ws <;> rfl

@[simp] theorem version_carryForward (live wanted : Manifest) :
    (live.carryForward wanted).version = wanted.version := by
  simp [version, carryMetadata]

@[simp] theorem ref_carryForward (live wanted : Manifest) :
    (live.carryForward wanted).ref = wanted.ref := by
  simp [ref, name, namespaceName, carryMetadata, Metadata.anyNamespace]

theorem resourceVersion_carryForward_owned (live wanted : Manifest) (owner : OwnerReference) :
    ((live.carryForward wanted).owned owner).metadata.resourceVersion =
      live.metadata.resourceVersion := by
  simp [owned, Metadata.upsertOwner, carryMetadata]

/-! ## Converged children -/

/-- A child has the managed fields and the version of a wanted one, and an owner controls it. -/
structure IsConverged (live wanted : Manifest) (uid : String) : Prop where
  fields : live.managedFields = wanted.managedFields
  version : live.version = wanted.version
  controlled : live.metadata.isControlledBy uid = true

theorem isConverged_owned {m wanted : Manifest} {owner : OwnerReference}
    (h : owner.controller = some true) (hfields : m.managedFields = wanted.managedFields)
    (hversion : m.version = wanted.version) : (m.owned owner).IsConverged wanted owner.uid where
  fields := by rw [managedFields_owned, hfields]
  version := by rw [version_owned, hversion]
  controlled := by
    rw [owned, metadata_withMetadata]
    exact Metadata.isControlledBy_upsertOwner _ h

theorem managedFields_eq_of_deployment {l w : Deployment} (h : l.differs w = false) :
    (deployment l).managedFields = (deployment w).managedFields := by
  unfold Deployment.differs at h
  split at h
  · next a b k j ha hb hk hj =>
    simp only [Bool.or_eq_false_iff, decide_eq_false_iff_not, ne_eq, Decidable.not_not] at h
    obtain ⟨⟨hr, hi⟩, hp⟩ := h
    simp only [managedFields, ha, hb, hk, hj, Option.map_some, hr, hi, hp]
  · cases h

theorem managedFields_eq_of_service {l w : Service} (h : l.differs w = false) :
    (service l).managedFields = (service w).managedFields := by
  simp only [Service.differs, decide_eq_false_iff_not, ne_eq, Decidable.not_not] at h
  rw [managedFields, managedFields, h]

/-- A child that needs no update has what the replacement would have. -/
theorem isConverged_of_unchanged {live next : Manifest} {owner : OwnerReference}
    (h : live.needsUpdate next owner = false) : live.IsConverged next owner.uid := by
  simp only [needsUpdate, Bool.or_eq_false_iff, Bool.not_eq_false', decide_eq_false_iff_not,
    ne_eq, Decidable.not_not] at h
  obtain ⟨⟨hcontrol, hversion⟩, hfields⟩ := h
  refine ⟨?_, hversion, hcontrol⟩
  cases live with
  | deployment l =>
    cases next with
    | deployment w => exact managedFields_eq_of_deployment hfields
    | service w => cases hfields
  | service l =>
    cases next with
    | deployment w => cases hfields
    | service w => exact managedFields_eq_of_service hfields

theorem not_differs_of_managedFields {l w : Deployment}
    (h : (deployment l).managedFields = (deployment w).managedFields)
    (hfull : (deployment w).managedFields.isFull = true) : l.differs w = false := by
  simp only [managedFields, ManagedFields.deployment.injEq] at h
  simp only [managedFields, ManagedFields.isFull, Bool.and_eq_true, Option.isSome_map] at hfull
  obtain ⟨hreplicas, hcontainer⟩ := h
  obtain ⟨n, hn⟩ := Option.isSome_iff_exists.1 hfull.1
  obtain ⟨j, hj⟩ := Option.isSome_iff_exists.1 hfull.2
  rw [hj, Option.map_some, Option.map_eq_some_iff] at hcontainer
  obtain ⟨k, hk, hkj⟩ := hcontainer
  have hkj := Prod.mk.inj hkj
  unfold Deployment.differs
  rw [hreplicas, hn, hk, hj]
  simp [hkj.1, hkj.2]

/-- A child that has what the replacement would have needs no update. -/
theorem not_needsUpdate_of_isConverged {live next : Manifest} {owner : OwnerReference}
    (h : live.IsConverged next owner.uid) (hfull : next.managedFields.isFull = true) :
    live.needsUpdate next owner = false := by
  have hfields := h.fields
  unfold needsUpdate
  rw [h.controlled, h.version]
  cases live with
  | deployment l =>
    cases next with
    | deployment w => simp [not_differs_of_managedFields hfields hfull]
    | service w => cases hfields
  | service l =>
    cases next with
    | deployment w => cases hfields
    | service w =>
      have hports := ManagedFields.service.inj hfields
      simp [Service.differs, hports]

theorem IsConverged.trans {live next wanted : Manifest} {uid : String}
    (h : live.IsConverged next uid) (hn : next.IsConverged wanted uid) :
    live.IsConverged wanted uid :=
  ⟨h.fields.trans hn.fields, h.version.trans hn.version, h.controlled⟩

end Manifest

/-! ## The children of a cluster -/

theorem exists_ownerReference {c : Cluster} {uid : String} (hname : c.metadata.name.isSome)
    (huid : c.metadata.uid = some uid) :
    ∃ owner, ownerReference c = .ok owner ∧ owner.uid = uid := by
  obtain ⟨name, hname⟩ := Option.isSome_iff_exists.1 hname
  simp [ownerReference, hname, huid]

theorem controller_ownerReference {c : Cluster} {owner : OwnerReference}
    (h : ownerReference c = .ok owner) : owner.controller = some true := by
  unfold ownerReference at h
  split at h <;> cases h
  rfl

namespace Children

theorem get?_commonLabels (instanceName : String) (version : Option String) :
    (commonLabels instanceName version).get? labelVersion = version.filter (!·.isEmpty) := by
  have hnone : (((selectorLabels instanceName).insert labelPartOf operatorName).insert
      labelManagedBy operatorName).get? labelVersion = none := by
    simp [selectorLabels, Dict.get?_insert, labelVersion, labelManagedBy, labelPartOf,
      labelInstance, labelName]
  unfold commonLabels
  cases version with
  | none => exact hnone
  | some v =>
    rw [Option.filter_some]
    by_cases hv : v.isEmpty = true
    · simp [hv, hnone]
    · simp [hv, Dict.get?_insert]

theorem mem_wanted {c : Cluster} {m : Manifest} :
    m ∈ wanted c ↔
      m = .deployment (deployment c) ∨ m = .service (service c) ∧ c.spec.isExposed := by
  unfold wanted
  split <;> simp_all [or_comm]

theorem managedFields_of_wanted {c : Cluster} {m : Manifest} (h : m ∈ wanted c) :
    m.managedFields = c.spec.managedFields m.kind := by
  rcases mem_wanted.1 h with rfl | ⟨rfl, -⟩ <;> rfl

theorem version_of_wanted {c : Cluster} {m : Manifest} (h : m ∈ wanted c) :
    m.version = c.spec.versionLabel := by
  have hl : m.metadata.labels = some (commonLabels c.metadata.anyName c.spec.version) := by
    rcases mem_wanted.1 h with rfl | ⟨rfl, -⟩ <;> rfl
  rw [Manifest.version, hl, Option.bind_some, get?_commonLabels, ClusterSpec.versionLabel]

def refOf (c : Cluster) (kind : ChildKind) : ChildRef :=
  ⟨kind, c.metadata.anyNamespace, c.metadata.anyName⟩

theorem nodup_wanted (c : Cluster) : ((wanted c).map Manifest.ref).Nodup := by
  unfold wanted
  split <;> simp [Manifest.ref, Manifest.kind]

theorem dropped_not_wanted {c : Cluster} {r : ChildRef} (h : r ∈ dropped c) :
    r ∉ (wanted c).map Manifest.ref := by
  unfold dropped at h
  unfold wanted
  split at h
  · cases h
  · next he =>
    rw [List.mem_singleton.1 h, if_neg he]
    simp [Manifest.ref, Manifest.kind]

end Children

end ClusterOperator

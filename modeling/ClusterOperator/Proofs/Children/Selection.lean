import ClusterOperator.Proofs.Convergence.Control

/-!
# Children select their own pods

The service and the deployment of a cluster find pods by the labels of a selector, which has the
name of the cluster and nothing that its spec decides. The pods of a deployment have these labels
and more.

* `Dict.IsWithin` : all entries of a map are entries of another one;
* `Manifest.selector?`, `Deployment.podLabels?` : the labels by which a child finds pods, and those
  of the pods that a deployment makes;
* `Children.isWithin_commonLabels_iff` : whose labels a selector is within;
* `Children.version_commonLabels_iff` : when labels have a version;
* `Children.selector?_of_wanted`, `selector?_of_writes` : the selector of the children that a
  cluster wants, and of all that is written for them;
* `selectors_match_own_pods` : the selectors of a cluster, and the pods that they match.
-/

namespace ClusterOperator

/-- All entries of a map are entries of another one. -/
def Dict.IsWithin {κ ν : Type} [DecidableEq κ] (d e : Dict κ ν) : Prop :=
  ∀ k v, d.get? k = some v → e.get? k = some v

/-- The labels by which a child finds pods. -/
def Manifest.selector? : Manifest → Option Labels
  | .service s => s.spec.bind (·.selector)
  | .deployment d => d.spec.bind (·.selector.matchLabels)

def Deployment.podLabels? (d : Deployment) : Option Labels :=
  (d.spec.bind (·.template.metadata)).bind (·.labels)

namespace Children

variable {instanceName other : String} {version : Option String}

/-! ## Labels -/

theorem get?_selectorLabels (instanceName key : String) :
    (selectorLabels instanceName).get? key =
      if key = labelInstance then some instanceName
      else if key = labelName then some applicationName else none := by
  unfold selectorLabels
  rw [Dict.get?_insert, Dict.get?_insert, Dict.get?_empty]

/-- Beside a selector's labels there are those of this operator and the version. -/
theorem get?_commonLabels_of_ne {key : String} (hpart : key ≠ labelPartOf)
    (hmanaged : key ≠ labelManagedBy) (hversion : key ≠ labelVersion) :
    (commonLabels instanceName version).get? key = (selectorLabels instanceName).get? key := by
  have hplain : (((selectorLabels instanceName).insert labelPartOf operatorName).insert
      labelManagedBy operatorName).get? key = (selectorLabels instanceName).get? key := by
    rw [Dict.get?_insert, if_neg hmanaged, Dict.get?_insert, if_neg hpart]
  unfold commonLabels
  cases version with
  | none => exact hplain
  | some v =>
    dsimp only
    split
    · exact hplain
    · rw [Dict.get?_insert, if_neg hversion, hplain]

/-- A selector is within the labels of the children of a cluster exactly if it is the selector of
the cluster's name. -/
theorem isWithin_commonLabels_iff :
    (selectorLabels instanceName).IsWithin (commonLabels other version) ↔
      instanceName = other := by
  have hinstance : (commonLabels other version).get? labelInstance = some other := by
    rw [get?_commonLabels_of_ne (by decide) (by decide) (by decide), get?_selectorLabels,
      if_pos rfl]
  constructor
  · intro h
    have hown := h labelInstance instanceName (by rw [get?_selectorLabels, if_pos rfl])
    rw [hinstance] at hown
    exact (Option.some.inj hown).symm
  · rintro rfl key value h
    have hkey : key = labelInstance ∨ key = labelName := by
      rw [get?_selectorLabels] at h
      split at h
      · next hi => exact Or.inl hi
      · split at h
        · next hn => exact Or.inr hn
        · exact absurd h (by simp)
    rw [get?_commonLabels_of_ne, h]
    all_goals rcases hkey with rfl | rfl <;> decide

theorem version_commonLabels_iff {v : String} :
    (commonLabels instanceName version).get? labelVersion = some v ↔
      version = some v ∧ v ≠ "" := by
  rw [get?_commonLabels, Option.filter_eq_some_iff]
  simp

end Children

/-! ## Selectors -/

namespace Manifest

@[simp] theorem selector?_withMetadata (m : Manifest) (x : Metadata) :
    (m.withMetadata x).selector? = m.selector? := by
  cases m <;> rfl

@[simp] theorem selector?_owned (m : Manifest) (owner : OwnerReference) :
    (m.owned owner).selector? = m.selector? :=
  m.selector?_withMetadata _

/-- A live child has no say in the selector that it is replaced with. -/
@[simp] theorem selector?_carryForward (live wanted : Manifest) :
    (live.carryForward wanted).selector? = wanted.selector? := by
  match live, wanted with
  | .deployment l, .deployment w | .deployment l, .service w | .service l, .deployment w => rfl
  | .service ⟨lm, ls⟩, .service ⟨wm, ws⟩ => cases ls <;> cases ws <;> rfl

end Manifest

theorem Children.selector?_of_wanted {c : Cluster} {m : Manifest} (h : m ∈ wanted c) :
    m.selector? = some (selectorLabels c.metadata.anyName) := by
  rcases mem_wanted.1 h with rfl | ⟨rfl, -⟩ <;> rfl

theorem selector?_of_writes {σ : Type} {answer : (q : ChildRequest) → σ → q.Reply × σ} {s : σ}
    {owner : OwnerReference} {wanted m : Manifest}
    (h : m ∈ (convergeChild owner wanted).writes answer s) :
    m.selector? = wanted.selector? := by
  rw [writes_convergeChild] at h
  split at h
  · exact absurd h List.not_mem_nil
  · rw [List.mem_singleton.1 h, Manifest.selector?_owned]
  · dsimp only at h
    split at h
    · rw [List.mem_singleton.1 h, Manifest.selector?_owned, Manifest.selector?_carryForward]
    · exact absurd h List.not_mem_nil

open Children

/-- The deployment and the service of a cluster have the same selector. So have those of any
cluster with its name, whatever the spec, and all that is ever written for them. It is within the
labels of the pods of a cluster exactly if that one has the same name. The labels of the children
and of the pods have a version exactly if the spec has one that is not empty. The name of a cluster
is the prefix that its name is generated from if it has none. -/
theorem selectors_match_own_pods (c d : Cluster) :
    ∃ selector podLabels : Labels,
      (Manifest.deployment (deployment c)).selector? = some selector ∧
      (Manifest.service (service c)).selector? = some selector ∧
      (∀ e : Cluster, e.metadata.anyName = c.metadata.anyName →
        (Manifest.deployment (deployment e)).selector? = some selector ∧
        (Manifest.service (service e)).selector? = some selector ∧
        ∀ (σ : Type) (answer : (q : ChildRequest) → σ → q.Reply × σ) (s : σ)
          (owner : OwnerReference), ∀ child ∈ wanted e,
          ∀ m ∈ (convergeChild owner child).writes answer s, m.selector? = some selector) ∧
      (deployment d).podLabels? = some podLabels ∧
      (selector.IsWithin podLabels ↔ c.metadata.anyName = d.metadata.anyName) ∧
      ∀ labels ∈ [(service d).metadata.labels, (deployment d).metadata.labels, some podLabels],
        ∃ ls, labels = some ls ∧
          ∀ v, ls.get? labelVersion = some v ↔ d.spec.version = some v ∧ v ≠ "" := by
  refine ⟨selectorLabels c.metadata.anyName, commonLabels d.metadata.anyName d.spec.version, rfl,
    rfl, fun e he => ?_, rfl, isWithin_commonLabels_iff, fun labels hlabels => ?_⟩
  · rw [← he]
    refine ⟨rfl, rfl, fun σ answer s owner child hchild m hm => ?_⟩
    rw [selector?_of_writes hm, selector?_of_wanted hchild]
  · refine ⟨commonLabels d.metadata.anyName d.spec.version, ?_, fun v => version_commonLabels_iff⟩
    simpa [service, deployment, childMetadata] using hlabels

end ClusterOperator

import ClusterOperator.Proofs.Convergence.Children
import ClusterOperator.Proofs.Convergence.Faults
import ClusterOperator.Proofs.Status.Reports

/-!
# One pass converges

A pass over a cluster is run over stores whose calls do not fail and that nobody else writes.

* `Bench.run_childAnswer`, `ClusterBench.run_ofChild` : a dialogue with the children of such a
  bench is one with its store;
* `ClusterBench.Holds` : a cluster is stored, and no call is made to fail; `startCluster_run`,
  `pass_start`, `reportCluster_run`, `workOnCluster_run`, the parts of a pass over such a bench;
* `converges_in_one_pass` : whatever the store of children holds, one pass is enough.
-/

namespace ClusterOperator

open Dialogue

/-! ## Calls that do not fail -/

namespace Bench

variable {σ τ α : Type}

theorem childAnswer_of_silent (q : ChildRequest) {b : Bench σ τ} (hb : b.faults.AreSilent) :
    ∃ b' : Bench σ τ, childAnswer q b = ((b.children.answer q).1, b') ∧
      b'.children = (b.children.answer q).2 ∧ b'.entities = b.entities ∧ b'.faults.AreSilent := by
  obtain ⟨g, hg, hs⟩ := hb.next q.callName
  simp only [childAnswer, hg]
  exact ⟨_, rfl, rfl, rfl, hs⟩

theorem run_childAnswer (d : ChildDialogue α) {b : Bench σ τ} (hb : b.faults.AreSilent) :
    ∃ b' : Bench σ τ, d.run childAnswer b = ((d.run ChildStore.answer b.children).1, b') ∧
      b'.children = (d.run ChildStore.answer b.children).2 ∧ b'.entities = b.entities ∧
        b'.faults.AreSilent := by
  induction d generalizing b with
  | finish a => exact ⟨b, rfl, rfl, rfl, hb⟩
  | ask q next ih =>
    obtain ⟨b₁, h₁, hc, he, hs⟩ := childAnswer_of_silent q hb
    obtain ⟨b₂, h₂, hc₂, he₂, hs₂⟩ := ih (b.children.answer q).1 hs
    simp only [run, h₁, h₂, hc]
    exact ⟨b₂, rfl, hc₂.trans (by rw [hc]), he₂.trans he, hs₂⟩

end Bench

namespace ClusterBench

variable {α : Type}

theorem run_ofChild (stamp : String) (d : ChildDialogue α) (b : ClusterBench) :
    (ClusterDialogue.ofChild d).run (answer stamp) b = d.run Bench.childAnswer b := by
  induction d generalizing b with
  | finish a => rfl
  | ask q next ih =>
    simp only [ClusterDialogue.ofChild, interpret, request, ask_bind, finish_bind, run, answer]
    exact ih _ _

/-! ## The parts of a pass -/

/-- A cluster is stored under its key, and no call is made to fail. -/
structure Holds (b : ClusterBench) (c : Cluster) : Prop where
  silent : b.faults.AreSilent
  stored : b.entities.objects.get? c.key = some c

variable {b : ClusterBench} {c : Cluster}

theorem fetch_run (hb : b.Holds c) (stamp : String) :
    ∃ b' : ClusterBench, (ClusterDialogue.fetch c.key).run (answer stamp) b = (.ok (some c), b') ∧
      b'.Holds c ∧ b'.children = b.children := by
  obtain ⟨g, hg, hs⟩ := hb.silent.next .getEntity
  have hstored := hb.stored
  simp only [ClusterDialogue.fetch, request, run, answer, Bench.entityAnswer, hg,
    EntityStore.answer, hstored]
  exact ⟨_, rfl, ⟨hs, hb.stored⟩, rfl⟩

theorem publish_run (hb : b.Holds c) (stamp : String) (status : ClusterStatus) :
    ∃ b' : ClusterBench,
      (ClusterDialogue.publish (c.withStatus status)).run (answer stamp) b =
        (.ok (c.withStatus status), b') ∧
      b'.Holds (c.withStatus status) ∧ b'.children = b.children := by
  obtain ⟨g, hg, hs⟩ := hb.silent.next .publish
  have hstored : b.entities.objects.get? (c.withStatus status).key = some c := hb.stored
  simp only [ClusterDialogue.publish, request, run, answer, Bench.entityAnswer, hg,
    EntityStore.answer, hstored]
  exact ⟨_, rfl, ⟨hs, (Dict.get?_insert _ _ _ _).trans (if_pos rfl)⟩, rfl⟩

theorem startCluster_run (hb : b.Holds c) (stamp : String) :
    ∃ (status : Option ClusterStatus) (b' : ClusterBench),
      (startCluster stamp c).run (answer stamp) b = (.ok { c with status }, b') ∧
        b'.Holds { c with status } ∧ b'.children = b.children ∧
        Entity.conditions { c with status } ≠ [] := by
  unfold startCluster
  split
  · obtain ⟨b', hrun, hb', hchildren⟩ := publish_run hb stamp (c.statusOrEmpty.started stamp)
    exact ⟨_, b', hrun, hb', hchildren, Condition.set_ne_nil⟩
  · next h => exact ⟨c.status, b, rfl, hb, rfl, by simpa using h⟩

theorem run_clock (stamp : String) (b : ClusterBench) :
    (ClusterDialogue.clock).run (answer stamp) b = (stamp, b) :=
  rfl

/-- A pass over a stored cluster that is not being deleted starts it and goes to work. -/
theorem pass_start (hb : b.Holds c) (stamp : String)
    (hlive : c.metadata.deletionTimestamp = none) :
    ∃ (status : Option ClusterStatus) (b' : ClusterBench),
      pass stamp c.key b = (workOnCluster stamp { c with status }).run (answer stamp) b' ∧
        b'.Holds { c with status } ∧ b'.children = b.children ∧
        Entity.conditions { c with status } ≠ [] := by
  obtain ⟨b₁, h₁, hb₁, hc₁⟩ := fetch_run hb stamp
  obtain ⟨status, b₂, h₂, hb₂, hc₂, hc⟩ := startCluster_run hb₁ stamp
  refine ⟨status, b₂, ?_, hb₂, hc₂.trans hc₁, hc⟩
  simp [pass, reconcileCluster, run_bind, h₁, hlive, run_clock, h₂]

theorem reportCluster_run (hb : b.Holds c) (stamp : String) (status : ClusterStatus)
    (outcome : Except PassError Requeue) :
    ∃ b' : ClusterBench,
      (reportCluster c status outcome).run (answer stamp) b = (outcome, b') ∧
        b'.children = b.children := by
  unfold reportCluster
  split
  · obtain ⟨b', hrun, -, hchildren⟩ := publish_run hb stamp status
    refine ⟨b', ?_, hchildren⟩
    simp [run_bind, hrun, run]
  · exact ⟨b, rfl, rfl⟩

theorem workOnCluster_run (hb : b.Holds c) (stamp : String) {refs : List ChildRef}
    {t : ChildStore} (hvalid : c.spec.validate = .ok ())
    (hrun : (convergeChildren c).run ChildStore.answer b.children = (.ok refs, t)) :
    ∃ b' : ClusterBench,
      (workOnCluster stamp c).run (answer stamp) b = (.ok .awaitChange, b') ∧ b'.children = t := by
  obtain ⟨b₁, h₁, hc₁, he₁, hs₁⟩ := Bench.run_childAnswer (convergeChildren c) hb.silent
  rw [hrun] at h₁ hc₁
  have hb₁ : Holds b₁ c := ⟨hs₁, by rw [he₁]; exact hb.stored⟩
  obtain ⟨b₂, h₂, hc₂⟩ := reportCluster_run hb₁ stamp
    (c.statusOrEmpty.ready c.metadata.generation (refs.map fun r => ⟨r.kind.name, r.name⟩) stamp)
    (.ok .awaitChange)
  refine ⟨b₂, ?_, hc₂.trans hc₁⟩
  simp [workOnCluster, hvalid, run_bind, run_ofChild, h₁, h₂]

theorem pass_run (hb : b.Holds c) (stamp : String) {owner : OwnerReference}
    (hlive : c.metadata.deletionTimestamp = none) (howner : ownerReference c = .ok owner)
    (hvalid : c.spec.validate = .ok ()) :
    ∃ b' : ClusterBench, pass stamp c.key b = (.ok .awaitChange, b') ∧
      b'.children = ((convergeChildren c).run ChildStore.answer b.children).2 := by
  obtain ⟨status, b₁, hpass, hb₁, hc₁, -⟩ := pass_start hb stamp hlive
  -- the children of a cluster do not depend on its status
  have hsame : convergeChildren { c with status } = convergeChildren c := rfl
  obtain ⟨t, ht, -⟩ := convergeChildren_run howner b.children
  have hrun : (convergeChildren { c with status }).run ChildStore.answer b₁.children =
      (.ok ((Children.wanted c).map Manifest.ref), t) := by
    rw [hsame, hc₁, ht]
  obtain ⟨b₂, h₂, hc₂⟩ := workOnCluster_run hb₁ stamp hvalid hrun
  exact ⟨b₂, hpass.trans h₂, by rw [hc₂, ht]⟩

end ClusterBench

/-- Whatever the store of children holds, one pass over a cluster that is stored, valid and not
being deleted succeeds, and then every wanted child is there, has what the spec decides, and is
controlled by the cluster. A service that is not wanted is gone unless somebody else controls it,
and all other objects are left alone. -/
theorem converges_in_one_pass (stamp : String) {c : Cluster} {uid : String} {b : ClusterBench}
    (hsilent : b.faults.AreSilent) (hstored : b.entities.objects.get? c.key = some c)
    (hlive : c.metadata.deletionTimestamp = none) (hname : c.metadata.name.isSome)
    (huid : c.metadata.uid = some uid) (hvalid : c.spec.validate = .ok ()) :
    ∃ b' : ClusterBench, ClusterBench.pass stamp c.key b = (.ok .awaitChange, b') ∧
      (∀ m ∈ Children.wanted c, ∃ live, b'.children.objects.get? m.ref = some live ∧
        live.managedFields = c.spec.managedFields m.kind ∧
        live.version = c.spec.versionLabel ∧ live.metadata.isControlledBy uid = true) ∧
      (c.spec.isExposed = false →
        b'.children.objects.get? (Children.refOf c .service) =
          (b.children.objects.get? (Children.refOf c .service)).filter
            (!·.metadata.isControlledBy uid)) ∧
      ∀ r, r ≠ Children.refOf c .deployment → r ≠ Children.refOf c .service →
        b'.children.objects.get? r = b.children.objects.get? r := by
  obtain ⟨owner, howner, rfl⟩ := exists_ownerReference hname huid
  obtain ⟨b', hpass, hchildren⟩ :=
    ClusterBench.pass_run (b := b) ⟨hsilent, hstored⟩ stamp hlive howner hvalid
  obtain ⟨t, ht, hwanted, hdropped, hothers⟩ := convergeChildren_run howner b.children
  rw [ht] at hchildren
  subst hchildren
  refine ⟨b', hpass, fun m hm => ?_, fun hexpose => ?_, fun r hr hr' => ?_⟩
  · obtain ⟨l, hl, hconv⟩ := hwanted m hm
    exact ⟨l, hl, hconv.fields.trans (Children.managedFields_of_wanted hm),
      hconv.version.trans (Children.version_of_wanted hm), hconv.controlled⟩
  · exact hdropped _ (by simp [Children.dropped, hexpose, Children.refOf])
  · refine hothers r (fun h => ?_) fun h => ?_
    · obtain ⟨m, hm, rfl⟩ := List.mem_map.1 h
      rcases Children.mem_wanted.1 hm with rfl | ⟨rfl, -⟩
      · exact hr rfl
      · exact hr' rfl
    · unfold Children.dropped at h
      split at h
      · cases h
      · exact hr' (List.mem_singleton.1 h)

/-- A cluster that wants no service. -/
def hiddenCluster : Cluster where
  metadata := { name := some "demo", namespaceName := some "ns", uid := some "u" }
  spec := { image := "a", version := some "2", expose := some false }

/-- The cluster, a service that it controls, and a deployment under its name that nobody controls
and that has no spec. -/
def leftovers : ClusterBench where
  entities := EntityStore.put {} hiddenCluster
  children :=
    ((ChildStore.put {} (.service {
      metadata := {
        name := some "demo", namespaceName := some "ns"
        ownerReferences := some [{ uid := "u", controller := some true }] } })).2.put
      (.deployment { metadata := { name := some "demo", namespaceName := some "ns" } })).2

theorem converges_in_one_pass_over_leftovers :
    ∃ b' : ClusterBench,
      ClusterBench.pass "t" hiddenCluster.key leftovers = (.ok .awaitChange, b') ∧
      (∃ live, b'.children.objects.get? ⟨.deployment, "ns", "demo"⟩ = some live ∧
        live.managedFields = .deployment (some 1) (some (some "a", [(some "http", 8080)])) ∧
        live.version = some "2" ∧ live.metadata.isControlledBy "u" = true) ∧
      (leftovers.children.objects.get? ⟨.service, "ns", "demo"⟩).isSome ∧
      b'.children.objects.get? ⟨.service, "ns", "demo"⟩ = none := by
  have hsilent : leftovers.faults.AreSilent := fun call e he => by cases he
  obtain ⟨b', hpass, hwanted, hservice, -⟩ :=
    @converges_in_one_pass "t" hiddenCluster "u" leftovers hsilent rfl rfl rfl rfl rfl
  refine ⟨b', hpass, ?_, by decide, ?_⟩
  · exact hwanted (.deployment (Children.deployment hiddenCluster)) List.mem_cons_self
  · rw [show (⟨.service, "ns", "demo"⟩ : ChildRef) = Children.refOf hiddenCluster .service from rfl,
      hservice rfl]
    decide

end ClusterOperator

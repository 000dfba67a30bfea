import ClusterOperator.Proofs.Convergence.Completion
import ClusterOperator.Proofs.Pass.Outcome
import ClusterOperator.Proofs.Pass.Published

/-!
# Phases of a cluster

The status of a cluster is written field by field, and tells one of three things all the same: that
the first pass has begun, that the last one succeeded, or that it failed. Its conditions follow its
phase and repeat its message.

* `Condition.announced_of_prefix` : the two conditions that a report leaves;
* `ClusterStatus.Speaks` : the conditions stand in one way and agree with the message;
* `ClusterStatus.IsCoherent` : one of three things is told; `isCoherent_started`,
  `isCoherent_failed`, `isCoherent_ready`, the statuses that passes write;
* `cluster_status_coherent` : every stored status is coherent, and no cluster goes back to its first
  phase.
-/

namespace ClusterOperator

/-! ## Conditions of a report -/

namespace Condition

variable {available degraded : ConditionStatus} {reason message stamp : String}
  {cs ds : List Condition}

theorem exists_update_eq (c : Condition) (status : ConditionStatus)
    (reason message stamp : String) :
    ∃ time, c.update status reason message stamp =
      ⟨c.type, status, some reason, some message, some time⟩ := by
  unfold update
  split <;> exact ⟨_, rfl⟩

/-- A report leaves its two conditions and no others, where there were no others. -/
theorem announced_of_prefix (h : cs.map (·.type) <+: [.available, .degraded])
    (hds : ds = announced available degraded reason message stamp cs) :
    ∃ t u, ds = [⟨.available, available, some reason, some message, some t⟩,
      ⟨.degraded, degraded, some reason, some message, some u⟩] := by
  unfold announced at hds
  subst hds
  match cs with
  | [] => exact ⟨stamp, stamp, rfl⟩
  | [c] =>
    obtain ⟨hc, -⟩ := List.cons_prefix_cons.1 h
    obtain ⟨t, ht⟩ := c.exists_update_eq available reason message stamp
    refine ⟨t, stamp, ?_⟩
    simp [set, updateFirst?, find?, hc, ht, sortByRank, insertByRank, ConditionType.rank]
  | [c, d] =>
    obtain ⟨hc, h⟩ := List.cons_prefix_cons.1 h
    obtain ⟨hd, -⟩ := List.cons_prefix_cons.1 h
    obtain ⟨t, ht⟩ := c.exists_update_eq available reason message stamp
    obtain ⟨u, hu⟩ := d.exists_update_eq degraded reason message stamp
    refine ⟨t, u, ?_⟩
    simp [set, updateFirst?, find?, hc, hd, ht, hu]
  | _ :: _ :: _ :: _ => exact absurd h.length_le (by simp)

end Condition

/-! ## Coherent statuses -/

namespace ClusterStatus

/-- The conditions of a status are of these types and stand so. They repeat its message, give one
reason, and tell since when. -/
structure Speaks (s : ClusterStatus) (stands : List (ConditionType × ConditionStatus)) : Prop where
  conditions : s.conditions.map (fun c => (c.type, c.status)) = stands
  message : ∃ m, s.message = some m ∧ ∀ c ∈ s.conditions, c.message = some m
  reason : ∃ r, ∀ c ∈ s.conditions, c.reason = some r
  stamped : ∀ c ∈ s.conditions, c.lastTransitionTime.isSome

/-- A status tells that the first pass has begun, or that the last one succeeded or failed. -/
inductive IsCoherent (s : ClusterStatus) : Prop where
  | reconciling (hphase : s.phase = some Phase.reconciling.name)
      (h : s.Speaks [(.available, .unknown)])
  | ready (hphase : s.phase = some Phase.ready.name)
      (h : s.Speaks [(.available, .yes), (.degraded, .no)]) (htime : s.lastReconcileTime.isSome)
      (hrefs : s.resourceRefs ≠ [])
  | failed (hphase : s.phase = some Phase.failed.name)
      (h : s.Speaks [(.available, .no), (.degraded, .yes)])

variable {s : ClusterStatus} {reason message stamp : String}

theorem Speaks.types {stands : List (ConditionType × ConditionStatus)} (h : s.Speaks stands) :
    s.conditions.map (·.type) = stands.map (·.1) := by
  rw [← h.conditions, List.map_map]
  rfl

theorem IsCoherent.types (h : s.IsCoherent) :
    s.conditions.map (·.type) <+: [.available, .degraded] := by
  cases h with
  | reconciling _ h | ready _ h | failed _ h =>
    rw [h.types]
    decide

theorem IsCoherent.conditions_ne_nil (h : s.IsCoherent) : s.conditions ≠ [] := by
  have hcons : ∀ {x stands}, s.Speaks (x :: stands) → s.conditions ≠ [] := by
    intro x stands h hnil
    have hconditions := h.conditions
    rw [hnil] at hconditions
    cases hconditions
  cases h with
  | reconciling _ h | ready _ h | failed _ h => exact hcons h

theorem speaks_of_announced {available degraded : ConditionStatus} {cs : List Condition}
    (hcs : cs.map (·.type) <+: [.available, .degraded]) (hmessage : s.message = some message)
    (h : s.conditions = Condition.announced available degraded reason message stamp cs) :
    s.Speaks [(.available, available), (.degraded, degraded)] := by
  obtain ⟨t, u, hconditions⟩ := Condition.announced_of_prefix hcs h
  refine ⟨by rw [hconditions]; rfl, ⟨message, hmessage, ?_⟩, ⟨reason, ?_⟩, ?_⟩ <;>
    simp [hconditions]

theorem isCoherent_started (h : s.conditions = []) (stamp : String) :
    (s.started stamp).IsCoherent := by
  have hconditions : (s.started stamp).conditions =
      [⟨.available, .unknown, some Reason.reconciling, some startMessage, some stamp⟩] := by
    show (Condition.set _ _ _ _ _ s.conditions).1 = _
    rw [h]
    rfl
  refine .reconciling rfl ⟨by rw [hconditions]; rfl, ⟨startMessage, rfl, ?_⟩,
    ⟨Reason.reconciling, ?_⟩, ?_⟩ <;> simp [hconditions]

theorem isCoherent_failed (h : s.conditions.map (·.type) <+: [.available, .degraded])
    (reason message stamp : String) : (s.failed reason message stamp).IsCoherent :=
  .failed rfl (speaks_of_announced h rfl rfl)

theorem isCoherent_ready (h : s.conditions.map (·.type) <+: [.available, .degraded])
    (generation : Option Int64) {present : List ResourceRef} (hpresent : present ≠ [])
    (stamp : String) : (s.ready generation present stamp).IsCoherent :=
  .ready rfl (speaks_of_announced h rfl rfl) rfl hpresent

end ClusterStatus

/-! ## Passes -/

section

open ClusterStatus

theorem Cluster.types_of_coherent {c : Cluster} (h : ∀ s ∈ c.status, s.IsCoherent) :
    c.statusOrEmpty.conditions.map (·.type) <+: [.available, .degraded] := by
  unfold statusOrEmpty
  cases hs : c.status with
  | none => exact List.nil_prefix
  | some s => exact (h s hs).types

theorem Cluster.conditions_statusOrEmpty (c : Cluster) : c.statusOrEmpty.conditions = c.conditions := by
  unfold statusOrEmpty Entity.conditions
  cases c.status <;> rfl

/-- What a pass reports of a cluster is coherent, and no first phase. -/
theorem ClusterReport.isCoherent {calls : List ChildExchange} {c : Cluster} {s : ClusterStatus}
    {result : Except PassError Requeue} (h : ClusterReport calls c s result)
    (hc : ∀ s ∈ c.status, s.IsCoherent) :
    s.IsCoherent ∧ s.phase ≠ some Phase.reconciling.name := by
  have htypes := Cluster.types_of_coherent hc
  have hfailed : some Phase.failed.name ≠ some Phase.reconciling.name := by decide
  have hready : some Phase.ready.name ≠ some Phase.reconciling.name := by decide
  cases h with
  | refused stamp | failed stamp => exact ⟨isCoherent_failed htypes _ _ stamp, hfailed⟩
  | ready stamp _ hcalls =>
    refine ⟨isCoherent_ready htypes _ ?_ stamp, hready⟩
    simpa using refs_ne_nil_of_convergeChildren hcalls

end

open PassWorld in
/-- However the spec of a cluster is edited and whatever fails, the stored status tells one of three
things: that the first pass has begun, that the last one succeeded and which children there are, or
that it failed. The conditions follow the phase and repeat the message. Once a pass has reported, no
status tells again that the first pass has begun. -/
theorem cluster_status_coherent (key : Key) {first : Cluster} (hfirst : first.status = none)
    {w : PassWorld ClusterRequest ClusterRequest.Reply ClusterSpec ClusterStatus}
    (h : Run ClusterExchange.call? (reconcileCluster key) ⟨some first, none⟩ w) :
    ∀ c ∈ w.stored, ∀ s ∈ c.status, s.IsCoherent ∧
      (s.phase ≠ some Phase.reconciling.name →
        ∀ w', Run ClusterExchange.call? (reconcileCluster key) w w' → ∀ c' ∈ w'.stored,
          ∃ s', c'.status = some s' ∧ s'.phase ≠ some Phase.reconciling.name) := by
  have hw : IsSound ClusterExchange.call? (reconcileCluster key) ⟨some first, none⟩ :=
    IsSound.idle (some first)
  have hstatus : ∀ c ∈ w.stored, ∀ s ∈ c.status, s.IsCoherent := by
    refine hw.status_invariant (P := fun o => ∀ s ∈ o, s.IsCoherent) (reconcileCluster_isAccounted key)
      (fun {found} stamp hempty _ s hs => ?_) (fun hreport hcopy s hs => ?_) h fun c hc => ?_
    · cases hs
      exact ClusterStatus.isCoherent_started
        ((Cluster.conditions_statusOrEmpty found).trans hempty) stamp
    · cases hs
      exact (hreport.isCoherent hcopy).1
    · cases hc
      simp [hfirst]
  intro c hc s hs
  refine ⟨hstatus c hc s hs, fun hphase w' h' c' hc' => ?_⟩
  have hlater := (hw.run h).status_invariant
    (P := fun o => ∃ s, o = some s ∧ s.IsCoherent ∧ s.phase ≠ some Phase.reconciling.name)
    (reconcileCluster_isAccounted key)
    (fun {found} _ hempty hold => by
      -- a coherent status has conditions, so no first one is published over it
      obtain ⟨s, hs, hcoherent, -⟩ := hold
      rw [Entity.conditions, hs] at hempty
      exact absurd hempty hcoherent.conditions_ne_nil)
    (fun hreport ⟨s, hs, hcoherent, _⟩ =>
      ⟨_, rfl, hreport.isCoherent fun s' hs' => by cases hs.symm.trans hs'; exact hcoherent⟩)
    h' fun d hd => by
      cases Option.mem_unique hc hd
      exact ⟨s, hs, hstatus c hc s hs, hphase⟩
  obtain ⟨s', hs', -, hphase'⟩ := hlater c' hc'
  exact ⟨s', hs', hphase'⟩

open PassWorld in
/-- A cluster that names no image is refused, and stays failed while an image is named. -/
theorem cluster_status_coherent_of_refused :
    ∃ (w w' : PassWorld ClusterRequest ClusterRequest.Reply ClusterSpec ClusterStatus)
      (c c' : Cluster) (s : ClusterStatus),
      Run ClusterExchange.call? (reconcileCluster vagueCluster.key) ⟨some vagueCluster, none⟩ w ∧
      Run ClusterExchange.call? (reconcileCluster vagueCluster.key) w w' ∧
      w.stored = some c ∧ c.status = some s ∧ s.phase = some "Failed" ∧ s.IsCoherent ∧
      w'.stored = some c' ∧ c'.spec.image = "bss:v1" ∧
      ∃ s', c'.status = some s' ∧ s'.phase ≠ some Phase.reconciling.name := by
  have h₀ : Run ClusterExchange.call? (reconcileCluster vagueCluster.key)
      ⟨some vagueCluster, none⟩ _ := .single (.start _)
  have h₁ := h₀.tail (.exchange (.ok (some vagueCluster)) (by exact .found _ _))
  have h₂ := h₁.tail (.exchange "t" (by exact rfl))
  have h₃ := h₂.tail (.exchange (.ok _) (by exact .stored _ vagueCluster))
  have h₄ := h₃.tail (.exchange (.ok _) (by exact .stored _ _))
  have hedit : ∀ (c : Cluster) running, Run ClusterExchange.call? (reconcileCluster vagueCluster.key)
      ⟨some c, running⟩ ⟨some { c with spec := { image := "bss:v1" } }, running⟩ :=
    fun c running => .single (.edit running rfl)
  obtain ⟨hcoherent, hlater⟩ := cluster_status_coherent vagueCluster.key rfl h₄ _ rfl _ rfl
  exact ⟨_, _, _, _, _, h₄, hedit _ _, rfl, rfl, rfl, hcoherent, rfl, rfl,
    hlater (by decide +kernel) _ (hedit _ _) _ rfl⟩

end ClusterOperator

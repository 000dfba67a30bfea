import ClusterOperator.Pass.Rehearsal

/-!
# Calls that are made to fail

What waits for the calls over a bench is taken from the front, one for each call of its name.

* `Faults.mem_waiting_of_next` : what waits after a call waited before;
* `Faults.AreSilent` : no call is made to fail;
* `Faults.AreHonest` : no delete is made to find nothing where there is something;
* `ClusterBench.faults_answer` : what a call over a bench takes; `ClusterBench.silent_of_run`.
-/

namespace ClusterOperator

namespace Faults

variable {f : Faults} {call : CallName}

theorem mem_waiting_of_next {other : CallName} {e : Option StoreError}
    (h : e ∈ (f.next call).2.waiting other) : e ∈ f.waiting other := by
  unfold next at h
  split at h
  · exact h
  · next first rest hw =>
    rw [waiting, Dict.get?_insert] at h
    split at h
    · next ho =>
      rw [ho, hw]
      exact List.mem_cons_of_mem _ h
    · exact h

theorem mem_waiting_of_fails {e : StoreError} (h : (f.next call).1 = some e) :
    some e ∈ f.waiting call := by
  unfold next at h
  split at h
  · cases h
  · next first rest hw =>
    rw [hw]
    exact List.mem_cons.2 (Or.inl h.symm)

def AreSilent (f : Faults) : Prop :=
  ∀ call, ∀ e ∈ f.waiting call, e = none

theorem AreSilent.next (h : f.AreSilent) (call : CallName) :
    ∃ g : Faults, f.next call = (none, g) ∧ g.AreSilent := by
  have hnone : (f.next call).1 = none := by
    rw [Option.eq_none_iff_forall_not_mem]
    intro e he
    cases h call _ (mem_waiting_of_fails he)
  exact ⟨_, Prod.ext hnone rfl, fun other e he => h other e (mem_waiting_of_next he)⟩

/-- No delete is made to find nothing where there is something. -/
def AreHonest (f : Faults) : Prop :=
  ∀ e, some e ∈ f.waiting .delete → e.isNotFound = false

theorem AreHonest.next (h : f.AreHonest) (call : CallName) : (f.next call).2.AreHonest :=
  fun e he => h e (mem_waiting_of_next he)

end Faults

namespace ClusterBench

variable {b : ClusterBench}

/-- A call takes at most what waits for it from the faults. -/
theorem faults_answer (stamp : String) (q : ClusterRequest) (b : ClusterBench) :
    (answer stamp q b).2.faults = b.faults ∨
      ∃ call, (answer stamp q b).2.faults = (b.faults.next call).2 := by
  cases q with
  | entity q =>
    cases q with
    | clock => exact Or.inl rfl
    | fetch key =>
      refine Or.inr ⟨.getEntity, ?_⟩
      simp only [answer, Bench.entityAnswer]
      split <;> rfl
    | publish c =>
      refine Or.inr ⟨.publish, ?_⟩
      simp only [answer, Bench.entityAnswer]
      split <;> rfl
  | child q =>
    refine Or.inr ⟨q.callName, ?_⟩
    simp only [answer, Bench.childAnswer]
    split <;> rfl

theorem silent_answer (hb : b.faults.AreSilent) (stamp : String) (q : ClusterRequest) :
    (answer stamp q b).2.faults.AreSilent := by
  rcases faults_answer stamp q b with h | ⟨call, h⟩
  · rw [h]
    exact hb
  · obtain ⟨g, hg, hs⟩ := hb.next call
    rw [h, hg]
    exact hs

theorem honest_answer (hb : b.faults.AreHonest) (stamp : String) (q : ClusterRequest) :
    (answer stamp q b).2.faults.AreHonest := by
  rcases faults_answer stamp q b with h | ⟨call, h⟩
  · rw [h]
    exact hb
  · rw [h]
    exact hb.next call

theorem silent_of_run {α : Type} (d : ClusterDialogue α) (hb : b.faults.AreSilent)
    (stamp : String) : (d.run (answer stamp) b).2.faults.AreSilent := by
  induction d generalizing b with
  | finish a => exact hb
  | ask q next ih => exact ih _ (silent_answer hb stamp q)

end ClusterBench

end ClusterOperator

import ClusterOperator.Proofs.Queue.PoolRun

/-!
# One pass over a key at a time

* `PoolRun.IsSound` : the invariants of the queue and of its workers, which hold in every run;
* `PoolRun.IsSound.worker_unique` : two workers never hold one key;
* `keys_serialized` : in every run of a queue a key stands in one place, and in every run of a pool
  the passes in flight are over different keys, and no more than there are workers.
-/

namespace ClusterOperator

namespace PoolRun

variable {κ : Type}

structure IsSound (p : PoolRun κ) (size : Nat) : Prop where
  serial : p.standing.IsSerial
  staffed : p.IsStaffed
  length : p.workers.length = max size 1

theorem IsSound.start (policy : BackoffPolicy) (size : Nat) :
    (start policy size : PoolRun κ).IsSound size where
  serial := Standing.IsSerial.start policy
  staffed := .start policy size
  length := by simp [PoolRun.start, Pool.ofSize]

theorem IsSound.worker_unique {p : PoolRun κ} {size : Nat} (hp : p.IsSound size) {v w : Nat}
    {x y : Worker κ} {k : κ} (hv : p.workers[v]? = some x) (hw : p.workers[w]? = some y)
    (hx : x.key? = some k) (hy : y.key? = some k) : v = w :=
  congrArg Prod.fst (List.inj_on_of_nodup_map hp.serial.held_nodup
    (hp.staffed v x k hv hx) (hp.staffed w y k hw hy) rfl)

theorem IsSound.nodup_busyKeys {p : PoolRun κ} {size : Nat} (hp : p.IsSound size) :
    p.pool.busyKeys.Nodup := by
  rw [Pool.busyKeys, List.Nodup, List.pairwise_filterMap, List.pairwise_iff_getElem]
  intro i j hi hj hij k hk l hl e
  subst e
  have hij' := hp.worker_unique (List.getElem?_eq_getElem hi) (List.getElem?_eq_getElem hj) hk hl
  omega

/-! ## Steps -/

variable [DecidableEq κ]

theorem Step.isSerial {p q : PoolRun κ} {e : PoolEvent κ} (h : Step p e q) (hf : p.IsStaffed)
    (hp : p.standing.IsSerial) : q.standing.IsSerial := by
  obtain ⟨es, hes, -⟩ := h.exists_after? hf
  exact QueueRun.isSerial_of_after? hes hp

theorem Step.length_workers {p q : PoolRun κ} {e : PoolEvent κ} (h : Step p e q) :
    q.workers.length = p.workers.length := by
  cases h <;> simp

theorem Step.isSound {p q : PoolRun κ} {e : PoolEvent κ} {size : Nat} (h : Step p e q)
    (hp : p.IsSound size) : q.IsSound size :=
  ⟨h.isSerial hp.staffed hp.serial, h.isStaffed hp.staffed, h.length_workers.trans hp.length⟩

theorem isSound_of_after? {p q : PoolRun κ} {es : List (PoolEvent κ)} {size : Nat}
    (h : p.after? es = some q) (hp : p.IsSound size) : q.IsSound size :=
  invariant_of_foldlM (fun _ _ _ h => (occur?_step h).isSound) h hp

end PoolRun

theorem Pool.inFlight_sublist_busyKeys {κ : Type} [DecidableEq κ] (p : Pool κ) :
    p.inFlight.Sublist p.busyKeys := by
  unfold Pool.inFlight Pool.busyKeys
  induction p.workers with
  | nil => exact .slnil
  | cons x rest ih =>
    cases x with
    | working k => exact ih.cons_cons k
    | returned k | accounted k | scheduled k => exact ih.cons k
    | asking | stopped | crashed => exact ih

/-! ## Every run -/

section

variable {κ : Type} [DecidableEq κ]

/-- In every run of a queue, a key stands in the queue once, is not queued and processed at one
time, and before the shutdown is dirty exactly if it is queued or will be when its pass is done.
In every run of a pool the passes in flight are over different keys, one for each worker at
most. -/
theorem keys_serialized (policy : BackoffPolicy) :
    (∀ es (s : QueueRun κ), (QueueRun.start policy).after? es = some s →
      s.queue.queue.Nodup ∧ (∀ k ∈ s.queue.queue, k ∉ s.queue.processing) ∧
        (s.queue.isShutDown = false → (∀ k ∈ s.queue.queue, k ∈ s.queue.dirty) ∧
          ∀ k ∈ s.queue.dirty, k ∈ s.queue.queue ∨ k ∈ s.queue.processing)) ∧
    ∀ size es (p : PoolRun κ), (PoolRun.start policy size).after? es = some p →
      p.pool.inFlight.Nodup ∧ p.pool.inFlight.length ≤ max size 1 := by
  refine ⟨fun es s h => ?_, fun size es p h => ?_⟩
  · have hs := QueueRun.isSerial_of_after? h (.start policy)
    exact ⟨hs.queued_nodup, hs.not_processing,
      fun hns => ⟨hs.dirty_of_queued hns, hs.placed_of_dirty hns⟩⟩
  · have hp := PoolRun.isSound_of_after? h (.start policy size)
    refine ⟨hp.nodup_busyKeys.sublist p.pool.inFlight_sublist_busyKeys, ?_⟩
    rw [← hp.length]
    exact List.length_filterMap_le _ _

/-- A key is added again during its pass, and two workers are busy. -/
theorem keys_serialized_busy :
    (∃ s : QueueRun Nat,
      (QueueRun.start {}).after? [.add 1, .next 0 (.key 1), .add 1, .add 2] = some s ∧
        s.queue.queue = [2] ∧ s.queue.processing = [1] ∧ s.queue.dirty = [1, 2] ∧
        s.queue.queue.Nodup ∧ ∀ k ∈ s.queue.dirty, k ∈ s.queue.queue ∨ k ∈ s.queue.processing) ∧
    ∃ p : PoolRun Nat,
      (PoolRun.start {} 2).after? [.outside (.add 1), .outside (.add 2), .ask 0, .outside (.add 1),
          .ask 1] = some p ∧
        p.pool.inFlight = [1, 2] ∧ p.pool.inFlight.Nodup ∧ p.pool.inFlight.length ≤ max 2 1 := by
  obtain ⟨s, hs, hq, hp, hd⟩ : ∃ s : QueueRun Nat,
      (QueueRun.start {}).after? [.add 1, .next 0 (.key 1), .add 1, .add 2] = some s ∧
        s.queue.queue = [2] ∧ s.queue.processing = [1] ∧ s.queue.dirty = [1, 2] :=
    ⟨_, rfl, rfl, rfl, rfl⟩
  obtain ⟨p, hr, hf⟩ : ∃ p : PoolRun Nat,
      (PoolRun.start {} 2).after? [.outside (.add 1), .outside (.add 2), .ask 0, .outside (.add 1),
          .ask 1] = some p ∧ p.pool.inFlight = [1, 2] := ⟨_, rfl, rfl⟩
  have h := (keys_serialized {}).1 _ s hs
  have hns : s.queue.isShutDown = false := by cases hs; rfl
  exact ⟨⟨s, hs, hq, hp, hd, h.1, (h.2.2 hns).2⟩, p, hr, hf, (keys_serialized {}).2 2 _ p hr⟩

end

end ClusterOperator

import ClusterOperator.Proofs.Queue.Deadlines
import ClusterOperator.Proofs.Queue.Serialization

/-!
# What the end of a pass leaves

A worker whose pass over a key has ended counts the failure or forgets the failures of the key, adds
the key again if the pass asks for it, and is done with it. Meanwhile the key is processed, so an
add only marks it, and it is queued when the worker is done.

* `WorkQueue.Asks` : the end of a pass asks for another pass after a delay;
  `WorkQueue.askedDelay?_account`, it is what the worker computes;
* `WorkQueue.queue_done`, `WorkQueue.conclude_eq` : which parts of a queue the worker changes;
* `Concluded` : where the key stands afterwards, and that nothing else has changed;
  `QueueRun.concluded`, it is so in every run.
-/

namespace ClusterOperator

variable {κ : Type} [DecidableEq κ]

namespace WorkQueue

/-- The end of a pass over a key asks for another one after a delay. Its own failure counts. -/
inductive Asks (q : WorkQueue κ) (k : κ) : Except Retry Requeue → Duration → Prop where
  | immediate : Asks q k (.ok .immediate) Duration.zero
  | requeue (delay : Duration) : Asks q k (.ok (.after delay)) delay
  | retry (delay : Duration) : Asks q k (.error (.after delay)) delay
  | backoff : Asks q k (.error .backoff)
      (q.policy.delayFor (min (q.failures.count k + 1) Failures.maxCount))

/-! ## The parts of a queue -/

theorem account_eq (q : WorkQueue κ) (k : κ) (outcome : Except Retry Requeue) :
    ∃ failures, q.account k outcome = { q with failures } ∧
      ∀ l ≠ k, failures.count l = q.failures.count l := by
  rcases outcome with (_ | _ | _) | _
  · exact ⟨_, rfl, fun l hl => by rw [Failures.count_forget, if_neg hl]⟩
  · exact ⟨_, rfl, fun _ _ => rfl⟩
  · exact ⟨_, rfl, fun l hl => by rw [Failures.count_record, if_neg hl]⟩
  · exact ⟨_, rfl, fun l hl => by rw [Failures.count_forget, if_neg hl]⟩

theorem askedDelay?_account {q : WorkQueue κ} {k : κ} {outcome : Except Retry Requeue}
    {delay : Duration} :
    (q.account k outcome).askedDelay? k outcome = some delay ↔ q.Asks k outcome delay := by
  have hb : (q.recordFailure k).retryDelay k =
      q.policy.delayFor (min (q.failures.count k + 1) Failures.maxCount) := by
    simp [retryDelay, recordFailure, Failures.count_record]
  constructor
  · intro h
    rcases outcome with (_ | _ | _) | (_ | _ | _) <;> cases h
    · exact .retry _
    · exact hb ▸ .backoff
    · exact .immediate
    · exact .requeue _
  · rintro (_ | d | d | _)
    · rfl
    · rfl
    · rfl
    · exact congrArg some hb

theorem queue_done (q : WorkQueue κ) (k : κ) :
    (q.done k).queue = if k ∈ q.dirty ∧ q.isShutDown = false then q.queue ++ [k] else q.queue := by
  unfold done
  simp only [Bool.not_eq_true]
  split <;> rfl

theorem add_of_mem_processing {q : WorkQueue κ} {k : κ} (hk : k ∈ q.processing) :
    ∃ dirty, q.add k = { q with dirty } ∧ (q.isShutDown = false → k ∈ dirty) := by
  unfold add
  split
  · next h => exact ⟨q.dirty, rfl, fun hs => h.resolve_left (by simp [hs])⟩
  · exact ⟨_, rfl, fun _ => List.mem_append_right _ (List.mem_singleton_self k)⟩

/-- A delayed add of a key that is being processed marks it when there is no delay, and is about
deadlines otherwise. -/
theorem addAfter_of_mem_processing {q : WorkQueue κ} {k : κ} (hk : k ∈ q.processing) (now : Nat)
    (delay : Duration) :
    ∃ dirty scheduled alarms, q.addAfter now k delay = { q with dirty, scheduled, alarms } ∧
      (q.isShutDown = false → (k ∈ dirty ↔ k ∈ q.dirty ∨ delay.nanos = 0)) ∧
      (q.isShutDown = true → scheduled = q.scheduled) := by
  have hadded := q.addedAfter_addAfter now k delay
  generalize q.addAfter now k delay = r at hadded ⊢
  cases hadded with
  | atOnce hd =>
    obtain ⟨dirty, h, hm⟩ := add_of_mem_processing hk
    exact ⟨dirty, _, _, h, fun hs => iff_of_true (hm hs) (Or.inr hd), fun _ => rfl⟩
  | kept hd => exact ⟨_, _, _, rfl, fun _ => by simp [hd], fun _ => rfl⟩
  | set hd _ hs =>
    refine ⟨_, _, _, rfl, fun _ => by simp [hd], fun hshut => ?_⟩
    rw [hs] at hshut
    cases hshut

/-- What the end of a pass asks for changes the failures, the marks and the deadlines. -/
theorem conclude_eq {q : WorkQueue κ} {k : κ} (hk : k ∈ q.processing) (now : Nat)
    (outcome : Except Retry Requeue) :
    ∃ dirty scheduled failures alarms,
      q.conclude now k outcome = { q with dirty, scheduled, failures, alarms } ∧
      (∀ l ≠ k, failures.count l = q.failures.count l) ∧
      (q.isShutDown = false →
        (k ∈ dirty ↔ k ∈ q.dirty ∨ ∃ delay, q.Asks k outcome delay ∧ delay.nanos = 0)) ∧
      (q.isShutDown = true → scheduled = q.scheduled) := by
  obtain ⟨failures, ha, hf⟩ := q.account_eq k outcome
  unfold conclude
  dsimp only
  cases hd : (q.account k outcome).askedDelay? k outcome with
  | none =>
    refine ⟨_, _, failures, _, ha, hf, fun _ => ?_, fun _ => rfl⟩
    have hno : ¬ ∃ delay, q.Asks k outcome delay ∧ delay.nanos = 0 := by
      rintro ⟨delay, h, -⟩
      rw [askedDelay?_account.2 h] at hd
      cases hd
    simp [hno]
  | some delay =>
    have hk' : k ∈ (q.account k outcome).processing := by rw [ha]; exact hk
    obtain ⟨dirty, scheduled, alarms, h, hm, hs⟩ := addAfter_of_mem_processing hk' now delay
    dsimp only
    rw [h, ha]
    rw [ha] at hm hs
    refine ⟨dirty, scheduled, failures, alarms, rfl, hf, fun hns => (hm hns).trans ?_, hs⟩
    refine or_congr_right ⟨fun h0 => ⟨delay, askedDelay?_account.1 hd, h0⟩, ?_⟩
    rintro ⟨d, h, h0⟩
    cases (askedDelay?_account.2 h).symm.trans hd
    exact h0

/-- The end of a pass puts a key off to the earlier of its deadline before and the one it asks
for. -/
theorem get?_scheduled_conclude {q : WorkQueue κ} {k : κ} {outcome : Except Retry Requeue}
    {delay : Duration} (hs : q.isShutDown = false) {now : Nat} (h : q.Asks k outcome delay)
    (hd : delay.HasDeadline now) :
    (q.conclude now k outcome).scheduled.get? k =
      some ((q.scheduled.get? k).elim (now + delay.nanos) (min (now + delay.nanos))) := by
  obtain ⟨failures, ha, -⟩ := q.account_eq k outcome
  have hs' : (q.account k outcome).isShutDown = false := by rw [ha]; exact hs
  have hq : (q.account k outcome).scheduled = q.scheduled := by rw [ha]
  unfold conclude
  dsimp only
  rw [askedDelay?_account.2 h, ← hq]
  exact get?_scheduled_addAfter_self hs' now k hd

theorem get?_scheduled_conclude_of_ne (q : WorkQueue κ) (now : Nat) {k l : κ} (hl : l ≠ k)
    (outcome : Except Retry Requeue) :
    (q.conclude now k outcome).scheduled.get? l = q.scheduled.get? l := by
  obtain ⟨failures, ha, -⟩ := q.account_eq k outcome
  have hq : (q.account k outcome).scheduled = q.scheduled := by rw [ha]
  unfold conclude
  dsimp only
  rw [← hq]
  split
  · rfl
  · exact get?_scheduled_addAfter_of_ne now fun h => hl h.1.symm

end WorkQueue

/-! ## After the pass -/

/-- A queue `r` is what a queue `q` has become when a worker has handled the outcome of its pass
over a key and is done with the key. -/
structure Concluded (q : WorkQueue κ) (now : Nat) (k : κ) (outcome : Except Retry Requeue)
    (r : WorkQueue κ) : Prop where
  released : k ∉ r.processing
  once : r.queue.count k ≤ 1
  queued : q.isShutDown = false →
    (k ∈ r.queue ↔ k ∈ q.dirty ∨ ∃ delay, q.Asks k outcome delay ∧ delay.nanos = 0)
  delayed : q.isShutDown = false → ∀ delay, q.Asks k outcome delay → delay.nanos ≠ 0 →
    r.scheduled.get? k =
      some ((q.scheduled.get? k).elim (now + delay.nanos) (min (now + delay.nanos)))
  /-- A queue that is shut down takes no key any more. -/
  refused : q.isShutDown = true → k ∉ r.queue ∧ r.scheduled.get? k = q.scheduled.get? k
  queue_others : ∀ l ≠ k, (l ∈ r.queue ↔ l ∈ q.queue)
  processing_others : ∀ l ≠ k, (l ∈ r.processing ↔ l ∈ q.processing)
  scheduled_others : ∀ l ≠ k, r.scheduled.get? l = q.scheduled.get? l
  failures_others : ∀ l ≠ k, r.failures.count l = q.failures.count l

omit [DecidableEq κ] in
theorem Standing.IsSerial.not_queued {s : Standing κ} (hs : s.IsSerial) {k : κ}
    (hk : k ∈ s.processing) : k ∉ s.queued :=
  fun hq => hs.not_processing k hq hk

theorem QueueRun.concluded {s : QueueRun κ} (hs : s.standing.IsSerial) {k : κ}
    (hk : k ∈ s.queue.processing) {outcome : Except Retry Requeue}
    (hfits : ∀ delay, s.queue.Asks k outcome delay → s.now + delay.nanos < clockEnd) :
    Concluded s.queue s.now k outcome ((s.queue.conclude s.now k outcome).done k) := by
  have hnq : k ∉ s.queue.queue := hs.not_queued hk
  obtain ⟨dirty, scheduled, failures, alarms, hc, hf, hm, hsh⟩ :=
    WorkQueue.conclude_eq hk s.now outcome
  have hq := (s.queue.conclude s.now k outcome).queue_done k
  obtain ⟨queue, room, hd⟩ := (s.queue.conclude s.now k outcome).done_eq k
  have hsched := (s.queue.conclude s.now k outcome).scheduled_done k
  have hother : ∀ l ≠ k, (l ∈ ((s.queue.conclude s.now k outcome).done k).queue ↔
      l ∈ s.queue.queue) := by
    intro l hl
    rw [hq, hc]
    split <;> simp [hl]
  refine ⟨WorkQueue.not_mem_processing_done _ k, ?_, fun hns => ?_, fun hns delay ha h0 => ?_,
    fun hshut => ?_, hother, fun l hl => ?_, fun l hl => ?_, fun l hl => ?_⟩
  · rw [hq, hc]
    have h0 : s.queue.queue.count k = 0 := List.count_eq_zero.2 hnq
    split <;> simp [h0]
  · rw [hq, hc, ← hm hns]
    dsimp only
    split
    · next h => simp [h.1]
    · next h => simpa [hnq, hns] using h
  · rw [hsched]
    exact WorkQueue.get?_scheduled_conclude hns ha ⟨h0, hfits delay ha⟩
  · rw [hq, hsched, hc]
    dsimp only
    rw [if_neg (by simp [hshut]), hsh hshut]
    exact ⟨hnq, rfl⟩
  · rw [hd, hc]
    simp [hl]
  · rw [hsched, WorkQueue.get?_scheduled_conclude_of_ne _ _ hl]
  · rw [hd, hc]
    exact hf l hl

end ClusterOperator

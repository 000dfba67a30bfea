import ClusterOperator.Proofs.Queue.Conclusion
import Mathlib.Data.List.DropRight

/-!
# Failures in a row

The failures of a key are counted until a pass over it succeeds or waits for a change, and each is
retried after a longer delay than the one before.

* `BackoffPolicy.nanos_delayFor`, `BackoffPolicy.delayFor_mono` : the delays double up to the
  longest;
* `Attempt` : how a pass over a key ended, and the delay after which it asked for another;
  `PoolRun.attempts`, those of a key in a run;
* `Attempt.Tallied` : attempts count on from a number of failures; `PoolRun.tallied_of_after?`, so
  they do in every run;
* `Attempt.BacksOff` : the delays of attempts with no reset among them;
* `outcomes_handled` : what a worker leaves when its pass has ended, and how often and after which
  delays a key has failed.
-/

namespace ClusterOperator

/-! ## Delays -/

namespace BackoffPolicy

theorem nanos_delayFor (p : BackoffPolicy) (n : Nat) :
    (p.delayFor n).nanos =
      min (p.base.nanos * Nat.pow 2 (min (n - 1) maxDoublings)) p.longest.nanos := by
  have hl := p.longest.le_max
  unfold delayFor
  generalize Nat.pow 2 (min (n - 1) maxDoublings) = factor
  by_cases h : p.base.nanos * factor ≤ maxNanos
  · have hproduct : p.base.times? factor = some ⟨_, h⟩ := dif_pos h
    rw [hproduct]
    exact Duration.nanos_min _ _
  · have hproduct : p.base.times? factor = none := dif_neg h
    rw [hproduct]
    dsimp only
    omega

theorem delayFor_mono (p : BackoffPolicy) {m n : Nat} (h : m ≤ n) :
    p.delayFor m ≤ p.delayFor n := by
  have hpow : Nat.pow 2 (min (m - 1) maxDoublings) ≤ Nat.pow 2 (min (n - 1) maxDoublings) :=
    Nat.pow_le_pow_right (by decide) (by omega)
  have hmul := Nat.mul_le_mul_left p.base.nanos hpow
  rw [Duration.le_def, nanos_delayFor, nanos_delayFor]
  omega

theorem delayFor_le_longest (p : BackoffPolicy) (n : Nat) : p.delayFor n ≤ p.longest := by
  rw [Duration.le_def, nanos_delayFor]
  exact Nat.min_le_right _ _

theorem delayFor_one (p : BackoffPolicy) : p.delayFor 1 = min p.base p.longest := by
  apply Duration.ext
  rw [nanos_delayFor, Duration.nanos_min]
  simp

/-- No delay grows after the last failure that is counted. -/
theorem delayFor_min_maxCount (p : BackoffPolicy) (n : Nat) :
    p.delayFor (min n Failures.maxCount) = p.delayFor n := by
  apply Duration.ext
  have h : min (min n Failures.maxCount - 1) maxDoublings = min (n - 1) maxDoublings := by
    simp only [Failures.maxCount, maxDoublings]
    omega
  rw [nanos_delayFor, nanos_delayFor, h]

end BackoffPolicy

/-! ## Attempts -/

/-- How a pass over a key ended, and the delay after which it asked for another, if it did. -/
structure Attempt where
  outcome : Except Retry Requeue
  delay : Option Duration

namespace Attempt

/-- The failures of a key are forgotten. -/
def isReset (a : Attempt) : Bool :=
  match a.outcome with
  | .ok _ | .error .awaitChange => true
  | _ => false

def isFailure (a : Attempt) : Bool :=
  match a.outcome with
  | .error .backoff => true
  | _ => false

def backoffDelay? (a : Attempt) : Option Duration :=
  if a.isFailure then a.delay else none

/-- The attempts since the last one that made the failures forgotten. -/
def sinceReset (as : List Attempt) : List Attempt :=
  as.rtakeWhile (! ·.isReset)

def tally (n : Nat) (a : Attempt) : Nat :=
  if a.isReset then 0
  else if a.isFailure then min (n + 1) Failures.maxCount
  else n

/-- Attempts make `m` failures of `n`, and each failure backs off by their number. -/
def Tallied (policy : BackoffPolicy) (n : Nat) : List Attempt → Nat → Prop
  | [], m => m = n
  | a :: as, m =>
    (a.isFailure = true → a.delay = some (policy.delayFor (a.tally n))) ∧
      Tallied policy (a.tally n) as m

/-- The delays of failures in a row: the first one, and then ever longer ones, up to the longest. -/
structure BacksOff (policy : BackoffPolicy) (as : List Attempt) : Prop where
  /-- Every failure has its delay. -/
  length : (as.filterMap backoffDelay?).length = as.countP isFailure
  first : ∀ d ∈ (as.filterMap backoffDelay?).head?, d = min policy.base policy.longest
  grows : (as.filterMap backoffDelay?).Pairwise (· ≤ ·)
  le_longest : ∀ d ∈ as.filterMap backoffDelay?, d ≤ policy.longest

variable {policy : BackoffPolicy} {n m : Nat} {as bs : List Attempt}

theorem tallied_append :
    Tallied policy n (as ++ bs) m ↔ ∃ c, Tallied policy n as c ∧ Tallied policy c bs m := by
  induction as generalizing n with
  | nil => simp [Tallied]
  | cons a as ih => simp [Tallied, ih, and_assoc]

theorem Tallied.eq_zero (h : Tallied policy 0 as m) (hr : ∀ a ∈ as.getLast?, a.isReset = true) :
    m = 0 := by
  rcases List.eq_nil_or_concat' as with rfl | ⟨as, a, rfl⟩
  · exact h
  · obtain ⟨c, -, -, hm⟩ := tallied_append.1 h
    have ha : a.isReset = true := hr a (by simp)
    rw [Tallied] at hm
    rw [hm, tally, if_pos ha]

/-- Without a reset, the failures are added up, and the `i`-th in a row is backed off as such. -/
theorem Tallied.of_not_reset {i : Nat} (h : Tallied policy (min i Failures.maxCount) as m)
    (hr : ∀ a ∈ as, a.isReset = false) :
    m = min (i + as.countP isFailure) Failures.maxCount ∧
      as.filterMap backoffDelay? =
        (List.range' (i + 1) (as.countP isFailure)).map policy.delayFor := by
  induction as generalizing i with
  | nil => exact ⟨h, rfl⟩
  | cons a as ih =>
    obtain ⟨hd, h⟩ := h
    have ha : a.isReset = false := hr a List.mem_cons_self
    have hr' : ∀ b ∈ as, b.isReset = false := fun b hb => hr b (List.mem_cons_of_mem a hb)
    cases hf : a.isFailure with
    | false =>
      have ht : a.tally (min i Failures.maxCount) = min i Failures.maxCount := by
        simp [tally, ha, hf]
      have hnone : a.backoffDelay? = none := by simp [backoffDelay?, hf]
      rw [ht] at h
      simpa [hf, hnone] using ih h hr'
    | true =>
      have ht : a.tally (min i Failures.maxCount) = min (i + 1) Failures.maxCount := by
        simp only [tally, ha, hf, Bool.false_eq_true, if_false, if_true]
        omega
      have hdelay : a.backoffDelay? = some (policy.delayFor (i + 1)) := by
        rw [backoffDelay?, if_pos hf, hd hf, ht, BackoffPolicy.delayFor_min_maxCount]
      rw [ht] at h
      obtain ⟨hm, hds⟩ := ih h hr'
      rw [List.countP_cons_of_pos hf, List.filterMap_cons_some hdelay, hds, List.range'_succ]
      exact ⟨by omega, rfl⟩

theorem Tallied.eq_min_countP (h : Tallied policy 0 as m) :
    m = min ((sinceReset as).countP isFailure) Failures.maxCount := by
  have hsplit : as.rdropWhile (! ·.isReset) ++ sinceReset as = as :=
    List.rdropWhile_append_rtakeWhile
  rw [← hsplit, tallied_append] at h
  obtain ⟨c, hc, h⟩ := h
  have hc0 : c = min 0 Failures.maxCount := by
    rw [Nat.zero_min]
    refine hc.eq_zero fun a ha => ?_
    obtain ⟨hne, rfl⟩ := List.mem_getLast?_eq_getLast ha
    simpa using List.rdropWhile_last_not _ _ hne
  subst hc0
  have hm := (h.of_not_reset fun a ha => by simpa using List.mem_rtakeWhile_imp ha).1
  rwa [Nat.zero_add] at hm

/-- Failures with no reset among them, since a reset or the start, back off. -/
theorem Tallied.backsOff {before since rest : List Attempt}
    (h : Tallied policy 0 (before ++ since ++ rest) m)
    (hb : ∀ a ∈ before.getLast?, a.isReset = true) (hr : ∀ a ∈ since, a.isReset = false) :
    BacksOff policy since := by
  obtain ⟨m, h, -⟩ := tallied_append.1 h
  obtain ⟨c, hc, h⟩ := tallied_append.1 h
  have hc0 : c = min 0 Failures.maxCount := (hc.eq_zero hb).trans (Nat.zero_min _).symm
  subst hc0
  have hds := (h.of_not_reset hr).2
  refine ⟨?_, fun d hd => ?_, ?_, fun d hd => ?_⟩
  · rw [hds, List.length_map, List.length_range']
  · rw [hds, List.head?_map] at hd
    obtain ⟨i, hi, rfl⟩ := Option.map_eq_some_iff.1 hd
    cases hn : since.countP isFailure with
    | zero => rw [hn] at hi; cases hi
    | succ c =>
      rw [hn, List.range'_succ] at hi
      cases hi
      exact policy.delayFor_one
  · rw [hds, List.pairwise_map]
    exact (List.pairwise_lt_range' 1).imp fun h => policy.delayFor_mono (Nat.le_of_lt h)
  · rw [hds] at hd
    obtain ⟨i, -, rfl⟩ := List.mem_map.1 hd
    exact policy.delayFor_le_longest i

end Attempt

/-! ## The attempts of a run -/

/-- The key whose failures an event counts or forgets. -/
def QueueEvent.counted? {κ : Type} : QueueEvent κ → Option κ
  | .countFailure k | .forget k => some k
  | _ => none

variable {κ : Type} [DecidableEq κ]

namespace WorkQueue

theorem failures_add (q : WorkQueue κ) (k : κ) :
    (q.add k).policy = q.policy ∧ (q.add k).failures = q.failures := by
  obtain ⟨_, _, _, h⟩ := q.add_eq k
  rw [h]
  exact ⟨rfl, rfl⟩

theorem failures_addAfter (q : WorkQueue κ) (now : Nat) (k : κ) (delay : Duration) :
    (q.addAfter now k delay).policy = q.policy ∧
      (q.addAfter now k delay).failures = q.failures := by
  have hadded := q.addedAfter_addAfter now k delay
  generalize q.addAfter now k delay = r at hadded ⊢
  cases hadded with
  | atOnce => exact q.failures_add k
  | kept | set => exact ⟨rfl, rfl⟩

theorem count_failures_account (q : WorkQueue κ) (k : κ) (outcome : Except Retry Requeue)
    (delay : Option Duration) :
    (q.account k outcome).failures.count k =
      Attempt.tally (q.failures.count k) ⟨outcome, delay⟩ := by
  rcases outcome with (_ | _ | _) | _
  · exact (Failures.count_forget _ k k).trans (if_pos rfl)
  · rfl
  · exact (Failures.count_record _ k k).trans (if_pos rfl)
  · exact (Failures.count_forget _ k k).trans (if_pos rfl)

end WorkQueue

/-- The failures of a key change in the events that count or forget them. -/
theorem QueueRun.failures_of_occur? {s t : QueueRun κ} {e : QueueEvent κ} {k : κ}
    (h : s.occur? e = some t) (he : e.counted? ≠ some k) :
    t.queue.policy = s.queue.policy ∧ t.queue.failures.count k = s.queue.failures.count k := by
  cases e with
  | add l =>
    cases h
    exact (s.queue.failures_add l).imp_right fun h => by rw [h]
  | addAfter l delay =>
    cases h
    exact (s.queue.failures_addAfter s.now l delay).imp_right fun h => by rw [h]
  | countFailure l =>
    cases h
    have hne : k ≠ l := fun e => he (congrArg some e.symm)
    exact ⟨rfl, (Failures.count_record _ l k).trans (if_neg hne)⟩
  | forget l =>
    cases h
    have hne : k ≠ l := fun e => he (congrArg some e.symm)
    exact ⟨rfl, (Failures.count_forget _ l k).trans (if_neg hne)⟩
  | expire a =>
    simp only [occur?, WorkQueue.expire] at h
    split at h
    · split at h <;> cases h <;> exact ⟨rfl, rfl⟩
    · cases h
  | ring l =>
    simp only [occur?] at h
    split at h
    · cases h
      exact (s.queue.failures_add l).imp_right fun h => by rw [h]
    · cases h
  | next task got =>
    obtain ⟨_, _, _, _, hp⟩ := s.queue.poll_eq task
    simp only [occur?] at h
    split at h
    · split at h <;> cases h <;> dsimp only <;> rw [hp] <;> exact ⟨rfl, rfl⟩
    · cases h
  | done task l =>
    obtain ⟨_, _, hd⟩ := s.queue.done_eq l
    simp only [occur?] at h
    split at h
    · cases h
      dsimp only
      rw [hd]
      exact ⟨rfl, rfl⟩
    · cases h
  | tick | abandon | shutDown => cases h; exact ⟨rfl, rfl⟩

theorem QueueRun.failures_of_after? {s t : QueueRun κ} {es : List (QueueEvent κ)} {k : κ}
    (h : s.after? es = some t) (hes : ∀ e ∈ es, e.counted? ≠ some k) :
    t.queue.policy = s.queue.policy ∧ t.queue.failures.count k = s.queue.failures.count k := by
  induction es generalizing s with
  | nil => cases h; exact ⟨rfl, rfl⟩
  | cons e es ih =>
    obtain ⟨u, hu, h⟩ := after?_cons.1 h
    have h₁ := failures_of_occur? hu (hes e List.mem_cons_self)
    have h₂ := ih h fun f hf => hes f (List.mem_cons_of_mem e hf)
    exact ⟨h₂.1.trans h₁.1, h₂.2.trans h₁.2⟩

namespace PoolRun

/-- The attempt that a worker accounts for in an event. -/
def attempt? (k : κ) (p : PoolRun κ) : PoolEvent κ → Option Attempt
  | .account w =>
    match p.workers[w]? with
    | some (.returned l outcome) =>
      if l = k then some ⟨outcome, (p.queue.account k outcome).askedDelay? k outcome⟩ else none
    | _ => none
  | _ => none

def attempts (k : κ) (p : PoolRun κ) : List (PoolEvent κ) → List Attempt
  | [] => []
  | e :: es =>
    match p.occur? e with
    | none => []
    | some q => (p.attempt? k e).toList ++ q.attempts k es

variable {p q : PoolRun κ} {e : PoolEvent κ} {es : List (PoolEvent κ)} {k : κ}

theorem tallied_account {w : Nat} {l : κ} {outcome : Except Retry Requeue}
    (h : p.occur? (.account w) = some q) (hw : p.workers[w]? = some (.returned l outcome)) :
    q.queue.policy = p.queue.policy ∧
      Attempt.Tallied p.queue.policy (p.queue.failures.count k)
        (p.attempt? k (.account w)).toList (q.queue.failures.count k) := by
  rw [occur?_account hw] at h
  cases h
  obtain ⟨failures, ha, hf⟩ := p.queue.account_eq l outcome
  refine ⟨by rw [ha], ?_⟩
  simp only [attempt?, hw]
  split
  · next hl =>
    subst hl
    refine ⟨fun hfail => ?_, p.queue.count_failures_account l outcome _⟩
    have hb : outcome = .error .backoff := by
      rcases outcome with (_ | _ | _) | _ <;> first | rfl | cases hfail
    subst hb
    exact WorkQueue.askedDelay?_account.2 .backoff
  · next hl =>
    show (p.queue.account l outcome).failures.count k = _
    rw [ha]
    exact hf k (Ne.symm hl)

theorem tallied_of_occur? (h : p.occur? e = some q)
    (he : ∀ f, e = .outside f → f.counted? ≠ some k) :
    q.queue.policy = p.queue.policy ∧
      Attempt.Tallied p.queue.policy (p.queue.failures.count k) (p.attempt? k e).toList
        (q.queue.failures.count k) := by
  cases occur?_step h with
  | outside ht hq => exact QueueRun.failures_of_occur? hq (he _ rfl)
  | got hw hq | waits hw hq | stops hw hq => exact QueueRun.failures_of_occur? hq nofun
  | returns | crashes | overruns => exact ⟨rfl, rfl⟩
  | accounts hw => exact tallied_account h hw
  | schedules hw hes hq =>
    refine QueueRun.failures_of_after? hq fun f hf => ?_
    obtain ⟨d, -, rfl⟩ := hes f hf
    exact nofun
  | @releases w l hw =>
    obtain ⟨_, _, hd⟩ := p.queue.done_eq l
    dsimp only
    rw [hd]
    exact ⟨rfl, rfl⟩

/-- In every run the attempts of a key count on, if nobody but the workers counts or forgets. -/
theorem tallied_of_after? (h : p.after? es = some q)
    (hes : ∀ f, .outside f ∈ es → f.counted? ≠ some k) :
    Attempt.Tallied p.queue.policy (p.queue.failures.count k) (p.attempts k es)
      (q.queue.failures.count k) := by
  induction es generalizing p with
  | nil => cases h; rfl
  | cons e es ih =>
    obtain ⟨r, hr, h⟩ := after?_cons.1 h
    obtain ⟨hpol, ht⟩ := tallied_of_occur? (k := k) hr fun f hf => hes f (by simp [hf])
    have hrest := ih h fun f hf => hes f (List.mem_cons_of_mem e hf)
    rw [hpol] at hrest
    simp only [attempts, hr]
    exact Attempt.tallied_append.2 ⟨_, ht, hrest⟩

end PoolRun

/-! ## Every run -/

/-- In every run of a pool, a worker that makes a pass over a key releases the key when its pass
ends. Before the shutdown the key is queued again, once, exactly if it was marked during the pass or
the pass asks for another one at once, and a pass asked for later leaves the earlier deadline in
force. Other keys are not concerned. The failures of the key that are counted are those since the
last reset, and between two resets none backs off for less than the one before, from the first
delay of the policy to its longest. -/
theorem outcomes_handled (policy : BackoffPolicy) {size : Nat} {es : List (PoolEvent κ)}
    {p : PoolRun κ} (h : (PoolRun.start policy size).after? es = some p) (k : κ) :
    (∀ w outcome, p.workers[w]? = some (.working k) →
      (∀ delay, p.queue.Asks k outcome delay → p.now + delay.nanos < clockEnd) →
      Concluded p.queue p.now k outcome (p.pool.finish p.now w (.returned outcome)).queue) ∧
    ((∀ f, .outside f ∈ es → f.counted? ≠ some k) →
      p.queue.failures.count k =
        min ((Attempt.sinceReset (PoolRun.attempts k (.start policy size) es)).countP
          Attempt.isFailure) Failures.maxCount ∧
      ∀ before since rest,
        PoolRun.attempts k (.start policy size) es = before ++ since ++ rest →
        (∀ a ∈ before.getLast?, a.isReset = true) → (∀ a ∈ since, a.isReset = false) →
        Attempt.BacksOff policy since) := by
  have hp := PoolRun.isSound_of_after? h (.start policy size)
  refine ⟨fun w outcome hw hfits => ?_, fun hes => ?_⟩
  · have hk : k ∈ p.queue.processing := by
      have hheld := hp.staffed w _ k hw rfl
      exact (hp.serial.processing_iff k).2 (List.mem_map_of_mem hheld)
    have hfin : ((p.pool.queue.account k outcome).askedDelay? k outcome).all
        (p.now + ·.nanos < clockEnd) := by
      rw [Option.all_eq_true]
      intro delay hd
      exact decide_eq_true (hfits delay (WorkQueue.askedDelay?_account.1 hd))
    rw [Pool.finish_returned (p := p.pool) hw hfin]
    exact QueueRun.concluded hp.serial hk hfits
  · have ht : Attempt.Tallied policy 0 (PoolRun.attempts k (.start policy size) es)
        (p.queue.failures.count k) := PoolRun.tallied_of_after? h hes
    refine ⟨ht.eq_min_countP, fun before since rest hsplit hb hsince => ?_⟩
    rw [hsplit] at ht
    exact ht.backsOff hb hsince

/-- A key fails twice in a row, and is added again during the second pass. It is queued at once, and
its timer is set to two seconds. -/
theorem outcomes_handled_after_failure :
    ∃ p : PoolRun Nat,
      (PoolRun.start {} 1).after? [.outside (.add 7), .ask 0,
        .endPass 0 (.returned (.error .backoff)), .account 0, .schedule 0, .release 0,
        .outside (.tick 1000000000), .outside (.expire ⟨7, 1000000000⟩), .outside (.ring 7), .ask 0,
        .outside (.add 7)] = some p ∧
      p.workers[0]? = some (.working 7) ∧
      (∀ delay, p.queue.Asks 7 (.error .backoff) delay → p.now + delay.nanos < clockEnd) ∧
      7 ∈ (p.pool.finish p.now 0 (.returned (.error .backoff))).queue.queue ∧
      (p.pool.finish p.now 0 (.returned (.error .backoff))).queue.scheduled.get? 7 =
        some 3000000000 ∧
      p.queue.failures.count 7 = 1 ∧
      Attempt.BacksOff {} [⟨.error .backoff, some (.ofSecs 1)⟩] := by
  obtain ⟨p, hp, hw, hd, hs, hnow, hc, hn⟩ : ∃ p : PoolRun Nat,
      (PoolRun.start {} 1).after? [.outside (.add 7), .ask 0,
        .endPass 0 (.returned (.error .backoff)), .account 0, .schedule 0, .release 0,
        .outside (.tick 1000000000), .outside (.expire ⟨7, 1000000000⟩), .outside (.ring 7), .ask 0,
        .outside (.add 7)] = some p ∧
      p.workers[0]? = some (.working 7) ∧ p.queue.dirty = [7] ∧ p.queue.isShutDown = false ∧
      p.now = 1000000000 ∧ p.queue.scheduled.get? 7 = none ∧
      p.queue.policy.delayFor (min (p.queue.failures.count 7 + 1) Failures.maxCount) = .ofSecs 2 :=
    ⟨_, rfl, rfl, rfl, rfl, rfl, rfl, rfl⟩
  have hasks : p.queue.Asks 7 (.error .backoff) (.ofSecs 2) := hn ▸ .backoff
  have hfits : ∀ delay, p.queue.Asks 7 (.error .backoff) delay →
      p.now + delay.nanos < clockEnd := by
    rintro _ ⟨⟩
    rw [hn, hnow]
    decide
  obtain ⟨hend, hrun⟩ := outcomes_handled {} hp 7
  have hq := hend 0 (.error .backoff) hw hfits
  obtain ⟨hcount, hdelays⟩ := hrun (by simp [QueueEvent.counted?])
  refine ⟨p, hp, hw, hfits, (hq.queued hs).2 (Or.inl (by simp [hd])), ?_, hcount, ?_⟩
  · rw [hq.delayed hs _ hasks (by decide), hc, hnow]
    rfl
  · exact hdelays [] [⟨.error .backoff, some (.ofSecs 1)⟩] [] rfl (by simp)
      (by simp [Attempt.isReset])

/-- A retry that is asked for after the shutdown is not scheduled, and a worker whose deadline lies
after the end of the clock is never done with its key. -/
theorem outcomes_dropped_at_the_end :
    (¬ ∀ (es : List (PoolEvent Nat)) (p : PoolRun Nat) (outcome : Except Retry Requeue)
        (delay : Duration), (PoolRun.start {} 1).after? es = some p →
      p.workers[0]? = some (.working 7) → p.queue.Asks 7 outcome delay → delay.nanos ≠ 0 →
      (p.pool.finish p.now 0 (.returned outcome)).queue.scheduled.get? 7 =
        some ((p.queue.scheduled.get? 7).elim (p.now + delay.nanos) (min (p.now + delay.nanos)))) ∧
    ¬ ∀ (es : List (PoolEvent Nat)) (p : PoolRun Nat) (outcome : Except Retry Requeue),
      (PoolRun.start {} 1).after? es = some p → p.workers[0]? = some (.working 7) →
      7 ∉ (p.pool.finish p.now 0 (.returned outcome)).queue.processing := by
  constructor
  · intro h
    have hlost := h [.outside (.add 7), .ask 0, .outside .shutDown] _ (.ok (.after (.ofSecs 30)))
      (.ofSecs 30) rfl rfl (.requeue _) (by decide)
    cases hlost
  · intro h
    have hheld := h [.outside (.add 7), .ask 0] _ (.ok (.after .longest)) rfl rfl
    exact hheld (by decide)

end ClusterOperator

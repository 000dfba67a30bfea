import ClusterOperator.Proofs.Queue.Standing
import ClusterOperator.Queue.Pool

/-!
# Runs of the pool

The workers of a pool drain a queue that others use as well. A worker that finishes a pass takes
the lock of the queue three times, and between any two of them others may have a turn.

* `PoolEvent` : what happens to a pool, from outside or by a worker;
* `PoolRun` : a queue in use, and what each worker does; `PoolRun.pool`, its pool;
* `PoolRun.occur?`, `PoolRun.after?` : the run after an event, and after several;
* `PoolRun.Step` : what an event does, `PoolRun.occur?_step`;
* `PoolRun.Step.exists_after?` : each event of a pool is made of events of its queue;
* `PoolRun.IsStaffed` : a busy worker holds its key, which is kept by every event.
-/

namespace ClusterOperator

inductive PoolEvent (κ : Type) where
  /-- Others use the queue. -/
  | outside (e : QueueEvent κ)
  | ask (worker : Nat)
  | endPass (worker : Nat) (ending : PassEnd)
  | account (worker : Nat)
  | schedule (worker : Nat)
  | release (worker : Nat)

/-- The key that a worker has not released. -/
def Worker.key? {κ : Type} : Worker κ → Option κ
  | .working k | .returned k _ | .accounted k _ | .scheduled k => some k
  | .asking | .stopped | .crashed => none

def Pool.busyKeys {κ : Type} (p : Pool κ) : List κ :=
  p.workers.filterMap Worker.key?

structure PoolRun (κ : Type) extends QueueRun κ where
  workers : List (Worker κ)

namespace PoolRun

variable {κ : Type}

def start (policy : BackoffPolicy) (size : Nat) : PoolRun κ where
  queue := (Pool.ofSize policy size).queue
  workers := (Pool.ofSize policy size).workers

def pool (p : PoolRun κ) : Pool κ :=
  ⟨p.queue, p.workers⟩

def withPool (p : PoolRun κ) (q : Pool κ) : PoolRun κ :=
  { p with queue := q.queue, workers := q.workers }

/-! ## Workers and the keys they hold -/

/-- A worker that has not released a key holds it. -/
def IsStaffed (p : PoolRun κ) : Prop :=
  ∀ w x k, p.workers[w]? = some x → x.key? = some k → (w, k) ∈ p.held

theorem IsStaffed.start (policy : BackoffPolicy) (size : Nat) :
    (start policy size : PoolRun κ).IsStaffed := by
  intro w x k hw hk
  simp only [PoolRun.start, Pool.ofSize] at hw
  rw [List.eq_of_mem_replicate (List.mem_of_getElem? hw)] at hk
  cases hk

theorem IsStaffed.set {p : PoolRun κ} (hp : p.IsStaffed) {s : QueueRun κ} {w : Nat} {y : Worker κ}
    (others : ∀ v k, v ≠ w → (v, k) ∈ p.held → (v, k) ∈ s.held)
    (own : ∀ k, y.key? = some k → (w, k) ∈ s.held) :
    IsStaffed ⟨s, p.workers.set w y⟩ := by
  intro v z k hv hz
  by_cases hvw : v = w
  · subst hvw
    have hlt : v < p.workers.length := by simpa using (List.getElem?_eq_some_iff.1 hv).1
    rw [List.getElem?_set_self hlt] at hv
    cases hv
    exact own k hz
  · rw [List.getElem?_set_ne (Ne.symm hvw)] at hv
    exact others v k hvw (hp v z k hv hz)

/-! ## Events -/

variable [DecidableEq κ]

/-- The run after an event, if the event can happen. Tasks outside the pool are no workers of it. -/
def occur? (p : PoolRun κ) : PoolEvent κ → Option (PoolRun κ)
  | .outside e =>
    if e.task?.all (p.workers.length ≤ ·) then
      (p.toQueueRun.occur? e).map fun s => { p with toQueueRun := s }
    else none
  | .ask w =>
    match p.workers[w]? with
    | some .asking =>
      let asked := p.withPool (p.pool.ask w)
      match asked.workers[w]? with
      | some (.working k) => some { asked with held := p.held ++ [(w, k)] }
      | _ => some asked
    | _ => none
  | .endPass w ending =>
    match p.workers[w]? with
    | some (.working _) => some (p.withPool (p.pool.endPass w ending))
    | _ => none
  | .account w =>
    match p.workers[w]? with
    | some (.returned _ _) => some (p.withPool (p.pool.account w))
    | _ => none
  | .schedule w =>
    match p.workers[w]? with
    | some (.accounted _ _) => some (p.withPool (p.pool.schedule p.now w))
    | _ => none
  | .release w =>
    match p.workers[w]? with
    | some (.scheduled k) =>
      some { p.withPool (p.pool.release w) with held := p.held.erase (w, k) }
    | _ => none

def after? (p : PoolRun κ) (es : List (PoolEvent κ)) : Option (PoolRun κ) :=
  es.foldlM occur? p

@[simp] theorem after?_nil (p : PoolRun κ) : p.after? [] = some p := rfl

theorem after?_cons {p q : PoolRun κ} {e : PoolEvent κ} {es : List (PoolEvent κ)} :
    p.after? (e :: es) = some q ↔ ∃ r, p.occur? e = some r ∧ r.after? es = some q := by
  simp [after?, List.foldlM_cons, Option.bind_eq_some_iff]

theorem after?_append {p q : PoolRun κ} {es fs : List (PoolEvent κ)} :
    p.after? (es ++ fs) = some q ↔ ∃ r, p.after? es = some r ∧ r.after? fs = some q := by
  simp [after?, List.foldlM_append, Option.bind_eq_some_iff]

theorem occur?_account {p : PoolRun κ} {w : Nat} {k : κ} {outcome : Except Retry Requeue}
    (hw : p.workers[w]? = some (.returned k outcome)) :
    p.occur? (.account w) = some { p with
      queue := p.queue.account k outcome
      workers := p.workers.set w
        (.accounted k ((p.queue.account k outcome).askedDelay? k outcome)) } := by
  simp only [occur?, hw, withPool, pool, Pool.account]

/-! ## Steps -/

/-- What an event does to a pool: a worker takes one step, and the queue at most one. -/
inductive Step : PoolRun κ → PoolEvent κ → PoolRun κ → Prop where
  | outside {p s e} (ht : ∀ t ∈ e.task?, p.workers.length ≤ t)
      (hq : p.toQueueRun.occur? e = some s) : Step p (.outside e) { p with toQueueRun := s }
  | got {p s w k} (hw : p.workers[w]? = some .asking)
      (hq : p.toQueueRun.occur? (.next w (.key k)) = some s) :
      Step p (.ask w) ⟨s, p.workers.set w (.working k)⟩
  | waits {p s w} (hw : p.workers[w]? = some .asking)
      (hq : p.toQueueRun.occur? (.next w .pending) = some s) : Step p (.ask w) ⟨s, p.workers⟩
  | stops {p s w} (hw : p.workers[w]? = some .asking)
      (hq : p.toQueueRun.occur? (.next w .shutDown) = some s) :
      Step p (.ask w) ⟨s, p.workers.set w .stopped⟩
  | returns {p w k outcome} (hw : p.workers[w]? = some (.working k)) :
      Step p (.endPass w (.returned outcome))
        { p with workers := p.workers.set w (.returned k outcome) }
  | crashes {p w k} (hw : p.workers[w]? = some (.working k)) :
      Step p (.endPass w .crashed) { p with workers := p.workers.set w .crashed }
  | accounts {p s w k outcome delay es} (hw : p.workers[w]? = some (.returned k outcome))
      (hes : ∀ e ∈ es, e = .forget k ∨ e = .countFailure k)
      (hq : p.toQueueRun.after? es = some s) (hd : delay = s.queue.askedDelay? k outcome) :
      Step p (.account w) ⟨s, p.workers.set w (.accounted k delay)⟩
  | schedules {p s w k delay es} (hw : p.workers[w]? = some (.accounted k delay))
      (hes : ∀ e ∈ es, ∃ d ∈ delay, e = .addAfter k d) (hq : p.toQueueRun.after? es = some s) :
      Step p (.schedule w) ⟨s, p.workers.set w (.scheduled k)⟩
  /-- A deadline after the end of the clock. -/
  | overruns {p w k delay} (hw : p.workers[w]? = some (.accounted k delay))
      (hd : ∃ d ∈ delay, clockEnd ≤ p.now + d.nanos) :
      Step p (.schedule w) { p with workers := p.workers.set w .crashed }
  | releases {p w k} (hw : p.workers[w]? = some (.scheduled k)) :
      Step p (.release w)
        { p with
          queue := p.queue.done k
          held := p.held.erase (w, k)
          workers := p.workers.set w .asking }

theorem ask_step {p q : PoolRun κ} {w : Nat} (h : p.occur? (.ask w) = some q) :
    Step p (.ask w) q := by
  simp only [occur?] at h
  split at h
  · next hw =>
    have hlt : w < p.workers.length := (List.getElem?_eq_some_iff.1 hw).1
    cases hs : p.queue.isShutDown with
    | true =>
      have hp := WorkQueue.poll_of_isShutDown hs w
      simp only [withPool, pool, Pool.ask, hw, hp, hlt, List.getElem?_set_self] at h
      cases h
      exact .stops hw (by simp [QueueRun.occur?, hp])
    | false =>
      cases hk : p.queue.queue with
      | nil =>
        have hp := WorkQueue.poll_of_nil hs hk w
        simp only [withPool, pool, Pool.ask, hw, hp] at h
        cases h
        exact .waits hw (by simp [QueueRun.occur?, hp])
      | cons k rest =>
        have hp := WorkQueue.poll_of_cons hs hk w
        simp only [withPool, pool, Pool.ask, hw, hp, hlt, List.getElem?_set_self] at h
        cases h
        exact .got hw (by simp [QueueRun.occur?, hp])
  · cases h

theorem occur?_step {p q : PoolRun κ} {e : PoolEvent κ} (h : p.occur? e = some q) : Step p e q := by
  cases e with
  | outside e =>
    simp only [occur?] at h
    split at h
    · next ht =>
      obtain ⟨s, hs, rfl⟩ := Option.map_eq_some_iff.1 h
      exact .outside (fun t (hx : e.task? = some t) => by simpa [hx] using ht) hs
    · cases h
  | ask w => exact ask_step h
  | endPass w ending =>
    simp only [occur?] at h
    split at h
    · next k hw =>
      simp only [withPool, pool, Pool.endPass, hw] at h
      cases ending with
      | returned outcome => cases h; exact .returns hw
      | crashed => cases h; exact .crashes hw
    · cases h
  | account w =>
    simp only [occur?] at h
    split at h
    · next k outcome hw =>
      simp only [withPool, pool, Pool.account, hw] at h
      cases h
      rcases outcome with (_ | _ | _) | _
      · exact .accounts hw (by simp) (p.toQueueRun.after?_singleton (.forget k)) rfl
      · exact .accounts hw (by simp) p.toQueueRun.after?_nil rfl
      · exact .accounts hw (by simp) (p.toQueueRun.after?_singleton (.countFailure k)) rfl
      · exact .accounts hw (by simp) (p.toQueueRun.after?_singleton (.forget k)) rfl
    · cases h
  | schedule w =>
    simp only [occur?] at h
    split at h
    · next k delay hw =>
      simp only [withPool, pool, Pool.schedule, hw] at h
      cases delay with
      | none => cases h; exact .schedules hw (by simp) p.toQueueRun.after?_nil
      | some delay =>
        dsimp only at h
        split at h
        · cases h
          exact .schedules hw (by simp) (p.toQueueRun.after?_singleton (.addAfter k delay))
        · next hd => cases h; exact .overruns hw ⟨delay, rfl, Nat.not_lt.1 hd⟩
    · cases h
  | release w =>
    simp only [occur?] at h
    split at h
    · next k hw =>
      simp only [withPool, pool, Pool.release, hw] at h
      cases h
      exact .releases hw
    · cases h

/-- What happens to a pool happens to its queue. A key is handed out to a worker that asks, or to
others. -/
theorem Step.exists_after? {p q : PoolRun κ} {e : PoolEvent κ} (h : Step p e q)
    (hp : p.IsStaffed) :
    ∃ es, p.toQueueRun.after? es = some q.toQueueRun ∧ ∀ f ∈ es, ∀ k, f.handed? = some k →
      e = .outside f ∨ ∃ w, e = .ask w ∧ q.workers[w]? = some (.working k) := by
  cases h with
  | @outside _ f _ hq =>
    refine ⟨[f], (QueueRun.after?_singleton _ _).trans hq, fun g hg k hk => Or.inl ?_⟩
    rw [List.mem_singleton.1 hg]
  | @got s w k hw hq =>
    refine ⟨[_], (QueueRun.after?_singleton _ _).trans hq, fun g hg l hl => Or.inr ?_⟩
    have hlt : w < p.workers.length := (List.getElem?_eq_some_iff.1 hw).1
    rw [List.mem_singleton.1 hg] at hl
    cases hl
    exact ⟨w, rfl, List.getElem?_set_self hlt⟩
  | waits hw hq =>
    exact ⟨[_], (QueueRun.after?_singleton _ _).trans hq, by simp [QueueEvent.handed?]⟩
  | stops hw hq =>
    exact ⟨[_], (QueueRun.after?_singleton _ _).trans hq, by simp [QueueEvent.handed?]⟩
  | returns | crashes | overruns => exact ⟨[], rfl, by simp⟩
  | accounts hw hes hq =>
    refine ⟨_, hq, fun f hf k hk => ?_⟩
    rcases hes f hf with rfl | rfl <;> cases hk
  | schedules hw hes hq =>
    refine ⟨_, hq, fun f hf k hk => ?_⟩
    obtain ⟨d, -, rfl⟩ := hes f hf
    cases hk
  | @releases w k hw =>
    refine ⟨[.done w k], ?_, by simp [QueueEvent.handed?]⟩
    exact (QueueRun.after?_singleton _ _).trans (if_pos (hp w _ k hw rfl))

theorem Step.working {p q : PoolRun κ} {e : PoolEvent κ} (h : Step p e q) {w : Nat} {k : κ}
    (hw : p.workers[w]? = some (.working k)) (he : ∀ ending, e ≠ .endPass w ending) :
    q.workers[w]? = some (.working k) := by
  have hset : ∀ {v : Nat} {x : Worker κ}, v ≠ w → (p.workers.set v x)[w]? = some (.working k) :=
    fun hv => (List.getElem?_set_ne hv).trans hw
  have hne : ∀ {v : Nat} {x : Worker κ}, p.workers[v]? = some x → (∀ l, x ≠ .working l) → v ≠ w :=
    fun hv hx e => hx k (Option.some.inj ((e ▸ hv).symm.trans hw))
  cases h with
  | outside | waits => exact hw
  | got hv | stops hv => exact hset (hne hv (by simp))
  | returns | crashes => exact hset fun e => he _ (by rw [e])
  | accounts hv | schedules hv | overruns hv | releases hv => exact hset (hne hv (by simp))

theorem Step.working_of_asked {p q : PoolRun κ} {w : Nat} {k : κ} (h : Step p (.ask w) q)
    (hk : q.workers[w]?.bind Worker.key? = some k) : q.workers[w]? = some (.working k) := by
  cases h with
  | got hw =>
    have hlt := (List.getElem?_eq_some_iff.1 hw).1
    rw [List.getElem?_set_self hlt] at hk ⊢
    cases hk
    rfl
  | waits hw =>
    rw [hw] at hk
    cases hk
  | stops hw =>
    have hlt := (List.getElem?_eq_some_iff.1 hw).1
    rw [List.getElem?_set_self hlt] at hk
    cases hk

theorem Step.isStaffed {p q : PoolRun κ} {e : PoolEvent κ} (h : Step p e q) (hp : p.IsStaffed) :
    q.IsStaffed := by
  cases h with
  | outside ht hq =>
    intro w x k hw hk
    refine (QueueRun.occur?_standing hq).mem_held (hp w x k hw hk) ?_
    rintro rfl
    have hlt := (List.getElem?_eq_some_iff.1 hw).1
    exact Nat.not_le.2 hlt (ht w rfl)
  | got hw hq =>
    have hs := QueueRun.occur?_standing hq
    refine hp.set (fun v k _ hv => hs.mem_held hv (by simp)) fun l hl => ?_
    cases hl
    exact hs.holds
  | waits hw hq =>
    exact fun v x k hv hk => (QueueRun.occur?_standing hq).mem_held (hp v x k hv hk) (by simp)
  | stops hw hq =>
    have hs := QueueRun.occur?_standing hq
    exact hp.set (fun v k _ hv => hs.mem_held hv (by simp)) (by simp [Worker.key?])
  | returns hw => exact hp.set (fun _ _ _ h => h) (fun l hl => hp _ _ l hw hl)
  | crashes hw => exact hp.set (fun _ _ _ h => h) (by simp [Worker.key?])
  | accounts hw hes hq =>
    have hs : ∀ v l, (v, l) ∈ p.held → _ := fun v l =>
      QueueRun.mem_held_of_after? hq fun e he => by rcases hes e he with rfl | rfl <;> simp
    exact hp.set (fun v l _ h => hs v l h) (fun l hl => hs _ l (hp _ _ l hw hl))
  | schedules hw hes hq =>
    have hs : ∀ v l, (v, l) ∈ p.held → _ := fun v l =>
      QueueRun.mem_held_of_after? hq fun e he => by obtain ⟨d, _, rfl⟩ := hes e he; simp
    exact hp.set (fun v l _ h => hs v l h) (fun l hl => hs _ l (hp _ _ l hw hl))
  | overruns hw => exact hp.set (fun _ _ _ h => h) (by simp [Worker.key?])
  | releases hw =>
    refine hp.set (fun v l hv h => ?_) (by simp [Worker.key?])
    exact (List.mem_erase_of_ne (by simp [hv])).2 h

end PoolRun

end ClusterOperator

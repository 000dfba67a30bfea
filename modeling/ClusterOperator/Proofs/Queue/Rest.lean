import ClusterOperator.Proofs.Queue.Delivery
import ClusterOperator.Proofs.Queue.Serialization
import ClusterOperator.Proofs.Queue.Timing

/-!
# Keys at rest

A pass may end in awaiting a change: it asks for no other pass over its key. The key is then handed
out again only for what was there before the pass ended, which is a signal during the pass, or a
delayed add whose deadline still counts.

* `awaitsChange` : a pass asks for no other;
* `QueueRun.IsResting` : nothing is left that hands a key out; `IsResting.occur?`, it stays so
  until the key is added, at once or after a delay;
* `QueueRun.exists_dirty` : time alone makes a key dirty that is not resting;
* `Worker.IsClosing` : a worker is at the end of a pass that asks for no other;
* `PoolRun.exists_handed` : a worker that asks is handed every queued key in the end;
* `never_handed_out_iff_resting` : a key that awaits a change is not handed out again exactly if it
  was resting when its pass ended; `handed_out_after_awaiting_change`, a timer of an earlier pass is
  enough.
-/

namespace ClusterOperator

variable {κ : Type}

/-- A pass that ends so asks for no other. -/
def awaitsChange : Except Retry Requeue → Bool
  | .ok .awaitChange | .error .awaitChange => true
  | _ => false

/-- The key that an event adds, at once or after a delay. An alarm only makes an add that was asked
for. -/
def QueueEvent.requested? : QueueEvent κ → Option κ
  | .add k | .addAfter k _ => some k
  | _ => none

/-- A worker is at the end of a pass over a key that asks for no other. -/
def Worker.IsClosing (k : κ) : Worker κ → Prop
  | .returned l outcome => l = k ∧ awaitsChange outcome = true
  | .accounted l delay => l = k ∧ delay = none
  | .scheduled l => l = k
  | _ => False

theorem Worker.IsClosing.key? {k : κ} {x : Worker κ} (h : x.IsClosing k) : x.key? = some k := by
  cases x with
  | returned | accounted => exact congrArg some h.1
  | scheduled => exact congrArg some h
  | asking | working | stopped | crashed => exact h.elim

variable [DecidableEq κ]

namespace WorkQueue

theorem askedDelay?_of_awaitsChange (q : WorkQueue κ) (k : κ) {outcome : Except Retry Requeue}
    (h : awaitsChange outcome = true) : q.askedDelay? k outcome = none := by
  rcases outcome with (_ | _ | _) | (_ | _ | _) <;> first | rfl | cases h

theorem account_of_awaitsChange (q : WorkQueue κ) (k : κ) {outcome : Except Retry Requeue}
    (h : awaitsChange outcome = true) : q.account k outcome = q.forget k := by
  rcases outcome with (_ | _ | _) | (_ | _ | _) <;> first | rfl | cases h

theorem done_of_mem_dirty {q : WorkQueue κ} {k : κ} (hk : k ∈ q.dirty)
    (hs : q.isShutDown = false) : (q.done k).queue = q.queue ++ [k] := by
  unfold done
  dsimp only
  rw [if_pos ⟨hk, by simp [hs]⟩]

theorem queue_prefix_done (q : WorkQueue κ) (k : κ) : q.queue <+: (q.done k).queue := by
  unfold done
  dsimp only
  split
  · exact List.prefix_append _ _
  · exact List.prefix_rfl

end WorkQueue

/-! ## What is left of earlier signals -/

/-- The delayed adds of a key come from events that ask for them. -/
theorem Timing.Step.undelayed {s t : Timing κ} {e : QueueEvent κ} {k : κ} (h : s.Step e t)
    (he : e.requested? ≠ some k) (hs : s.scheduled.get? k = none) (hd : k ∉ s.due) :
    t.scheduled.get? k = none ∧ k ∉ t.due := by
  cases h with
  | kept => exact ⟨hs, hd⟩
  | @armed l delay =>
    have hne : k ≠ l := fun e => he (by rw [e]; rfl)
    refine ⟨?_, hd⟩
    show (s.scheduled.insert l _).get? k = none
    rw [Dict.get?_insert, if_neg hne, hs]
  | @expired a ha =>
    have hne : k ≠ a.key := by
      rintro rfl
      rw [hs] at ha
      cases ha
    constructor
    · show (s.scheduled.erase a.key).get? k = none
      rw [Dict.get?_erase, if_neg hne, hs]
    · show k ∉ s.due ++ [a.key]
      simpa [hne] using hd
  | superseded => exact ⟨hs, hd⟩
  | rung => exact ⟨hs, fun hk => hd (List.mem_of_mem_erase hk)⟩
  | passed => exact ⟨hs, hd⟩
  | closed => exact ⟨rfl, hd⟩

theorem Standing.Step.not_mem_processing {s t : Standing κ} {e : QueueEvent κ} {k : κ}
    (h : s.Step e t) (he : e.handed? ≠ some k) (hk : k ∉ s.processing) : k ∉ t.processing := by
  cases h with
  | @handed task l =>
    have hne : k ≠ l := fun e => he (by rw [e]; rfl)
    simp [List.mem_insert_iff, hne, hk]
  | finished | requeued => exact fun hm => hk (List.mem_of_mem_filter hm)
  | _ => exact hk

namespace QueueRun

variable {s t : QueueRun κ} {e : QueueEvent κ} {es : List (QueueEvent κ)} {k : κ}

/-- Nothing is left that hands a key out: it is clean, and no delayed add of it is to come. -/
def IsResting (s : QueueRun κ) (k : κ) : Prop :=
  s.queue.isShutDown = true ∨
    k ∉ s.queue.dirty ∧ s.queue.scheduled.get? k = none ∧ k ∉ s.due

/-- An event that asks for no add of a key, and does not make one that an alarm left, is no signal
of the key. -/
theorem signal?_ne_of_resting (h : s.occur? e = some t) (he : e.requested? ≠ some k)
    (hd : k ∉ s.due) : e.signal? ≠ some k := by
  intro hk
  cases e with
  | add l => exact he hk
  | addAfter l delay =>
    simp only [QueueEvent.signal?] at hk
    split at hk
    · exact he hk
    · cases hk
  | ring l =>
    cases hk
    rw [occur?, if_neg hd] at h
    cases h
  | _ => cases hk

theorem IsResting.occur? (hs : s.IsResting k) (h : s.occur? e = some t)
    (he : e.requested? ≠ some k) : t.IsResting k := by
  have hstep := occur?_standing h
  rcases hs with hs | ⟨hc, hn, hd⟩
  · exact Or.inl (hstep.isShutDown hs)
  · have hu := (occur?_timing h).undelayed he hn hd
    exact Or.inr ⟨hstep.not_mem_dirty (signal?_ne_of_resting h he hd) hc, hu.1, hu.2⟩

theorem IsResting.handed?_ne (hs : s.IsResting k) (hser : s.standing.IsSerial)
    (h : s.occur? e = some t) : e.handed? ≠ some k := by
  intro he
  obtain ⟨hq, hns, -⟩ := (occur?_standing h).mem_queued_of_handed he
  rcases hs with hs | hs
  · have hns : s.queue.isShutDown = false := hns
    rw [hs] at hns
    cases hns
  · exact hs.1 (hser.dirty_of_queued hns k hq)

theorem IsResting.after? (hs : s.IsResting k) (hser : s.standing.IsSerial)
    (h : s.after? es = some t) (hes : ∀ e ∈ es, e.requested? ≠ some k) :
    t.IsResting k ∧ (k ∉ s.queue.processing → k ∉ t.queue.processing) := by
  induction es generalizing s with
  | nil =>
    cases h
    exact ⟨hs, id⟩
  | cons e es ih =>
    obtain ⟨u, hu, h⟩ := after?_cons.1 h
    have hstep := occur?_standing hu
    have hrest := ih (hs.occur? hu (hes e List.mem_cons_self)) (hstep.isSerial hser) h
      fun f hf => hes f (List.mem_cons_of_mem _ hf)
    exact ⟨hrest.1, fun hk => hrest.2 (hstep.not_mem_processing (hs.handed?_ne hser hu) hk)⟩

/-- The add that an alarm left makes its key dirty. -/
theorem exists_rung (hs : s.queue.isShutDown = false) (hd : k ∈ s.due) :
    ∃ t, s.after? [.ring k] = some t ∧ k ∈ t.queue.dirty ∧ t.queue.isShutDown = false := by
  obtain ⟨t, ht⟩ : ∃ t, s.occur? (.ring k) = some t := ⟨_, if_pos hd⟩
  have hns : t.queue.isShutDown = false := by
    rw [occur?, if_pos hd] at ht
    cases ht
    exact (s.queue.isShutDown_add k).trans hs
  exact ⟨t, (after?_singleton _ _).trans ht,
    (occur?_standing ht).mem_dirty_of_signal rfl hns, hns⟩

theorem exists_expired {d : Nat} (hs : s.queue.scheduled.get? k = some d)
    (ha : s.timing.IsArmed) :
    ∃ t, s.after? [.tick d, .expire ⟨k, d⟩] = some t ∧ k ∈ t.due ∧
      t.queue.isShutDown = s.queue.isShutDown := by
  have hmem : (⟨k, d⟩ : Alarm κ) ∈ s.queue.alarms := ha k d hs
  have hexp : s.queue.expire ⟨k, d⟩ = (true, { s.queue with
      alarms := s.queue.alarms.erase ⟨k, d⟩, scheduled := s.queue.scheduled.erase k }) := by
    unfold WorkQueue.expire
    exact if_pos hs
  refine ⟨{ s with
    queue := { s.queue with
      alarms := s.queue.alarms.erase ⟨k, d⟩, scheduled := s.queue.scheduled.erase k }
    now := s.now + d
    due := s.due ++ [k] }, ?_, List.mem_append_right _ (List.mem_singleton_self _), rfl⟩
  rw [after?_cons]
  refine ⟨_, rfl, (after?_singleton _ _).trans ?_⟩
  unfold occur?
  dsimp only
  rw [if_pos ⟨hmem, Nat.le_add_left d s.now⟩, hexp]
  rfl

/-- Time alone makes a key dirty that is not resting. -/
theorem exists_dirty (hr : ¬ s.IsResting k) (ha : s.timing.IsArmed) :
    ∃ es t, s.after? es = some t ∧ k ∈ t.queue.dirty ∧ t.queue.isShutDown = false ∧
      ∀ e ∈ es, e.task? = none ∧ e.requested? = none := by
  obtain ⟨hns, hk⟩ := not_or.1 hr
  rw [Bool.not_eq_true] at hns
  by_cases hd : k ∈ s.queue.dirty
  · exact ⟨[], s, rfl, hd, hns, by simp⟩
  by_cases hdue : k ∈ s.due
  · obtain ⟨t, ht, hkt, hnt⟩ := exists_rung hns hdue
    exact ⟨_, t, ht, hkt, hnt, by simp [QueueEvent.task?, QueueEvent.requested?]⟩
  · -- a deadline of the key counts
    obtain ⟨d, hn⟩ : ∃ d, s.queue.scheduled.get? k = some d :=
      Option.ne_none_iff_exists'.1 fun hn => hk ⟨hd, hn, hdue⟩
    obtain ⟨u, hu, hku, hsu⟩ := exists_expired hn ha
    obtain ⟨t, ht, hkt, hnt⟩ := exists_rung (hsu.trans hns) hku
    exact ⟨_, t, after?_append.2 ⟨u, hu, ht⟩, hkt, hnt,
      by simp [QueueEvent.task?, QueueEvent.requested?]⟩

end QueueRun

/-! ## The worker of the key -/

namespace PoolRun

variable {p q : PoolRun κ} {e : PoolEvent κ} {es : List (PoolEvent κ)} {k : κ} {w : Nat}
  {x : Worker κ} {size : Nat}

/-- Nobody asks for a key when others do not, and no worker is about to. -/
theorem Step.unrequested (h : Step p e q) (hp : p.IsStaffed)
    (he : ∀ f, e = .outside f → f.requested? ≠ some k)
    (hw : ∀ (v : Nat) (d : Duration), p.workers[v]? ≠ some (.accounted k (some d))) :
    ∃ es, p.toQueueRun.after? es = some q.toQueueRun ∧ ∀ f ∈ es, f.requested? ≠ some k := by
  cases h with
  | @outside _ f _ hq =>
    refine ⟨[f], (QueueRun.after?_singleton _ _).trans hq, fun g hg => ?_⟩
    rw [List.mem_singleton.1 hg]
    exact he f rfl
  | got _ hq | waits _ hq | stops _ hq =>
    exact ⟨[_], (QueueRun.after?_singleton _ _).trans hq, by simp [QueueEvent.requested?]⟩
  | returns | crashes | overruns => exact ⟨[], rfl, by simp⟩
  | accounts _ hes hq =>
    refine ⟨_, hq, fun f hf => ?_⟩
    rcases hes f hf with rfl | rfl <;> rintro ⟨⟩
  | @schedules s v l delay es hv hes hq =>
    refine ⟨_, hq, fun f hf hk => ?_⟩
    obtain ⟨d, hd, rfl⟩ := hes f hf
    cases hk
    exact hw v d (Option.mem_def.1 hd ▸ hv)
  | @releases v l hv =>
    refine ⟨[.done v l], ?_, by simp [QueueEvent.requested?]⟩
    exact (QueueRun.after?_singleton _ _).trans (if_pos (hp v _ l hv rfl))

/-- A worker at the end of its pass comes to releasing its key. -/
theorem Step.isClosing (h : Step p e q) (hw : p.workers[w]? = some x) (hx : x.IsClosing k)
    (he : e ≠ .release w) : ∃ y, q.workers[w]? = some y ∧ y.IsClosing k := by
  have hlt : w < p.workers.length := (List.getElem?_eq_some_iff.1 hw).1
  -- a step of another worker
  have hset : ∀ {v : Nat} {y : Worker κ}, v ≠ w →
      ∃ z, (p.workers.set v y)[w]? = some z ∧ z.IsClosing k :=
    fun hv => ⟨x, (List.getElem?_set_ne hv).trans hw, hx⟩
  have hne : ∀ {v : Nat} {y : Worker κ}, p.workers[v]? = some y → ¬ y.IsClosing k → v ≠ w := by
    rintro v y hv hy rfl
    exact hy (Option.some.inj (hw.symm.trans hv) ▸ hx)
  cases h with
  | outside | waits => exact ⟨x, hw, hx⟩
  | got hv | stops hv | returns hv | crashes hv => exact hset (hne hv id)
  | @accounts s v l outcome delay es hv hes hq hd =>
    by_cases hvw : v = w
    · subst hvw
      cases hw.symm.trans hv
      refine ⟨_, List.getElem?_set_self hlt, hx.1, ?_⟩
      rw [hd, s.queue.askedDelay?_of_awaitsChange l hx.2]
    · exact hset hvw
  | @schedules s v l delay es hv =>
    by_cases hvw : v = w
    · subst hvw
      cases hw.symm.trans hv
      exact ⟨_, List.getElem?_set_self hlt, hx.1⟩
    · exact hset hvw
  | overruns hv hd =>
    refine hset (hne hv fun hc => ?_)
    obtain ⟨d, hd, -⟩ := hd
    rw [hc.2] at hd
    cases hd
  | releases hv =>
    refine hset ?_
    rintro rfl
    exact he rfl

/-! ## Resting keys are not handed out -/

theorem isResting_of_closing (h : p.after? es = some q) (hp : p.IsSound size)
    (hw : p.workers[w]? = some x) (hx : x.IsClosing k) (hr : p.IsResting k)
    (hes : ∀ e, .outside e ∈ es → e.requested? ≠ some k) (hnr : .release w ∉ es) :
    q.IsSound size ∧ q.IsResting k ∧ ∃ y, q.workers[w]? = some y ∧ y.IsClosing k := by
  induction es generalizing p x with
  | nil =>
    cases h
    exact ⟨hp, hr, x, hw, hx⟩
  | cons e es ih =>
    obtain ⟨r, hpr, h⟩ := after?_cons.1 h
    have hstep := occur?_step hpr
    rw [List.mem_cons, not_or] at hnr
    -- the worker that is closing holds the key, so no other is about to ask for it
    have hno : ∀ (v : Nat) (d : Duration), p.workers[v]? ≠ some (.accounted k (some d)) := by
      intro v d hv
      obtain rfl := hp.worker_unique hw hv hx.key? rfl
      cases hw.symm.trans hv
      cases hx.2
    obtain ⟨fs, hfs, hreq⟩ := hstep.unrequested hp.staffed
      (fun f hf => hes f (hf ▸ List.mem_cons_self)) hno
    obtain ⟨y, hwy, hy⟩ := hstep.isClosing hw hx (Ne.symm hnr.1)
    exact ih h (hstep.isSound hp) hwy hy (hr.after? hp.serial hfs hreq).1
      (fun f hf => hes f (List.mem_cons_of_mem _ hf)) hnr.2

theorem isResting_of_release (h : p.occur? (.release w) = some q) (hp : p.IsStaffed)
    (hw : p.workers[w]? = some x) (hx : x.IsClosing k) (hr : p.IsResting k) :
    q.IsResting k ∧ k ∉ q.queue.processing := by
  cases occur?_step h with
  | @releases w l hl =>
    cases hw.symm.trans hl
    obtain rfl : l = k := hx
    have hdone : p.toQueueRun.occur? (.done w l) =
        some { p.toQueueRun with queue := p.queue.done l, held := p.held.erase (w, l) } :=
      if_pos (hp w _ l hl rfl)
    exact ⟨hr.occur? hdone (by rintro ⟨⟩), p.queue.not_mem_processing_done l⟩

/-- A resting key that no worker holds is not handed out. -/
theorem not_mem_processing_of_resting (h : p.after? es = some q) (hp : p.IsSound size)
    (hr : p.IsResting k) (hk : k ∉ p.queue.processing)
    (hes : ∀ e, .outside e ∈ es → e.requested? ≠ some k) : k ∉ q.queue.processing := by
  induction es generalizing p with
  | nil =>
    cases h
    exact hk
  | cons e es ih =>
    obtain ⟨r, hpr, h⟩ := after?_cons.1 h
    have hstep := occur?_step hpr
    have hno : ∀ (v : Nat) (d : Duration), p.workers[v]? ≠ some (.accounted k (some d)) :=
      fun v d hv => hk ((hp.serial.processing_iff k).2
        (List.mem_map.2 ⟨_, hp.staffed v _ k hv rfl, rfl⟩))
    obtain ⟨fs, hfs, hreq⟩ := hstep.unrequested hp.staffed
      (fun f hf => hes f (hf ▸ List.mem_cons_self)) hno
    obtain ⟨hrr, hkr⟩ := hr.after? hp.serial hfs hreq
    exact ih h (hstep.isSound hp) hrr (hkr hk) fun f hf => hes f (List.mem_cons_of_mem _ hf)

/-! ## Others are handed out -/

/-- Tasks that no worker is use the queue. -/
theorem after?_outside {fs : List (QueueEvent κ)} {s : QueueRun κ}
    (h : p.toQueueRun.after? fs = some s) (hfs : ∀ f ∈ fs, f.task? = none) :
    p.after? (fs.map .outside) = some { p with toQueueRun := s } := by
  induction fs generalizing p with
  | nil => cases h; rfl
  | cons f fs ih =>
    obtain ⟨u, hu, h⟩ := QueueRun.after?_cons.1 h
    have ht : f.task? = none := hfs f List.mem_cons_self
    rw [List.map_cons, after?_cons]
    refine ⟨{ p with toQueueRun := u }, ?_, ih h fun g hg => hfs g (List.mem_cons_of_mem _ hg)⟩
    simp only [occur?, ht, Option.all_none, if_true, hu, Option.map_some]

theorem exists_working {l : κ} {rest : List κ} (hw : p.workers[w]? = some .asking)
    (hs : p.queue.isShutDown = false) (hq : p.queue.queue = l :: rest) :
    ∃ q, p.occur? (.ask w) = some q ∧ q.workers[w]? = some (.working l) ∧
      q.queue.isShutDown = false ∧ q.queue.queue = rest ∧ l ∈ q.queue.processing := by
  have hlt : w < p.workers.length := (List.getElem?_eq_some_iff.1 hw).1
  have hp := WorkQueue.poll_of_cons hs hq w
  simp only [occur?, hw, withPool, pool, Pool.ask, hp, hlt, List.getElem?_set_self]
  refine ⟨_, rfl, List.getElem?_set_self hlt, hs, rfl, ?_⟩
  exact List.mem_insert_self

theorem occur?_endPass {outcome : Except Retry Requeue} (hw : p.workers[w]? = some (.working k)) :
    p.occur? (.endPass w (.returned outcome)) =
      some { p with workers := p.workers.set w (.returned k outcome) } := by
  simp only [occur?, hw, withPool, pool, Pool.endPass]

theorem occur?_account_of_awaitsChange {outcome : Except Retry Requeue}
    (hw : p.workers[w]? = some (.returned k outcome)) (ho : awaitsChange outcome = true) :
    p.occur? (.account w) = some { p with
      queue := p.queue.forget k
      workers := p.workers.set w (.accounted k none) } := by
  rw [occur?_account hw, WorkQueue.account_of_awaitsChange _ _ ho,
    WorkQueue.askedDelay?_of_awaitsChange _ _ ho]

theorem occur?_schedule (hw : p.workers[w]? = some (.accounted k none)) :
    p.occur? (.schedule w) = some { p with workers := p.workers.set w (.scheduled k) } := by
  simp only [occur?, hw, withPool, pool, Pool.schedule]

theorem occur?_release (hw : p.workers[w]? = some (.scheduled k)) :
    p.occur? (.release w) = some { p with
      queue := p.queue.done k
      held := p.held.erase (w, k)
      workers := p.workers.set w .asking } := by
  simp only [occur?, hw, withPool, pool, Pool.release]

theorem after?_close {outcome : Except Retry Requeue}
    (hw : p.workers[w]? = some (.returned k outcome)) (ho : awaitsChange outcome = true) :
    p.after? ([.account w, .schedule w] ++ [.release w]) = some { p with
      queue := (p.queue.forget k).done k
      held := p.held.erase (w, k)
      workers := p.workers.set w .asking } := by
  have hlt : w < p.workers.length := (List.getElem?_eq_some_iff.1 hw).1
  rw [List.cons_append, after?_cons]
  refine ⟨_, occur?_account_of_awaitsChange hw ho, ?_⟩
  rw [List.cons_append, after?_cons]
  refine ⟨_, occur?_schedule (List.getElem?_set_self hlt), ?_⟩
  rw [List.nil_append, after?_cons]
  refine ⟨_, occur?_release (List.getElem?_set_self (by simpa using hlt)), ?_⟩
  simp only [List.set_set, after?_nil]

theorem exists_asking {l : κ} {rest : List κ} (hw : p.workers[w]? = some .asking)
    (hs : p.queue.isShutDown = false) (hq : p.queue.queue = l :: rest) :
    ∃ es q, p.after? es = some q ∧ (∀ e, .outside e ∉ es) ∧ q.workers[w]? = some .asking ∧
      q.queue.isShutDown = false ∧ rest <+: q.queue.queue := by
  obtain ⟨r, hr, hwr, hsr, hqr, -⟩ := exists_working hw hs hq
  have hlt : w < r.workers.length := (List.getElem?_eq_some_iff.1 hwr).1
  have hend : r.occur? (.endPass w (.returned (.ok .awaitChange))) = _ := occur?_endPass hwr
  have hclose := after?_close
    (p := { r with workers := r.workers.set w (.returned l (.ok .awaitChange)) })
    (List.getElem?_set_self hlt) rfl
  refine ⟨.ask w :: .endPass w (.returned (.ok .awaitChange)) ::
    ([.account w, .schedule w] ++ [.release w]), _,
    after?_cons.2 ⟨r, hr, after?_cons.2 ⟨_, hend, hclose⟩⟩, by simp, ?_, ?_, ?_⟩
  · exact List.getElem?_set_self (by simpa using hlt)
  · exact ((r.queue.forget l).isShutDown_done l).trans hsr
  · rw [← hqr]
    exact (r.queue.forget l).queue_prefix_done l

/-- A worker that asks is handed every queued key in the end. -/
theorem exists_handed {front back : List κ} (hw : p.workers[w]? = some .asking)
    (hs : p.queue.isShutDown = false) (hq : p.queue.queue = front ++ k :: back) :
    ∃ es q, p.after? es = some q ∧ (∀ e, .outside e ∉ es) ∧ k ∈ q.queue.processing := by
  induction front generalizing p back with
  | nil =>
    obtain ⟨q, hpq, -, -, -, hk⟩ := exists_working hw hs hq
    exact ⟨[.ask w], q, after?_cons.2 ⟨q, hpq, after?_nil q⟩, by simp, hk⟩
  | cons l front ih =>
    obtain ⟨es, r, hr, hes, hwr, hsr, added, hqr⟩ := exists_asking hw hs hq
    have hqr : front ++ k :: (back ++ added) = r.queue.queue := by simpa using hqr
    obtain ⟨fs, q, hq, hfs, hk⟩ := ih hwr hsr hqr.symm
    refine ⟨es ++ fs, q, after?_append.2 ⟨r, hr, hq⟩, fun e he => ?_, hk⟩
    exact (List.mem_append.1 he).elim (hes e) (hfs e)

/-- A key that is not resting when its pass ends is handed out to the worker that had it, when time
passes. -/
theorem exists_handed_again {outcome : Except Retry Requeue}
    (hw : p.workers[w]? = some (.returned k outcome)) (ho : awaitsChange outcome = true)
    (ha : p.timing.IsArmed) (hr : ¬ p.IsResting k) :
    ∃ mid rest q, p.after? (mid ++ .release w :: rest) = some q ∧ .release w ∉ mid ∧
      (∀ e, .outside e ∈ mid ++ rest → e.requested? = none) ∧ k ∈ q.queue.processing := by
  obtain ⟨fs, s, hs, hk, hns, hfs⟩ := QueueRun.exists_dirty hr ha
  have hout := after?_outside hs fun f hf => (hfs f hf).1
  have hclose := after?_close (p := { p with toQueueRun := s }) hw ho
  have hlt : w < p.workers.length := (List.getElem?_eq_some_iff.1 hw).1
  have hq : ((s.queue.forget k).done k).queue = s.queue.queue ++ k :: [] :=
    WorkQueue.done_of_mem_dirty (q := s.queue.forget k) hk hns
  obtain ⟨rest, q, hrest, hno, hkq⟩ := exists_handed (p := { p with
      toQueueRun := { s with
        queue := (s.queue.forget k).done k
        held := s.held.erase (w, k) }
      workers := p.workers.set w .asking })
    (List.getElem?_set_self hlt) (((s.queue.forget k).isShutDown_done k).trans hns) hq
  refine ⟨fs.map .outside ++ [.account w, .schedule w], rest, q, ?_, by simp, fun e he => ?_, hkq⟩
  · rw [List.append_assoc, after?_append]
    refine ⟨_, hout, ?_⟩
    rw [List.append_cons _ _ rest, after?_append]
    exact ⟨_, hclose, hrest⟩
  · rcases List.mem_append.1 he with he | he
    · have hf : e ∈ fs := by simpa using he
      exact (hfs e hf).2
    · exact absurd he (hno e)

/-! ## Every run -/

theorem Step.isArmed (h : Step p e q) (hp : p.IsStaffed) (ha : p.timing.IsArmed) :
    q.timing.IsArmed := by
  obtain ⟨fs, hfs, -⟩ := h.exists_after? hp
  exact invariant_of_foldlM (fun _ _ _ h => QueueRun.isArmed_of_occur? h) hfs ha

theorem isArmed_of_after? {policy : BackoffPolicy}
    (h : (start policy size).after? es = some p) : p.timing.IsArmed := by
  have hstart : (start policy size : PoolRun κ).timing.IsArmed := fun _ _ hd => by cases hd
  have hinv := invariant_of_foldlM (P := fun p : PoolRun κ => p.IsSound size ∧ p.timing.IsArmed)
    (fun _ _ _ h hp => ⟨(occur?_step h).isSound hp.1, (occur?_step h).isArmed hp.1.staffed hp.2⟩)
    h ⟨.start policy size, hstart⟩
  exact hinv.2

end PoolRun

/-- A key whose pass ends in awaiting a change, and that nobody asks for from then on, is never
handed out again exactly if it was resting when its pass ended. Otherwise a signal during the pass,
or a delayed add of an earlier pass, hands it out once more. -/
theorem never_handed_out_iff_resting (policy : BackoffPolicy) {size : Nat}
    {history : List (PoolEvent κ)} {p : PoolRun κ}
    (h : (PoolRun.start policy size).after? history = some p) {w : Nat} {k : κ}
    {outcome : Except Retry Requeue} (hw : p.workers[w]? = some (.returned k outcome))
    (ho : awaitsChange outcome = true) :
    (∀ mid rest q, p.after? (mid ++ .release w :: rest) = some q → .release w ∉ mid →
        (∀ e, .outside e ∈ mid ++ rest → e.requested? ≠ some k) → k ∉ q.queue.processing) ↔
      p.IsResting k := by
  have hp := PoolRun.isSound_of_after? h (.start policy size)
  constructor
  · intro hnever
    by_contra hr
    obtain ⟨mid, rest, q, hq, hmid, hreq, hk⟩ :=
      PoolRun.exists_handed_again hw ho (PoolRun.isArmed_of_after? h) hr
    refine hnever mid rest q hq hmid (fun e he => ?_) hk
    rw [hreq e he]
    exact Option.some_ne_none k |>.symm
  · intro hr mid rest q hq hmid hreq
    obtain ⟨r, hpr, hq⟩ := PoolRun.after?_append.1 hq
    obtain ⟨u, hru, hq⟩ := PoolRun.after?_cons.1 hq
    obtain ⟨hrs, hrr, y, hwr, hy⟩ := PoolRun.isResting_of_closing hpr hp hw
      (show (Worker.returned k outcome).IsClosing k from ⟨rfl, ho⟩) hr
      (fun e he => hreq e (List.mem_append_left _ he)) hmid
    obtain ⟨hur, hku⟩ := PoolRun.isResting_of_release hru hrs.staffed hwr hy hrr
    exact PoolRun.not_mem_processing_of_resting hq ((PoolRun.occur?_step hru).isSound hrs) hur hku
      fun e he => hreq e (List.mem_append_right _ he)

/-- A key whose first pass fails, and whose retry awaits a change, is not handed out again. -/
theorem never_handed_out_after_retry :
    ∃ p : PoolRun Nat,
      (PoolRun.start {} 1).after? [.outside (.add 7), .ask 0,
        .endPass 0 (.returned (.error .backoff)), .account 0, .schedule 0, .release 0,
        .outside (.tick 1000000000), .outside (.expire ⟨7, 1000000000⟩), .outside (.ring 7), .ask 0,
        .endPass 0 (.returned (.ok .awaitChange))] = some p ∧
      p.workers[0]? = some (.returned 7 (.ok .awaitChange)) ∧ p.IsResting 7 ∧
      ∀ mid rest q, p.after? (mid ++ .release 0 :: rest) = some q → .release 0 ∉ mid →
        (∀ e, .outside e ∈ mid ++ rest → e.requested? ≠ some 7) → 7 ∉ q.queue.processing := by
  obtain ⟨p, hp, hw, hr⟩ : ∃ p : PoolRun Nat,
      (PoolRun.start {} 1).after? [.outside (.add 7), .ask 0,
        .endPass 0 (.returned (.error .backoff)), .account 0, .schedule 0, .release 0,
        .outside (.tick 1000000000), .outside (.expire ⟨7, 1000000000⟩), .outside (.ring 7), .ask 0,
        .endPass 0 (.returned (.ok .awaitChange))] = some p ∧
      p.workers[0]? = some (.returned 7 (.ok .awaitChange)) ∧ p.IsResting 7 :=
    ⟨_, rfl, rfl, Or.inr ⟨by decide, rfl, by decide⟩⟩
  exact ⟨p, hp, hw, hr, (never_handed_out_iff_resting {} hp hw rfl).2 hr⟩

/-- A back-off timer of an earlier pass hands out a key that awaits a change. The first pass fails
and is to be retried after a second; the second pass, for a signal, starts at once and awaits a
change; nobody asks for the key from then on. -/
theorem handed_out_after_awaiting_change :
    ¬ ∀ (before during mid rest : List (PoolEvent Nat)) (p q : PoolRun Nat)
      (outcome : Except Retry Requeue),
      (PoolRun.start {} 1).after? (before ++ .ask 0 :: during) = some p →
      p.workers[0]? = some (.returned 7 outcome) → awaitsChange outcome = true →
      p.after? (mid ++ .release 0 :: rest) = some q → .ask 0 ∉ during → .release 0 ∉ mid →
      (∀ e, .outside e ∈ during ++ mid ++ rest → e.requested? ≠ some 7) →
      7 ∉ q.queue.processing := by
  intro h
  let before : List (PoolEvent Nat) := [.outside (.add 7), .ask 0,
    .endPass 0 (.returned (.error .backoff)), .account 0, .schedule 0, .release 0,
    .outside (.add 7)]
  let deadline : Nat := 1000000000
  let rest : List (PoolEvent Nat) := [.outside (.tick deadline), .outside (.expire ⟨7, deadline⟩),
    .outside (.ring 7), .ask 0]
  refine h before [.endPass 0 (.returned (.ok .awaitChange))] [.account 0, .schedule 0] rest _ _
    (.ok .awaitChange) rfl rfl rfl rfl ?_ ?_ ?_ ?_
  · simp
  · simp
  · simp [rest, QueueEvent.requested?]
  · decide

end ClusterOperator

import ClusterOperator.Proofs.Queue.Wakefulness

/-!
# A queue that is shut down

After the shutdown nothing is queued, scheduled or handed out any more, and every call is told so.

* `WorkQueue.IsClosed` : nothing is queued or scheduled, nor will be; `CallRun.Step.closed`, which
  lasts, while keys leave processing and none is handed out;
* `CallRun.HasKey` : a call was handed a key and has not returned; `CallRun.Step.hasKey`, it was so
  before the shutdown;
* `CallRun.IsReleased` : once all are rung for, no call is blocked; `CallRun.Step.isReleased`;
* `CallStage.stepsLeft` : how many steps a call has still to take; `CallRun.Step.stepsLeft`, its own
  steps bring it closer to its end, and the others leave it where it is;
* `CallRun.EndsWithin` : a call ends by a few steps of its own, whatever the others do;
  `CallRun.endsWithin_of_closed`.
-/

namespace ClusterOperator

/-! ## Signals after the shutdown -/

/-- Nothing is queued or scheduled, nor will be. -/
structure WorkQueue.IsClosed {κ : Type} (q : WorkQueue κ) : Prop where
  isShutDown : q.isShutDown = true
  queue : q.queue = []
  scheduled : q.scheduled = {}

namespace WorkQueue

variable {κ : Type} [DecidableEq κ] {q : WorkQueue κ}

theorem IsClosed.add_eq (h : q.IsClosed) (k : κ) : q.add k = q :=
  if_pos (.inl h.isShutDown)

theorem IsClosed.addAfter_eq (h : q.IsClosed) (now : Nat) (k : κ) (delay : Duration) :
    q.addAfter now k delay = q := by
  have hadded := q.addedAfter_addAfter now k delay
  generalize q.addAfter now k delay = r at hadded ⊢
  cases hadded with
  | atOnce => exact h.add_eq k
  | kept => rfl
  | set _ _ hs =>
    rw [h.isShutDown] at hs
    cases hs

theorem IsClosed.expire_eq (h : q.IsClosed) (a : Alarm κ) :
    q.expire a = (false, { q with alarms := q.alarms.erase a }) := by
  unfold expire
  exact if_neg (by simp [h.scheduled])

theorem IsClosed.done_eq (h : q.IsClosed) (k : κ) :
    q.done k = { q with processing := q.processing.filter (· ≠ k) } := by
  unfold done
  exact if_neg (by simp [h.isShutDown])

end WorkQueue

namespace QueueRun

variable {κ : Type} [DecidableEq κ] {s t : QueueRun κ}

/-- Signals, timers and counts of failures bring nothing back. -/
theorem closed_of_plain {e : QueueEvent κ} (he : e.isPlain = true) (h : s.occur? e = some t)
    (hs : s.queue.IsClosed) :
    t.queue.IsClosed ∧ t.queue.processing = s.queue.processing := by
  cases e with
  | add k =>
    cases h
    rw [hs.add_eq]
    exact ⟨hs, rfl⟩
  | addAfter k delay =>
    cases h
    rw [hs.addAfter_eq]
    exact ⟨hs, rfl⟩
  | countFailure | forget | tick =>
    cases h
    exact ⟨⟨hs.isShutDown, hs.queue, hs.scheduled⟩, rfl⟩
  | expire a =>
    rw [occur?] at h
    split at h
    · rw [hs.expire_eq] at h
      cases h
      exact ⟨⟨hs.isShutDown, hs.queue, hs.scheduled⟩, rfl⟩
    · cases h
  | ring k =>
    rw [occur?] at h
    split at h
    · cases h
      rw [hs.add_eq]
      exact ⟨hs, rfl⟩
    · cases h
  | next | abandon | done | shutDown => cases he

end QueueRun

/-! ## Calls after the shutdown -/

/-- How many steps a call has still to take, when it is not blocked and there is no key. -/
def CallStage.stepsLeft {κ : Type} : CallStage κ → Nat
  | .asleep => 4
  | .arriving => 3
  | .looking => 2
  | .leaving _ => 1

def CallEvent.isStepOf {κ : Type} (task : Nat) : CallEvent κ → Bool
  | .enlist x | .look x _ | .leave x _ | .wake x => x = task
  | _ => false

/-- A call is over: it returns, or is dropped. -/
def CallEvent.isEndOf {κ : Type} (task : Nat) : CallEvent κ → Bool
  | .leave x _ | .drop x => x = task
  | _ => false

namespace CallRun

variable {κ : Type}

def HasKey (s : CallRun κ) (task : Nat) : Prop :=
  ∃ k, (task, .leaving (some k)) ∈ s.calls

/-- Once all are rung for, no call is blocked. -/
def IsReleased (s : CallRun κ) : Prop :=
  s.closing = 0 → ∀ task, ¬ s.IsBlocked task

theorem calls_of_released {s : CallRun κ} (hs : s.IsReleased) (hclosing : s.closing = 0)
    (hq : s.IsQuiescent) : s.calls = [] := by
  rw [List.eq_nil_iff_forall_not_mem]
  rintro ⟨task, stage⟩ hm
  obtain ⟨rfl, hw⟩ := hq.blocked _ hm
  exact hs hclosing task ⟨hm, hw⟩

variable [DecidableEq κ]

/-- As long as a call is not over, it has taken fewer than `n` steps, whatever the others do, and
can take the next one when all are rung for. -/
def EndsWithin (n task : Nat) (s : CallRun κ) : Prop :=
  ∀ es t, s.after? es = some t → (∀ e ∈ es, e.isEndOf task = false) →
    es.countP (·.isStepOf task) < n ∧
      (t.closing = 0 → ∃ e, e.isStepOf task = true ∧ (t.occur? e).isSome = true)

variable {s t : CallRun κ} {e : CallEvent κ} {es : List (CallEvent κ)} {task : Nat}

/-- A closed queue stays closed, keys only leave processing, and a look answers so. -/
theorem Step.closed (h : Step s e t) (hs : s.queue.IsClosed) :
    t.queue.IsClosed ∧ t.queue.processing ⊆ s.queue.processing ∧
      ∀ x got, e = .look x got → got = .shutDown := by
  cases h with
  | outside he hu =>
    obtain ⟨hclosed, hprocessing⟩ := QueueRun.closed_of_plain he hu hs
    exact ⟨⟨hclosed.isShutDown, hclosed.queue, hclosed.scheduled⟩, fun k hk => hprocessing ▸ hk,
      by simp⟩
  | @done k =>
    rw [hs.done_eq k]
    exact ⟨⟨hs.isShutDown, hs.queue, hs.scheduled⟩, fun l hl => List.mem_of_mem_filter hl, by simp⟩
  | shutDown => exact ⟨⟨rfl, rfl, rfl⟩, fun _ => id, by simp⟩
  | @looked x got hm hgot =>
    have hpoll := WorkQueue.poll_of_isShutDown hs.isShutDown x
    rw [hpoll] at hgot
    subst hgot
    rw [hpoll]
    refine ⟨⟨hs.isShutDown, hs.queue, hs.scheduled⟩, fun _ => id, fun y got he => ?_⟩
    cases he
    rfl
  | _ => exact ⟨⟨hs.isShutDown, hs.queue, hs.scheduled⟩, fun _ => id, by simp⟩

theorem Step.hasKey (h : Step s e t) (hs : s.queue.IsClosed) (ht : t.HasKey task) :
    s.HasKey task := by
  obtain ⟨k, hk⟩ := ht
  have hlook := (h.closed hs).2.2
  cases h with
  | called hn => exact ⟨k, by simpa using hk⟩
  | enlisted | woke =>
    rcases mem_moved hk with hk | hk
    · exact ⟨k, hk⟩
    · cases hk
  | @looked x got hm hgot =>
    have hgot := hlook x got rfl
    subst hgot
    rcases mem_moved hk with hk | hk
    · exact ⟨k, hk⟩
    · cases hk
  | left | dropped => exact ⟨k, List.mem_of_mem_erase hk⟩
  | _ => exact ⟨k, hk⟩

theorem Step.isReleased (h : Step s e t) (hs : s.queue.IsClosed) (ho : s.IsOrderly)
    (hr : s.IsReleased) : t.IsReleased := by
  intro hclosing x hx
  have hbefore : s.IsBlocked x := by
    refine (h.isBlocked ho hx).resolve_right fun he => ?_
    cases (h.closed hs).2.2 x .pending he
  cases h with
  | shutDown => exact absurd hclosing (Nat.succ_ne_zero _)
  | rungAll => cases hx.2
  | _ => exact hr hclosing x hbefore

theorem stepsLeft_moved {x : Nat} {stage before next : CallStage κ} (ho : s.IsOrderly)
    (hm : (task, stage) ∈ s.calls) (hx : (x, before) ∈ s.calls)
    (hnext : next.stepsLeft + 1 = before.stepsLeft) :
    ∃ after, (task, after) ∈ s.moved x before next ∧
      after.stepsLeft + (if decide (x = task) then 1 else 0) = stage.stepsLeft := by
  by_cases hne : x = task
  · subst hne
    cases ho.stage_unique hm hx
    rw [if_pos (decide_eq_true rfl)]
    exact ⟨next, List.mem_append_right _ (List.mem_singleton_self _), hnext⟩
  · rw [if_neg (by simp [hne])]
    exact ⟨stage, mem_moved_of_ne hm (Ne.symm hne), rfl⟩

/-- A step of a call brings it closer to its end, and the others leave it where it is. -/
theorem Step.stepsLeft {stage : CallStage κ} (h : Step s e t) (hs : s.queue.IsClosed)
    (ho : s.IsOrderly) (hm : (task, stage) ∈ s.calls) (he : e.isEndOf task = false) :
    ∃ next, (task, next) ∈ t.calls ∧
      next.stepsLeft + (if e.isStepOf task then 1 else 0) = stage.stepsLeft := by
  have hlook := (h.closed hs).2.2
  cases h with
  | called => exact ⟨stage, List.mem_append_left _ hm, rfl⟩
  | enlisted hx => exact stepsLeft_moved ho hm hx rfl
  | @looked x got hx =>
    have hgot := hlook x got rfl
    subst hgot
    exact stepsLeft_moved ho hm hx rfl
  | @left x answer hx =>
    have hne : x ≠ task := by simpa [CallEvent.isEndOf] using he
    refine ⟨stage, ?_, by simp [CallEvent.isStepOf, hne]⟩
    exact (List.mem_erase_of_ne fun e => hne (congrArg Prod.fst e).symm).2 hm
  | woke hx => exact stepsLeft_moved ho hm hx rfl
  | @dropped x hx =>
    have hne : x ≠ task := by simpa [CallEvent.isEndOf] using he
    refine ⟨stage, ?_, rfl⟩
    exact (List.mem_erase_of_ne fun e => hne (congrArg Prod.fst e).symm).2 hm
  | _ => exact ⟨stage, hm, rfl⟩

theorem exists_step {stage : CallStage κ} (hs : s.queue.IsClosed) (hm : (task, stage) ∈ s.calls)
    (hb : ¬ s.IsBlocked task) : ∃ e, e.isStepOf task = true ∧ (s.occur? e).isSome = true := by
  cases stage with
  | arriving => exact ⟨.enlist task, by simp [CallEvent.isStepOf], by simp [occur?, hm]⟩
  | looking =>
    refine ⟨.look task .shutDown, by simp [CallEvent.isStepOf], ?_⟩
    simp [occur?, WorkQueue.poll_of_isShutDown hs.isShutDown, hm]
  | asleep =>
    have hw : task ∉ s.queue.room.waiting := fun hw => hb ⟨hm, hw⟩
    exact ⟨.wake task, by simp [CallEvent.isStepOf], by simp [occur?, hm, hw]⟩
  | leaving answer =>
    exact ⟨.leave task answer, by simp [CallEvent.isStepOf], by simp [occur?, hm]⟩

/-! ## Runs after the shutdown -/

/-- A queue is shut down, and the calls that wait are rung for, or are to be. -/
structure IsShutting (s : CallRun κ) : Prop where
  closed : s.queue.IsClosed
  orderly : s.IsOrderly
  released : s.IsReleased

theorem Step.isShutting (h : Step s e t) (hs : s.IsShutting) : t.IsShutting :=
  ⟨(h.closed hs.closed).1, h.isOrderly hs.orderly, h.isReleased hs.closed hs.orderly hs.released⟩

theorem isShutting_of_after? (h : s.after? es = some t) (hs : s.IsShutting) : t.IsShutting :=
  invariant_of_foldlM (fun _ _ _ h => (occur?_step h).isShutting) h hs

theorem isShutting_of_shutDown (hs : s.IsOrderly) (h : s.occur? .shutDown = some t) :
    t.IsShutting := by
  have ho := (occur?_step h).isOrderly hs
  cases h
  exact ⟨⟨rfl, rfl, rfl⟩, ho, fun h => absurd h (Nat.succ_ne_zero _)⟩

theorem keys_of_after? (h : s.after? es = some t) (hs : s.IsShutting) :
    t.queue.processing ⊆ s.queue.processing ∧ ∀ task, t.HasKey task → s.HasKey task := by
  refine (invariant_of_foldlM (P := fun u : CallRun κ => u.IsShutting ∧
    u.queue.processing ⊆ s.queue.processing ∧ ∀ task, u.HasKey task → s.HasKey task)
    (fun u v e h hu => ?_) h ⟨hs, fun _ => id, fun _ => id⟩).2
  obtain ⟨hshut, hprocessing, hkey⟩ := hu
  have hstep := occur?_step h
  exact ⟨hstep.isShutting hshut,
    List.Subset.trans (hstep.closed hshut.closed).2.1 hprocessing,
    fun task hv => hkey task (hstep.hasKey hshut.closed hv)⟩

theorem exists_step_of_mem (h : s.after? es = some t) (hs : s.IsShutting) (he : e ∈ es) :
    ∃ u v, Step u e v ∧ u.IsShutting ∧ ∀ task, u.HasKey task → s.HasKey task := by
  obtain ⟨before, after, rfl⟩ := List.append_of_mem he
  obtain ⟨u, hu, hrest⟩ := after?_append.1 h
  obtain ⟨v, hv, -⟩ := after?_cons.1 hrest
  exact ⟨u, v, occur?_step hv, isShutting_of_after? hu hs, (keys_of_after? hu hs).2⟩

theorem handed?_of_after? (h : s.after? es = some t) (hs : s.IsShutting) (he : e ∈ es) :
    e.handed? = none := by
  obtain ⟨u, v, hstep, hu, -⟩ := exists_step_of_mem h hs he
  cases e with
  | look x got => rw [(hstep.closed hu.closed).2.2 x got rfl]; rfl
  | _ => rfl

/-- A call that had no key returns none. -/
theorem leave_of_after? (h : s.after? es = some t) (hs : s.IsShutting) (hk : ¬ s.HasKey task)
    (k : κ) : .leave task (some k) ∉ es := fun he => by
  obtain ⟨u, v, hstep, -, hkeys⟩ := exists_step_of_mem h hs he
  cases hstep with
  | left hm => exact hk (hkeys task ⟨k, hm⟩)

theorem stepsLeft_of_after? {stage : CallStage κ} (h : s.after? es = some t) (hs : s.IsShutting)
    (hm : (task, stage) ∈ s.calls) (hes : ∀ e ∈ es, e.isEndOf task = false) :
    ∃ next, (task, next) ∈ t.calls ∧
      next.stepsLeft + es.countP (·.isStepOf task) = stage.stepsLeft := by
  induction es generalizing s stage with
  | nil => cases h; exact ⟨stage, hm, rfl⟩
  | cons e es ih =>
    obtain ⟨u, hu, h⟩ := after?_cons.1 h
    have hstep := occur?_step hu
    obtain ⟨he, hes⟩ := List.forall_mem_cons.1 hes
    obtain ⟨mid, hmid, hone⟩ := hstep.stepsLeft hs.closed hs.orderly hm he
    obtain ⟨last, hlast, hrest⟩ := ih h (hstep.isShutting hs) hmid hes
    refine ⟨last, hlast, ?_⟩
    rw [List.countP_cons]
    omega

theorem endsWithin_of_closed {stage : CallStage κ} (hs : s.IsShutting)
    (hm : (task, stage) ∈ s.calls) : s.EndsWithin 4 task := by
  intro es t h hes
  obtain ⟨last, hlast, hsteps⟩ := stepsLeft_of_after? h hs hm hes
  have ht := isShutting_of_after? h hs
  refine ⟨?_, fun hclosing => exists_step ht.closed hlast (ht.released hclosing task)⟩
  have hpos : 0 < last.stepsLeft := by cases last <;> simp [CallStage.stepsLeft]
  have hle : stage.stepsLeft ≤ 4 := by cases stage <;> simp [CallStage.stepsLeft]
  omega

end CallRun

end ClusterOperator

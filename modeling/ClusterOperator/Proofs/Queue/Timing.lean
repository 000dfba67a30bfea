import ClusterOperator.Proofs.Queue.Run

/-!
# Delayed adds

A delayed add of a key has a deadline and an alarm. When the alarm is over and its deadline still
counts, an add is left behind, which is made later.

* `Timing` : the time, the deadlines that count, the alarms, and the adds that alarms have left;
* `Timing.Step` : the ways in which an event changes them;
* `QueueRun.occur?_timing` : every event of a run changes them so;
* `Timing.IsArmed` : a deadline that counts has its alarm; `QueueRun.isArmed_of_occur?`.
-/

namespace ClusterOperator

/-- The delayed adds of a queue. -/
structure Timing (κ : Type) where
  now : Nat
  scheduled : Dict κ Nat
  alarms : List (Alarm κ)
  due : List κ

def QueueRun.timing {κ : Type} (s : QueueRun κ) : Timing κ where
  now := s.now
  scheduled := s.queue.scheduled
  alarms := s.queue.alarms
  due := s.due

/-- The event is not about time, though it may set an alarm. -/
def QueueEvent.isTimeless {κ : Type} : QueueEvent κ → Bool
  | .expire _ | .ring _ | .tick _ | .shutDown => false
  | _ => true

namespace Timing

variable {κ : Type} [DecidableEq κ]

/-- The ways in which an event changes the delayed adds. -/
inductive Step : Timing κ → QueueEvent κ → Timing κ → Prop where
  | kept {s e} (h : e.isTimeless = true) : Step s e s
  | armed {s k delay} :
      Step s (.addAfter k delay) { s with
        scheduled := s.scheduled.insert k (s.now + delay.nanos)
        alarms := s.alarms ++ [⟨k, s.now + delay.nanos⟩] }
  | expired {s a} (h : s.scheduled.get? a.key = some a.deadline) :
      Step s (.expire a) { s with
        scheduled := s.scheduled.erase a.key
        alarms := s.alarms.erase a
        due := s.due ++ [a.key] }
  /-- The deadline of the alarm does not count any more. -/
  | superseded {s a} (h : s.scheduled.get? a.key ≠ some a.deadline) :
      Step s (.expire a) { s with alarms := s.alarms.erase a }
  | rung {s k} (h : k ∈ s.due) : Step s (.ring k) { s with due := s.due.erase k }
  | passed {s nanos} : Step s (.tick nanos) { s with now := s.now + nanos }
  | closed {s} : Step s .shutDown { s with scheduled := {} }

end Timing

/-! ## The events of a run -/

namespace WorkQueue

variable {κ : Type} [DecidableEq κ]

/-- An add of a key is about keys and waiting tasks only, as handing out and finishing are. -/
theorem add_eq (q : WorkQueue κ) (k : κ) :
    ∃ queue dirty room, q.add k = { q with queue, dirty, room } := by
  unfold add
  split
  · exact ⟨_, _, _, rfl⟩
  · split <;> exact ⟨_, _, _, rfl⟩

theorem poll_eq (q : WorkQueue κ) (task : Nat) :
    ∃ queue dirty processing room,
      (q.poll task).2 = { q with queue, dirty, processing, room } := by
  unfold poll
  dsimp only
  split
  · exact ⟨_, _, _, _, rfl⟩
  · split <;> exact ⟨_, _, _, _, rfl⟩

theorem done_eq (q : WorkQueue κ) (k : κ) :
    ∃ queue room, q.done k =
      { q with queue, processing := q.processing.filter (· ≠ k), room } := by
  unfold done
  dsimp only
  split <;> exact ⟨_, _, rfl⟩

theorem scheduled_add (q : WorkQueue κ) (k : κ) : (q.add k).scheduled = q.scheduled := by
  obtain ⟨_, _, _, h⟩ := q.add_eq k
  rw [h]

theorem alarms_add (q : WorkQueue κ) (k : κ) : (q.add k).alarms = q.alarms := by
  obtain ⟨_, _, _, h⟩ := q.add_eq k
  rw [h]

theorem isShutDown_add (q : WorkQueue κ) (k : κ) : (q.add k).isShutDown = q.isShutDown := by
  obtain ⟨_, _, _, h⟩ := q.add_eq k
  rw [h]

theorem scheduled_poll (q : WorkQueue κ) (task : Nat) :
    (q.poll task).2.scheduled = q.scheduled := by
  obtain ⟨_, _, _, _, h⟩ := q.poll_eq task
  rw [h]

theorem alarms_poll (q : WorkQueue κ) (task : Nat) : (q.poll task).2.alarms = q.alarms := by
  obtain ⟨_, _, _, _, h⟩ := q.poll_eq task
  rw [h]

theorem isShutDown_poll (q : WorkQueue κ) (task : Nat) :
    (q.poll task).2.isShutDown = q.isShutDown := by
  obtain ⟨_, _, _, _, h⟩ := q.poll_eq task
  rw [h]

theorem scheduled_done (q : WorkQueue κ) (k : κ) : (q.done k).scheduled = q.scheduled := by
  obtain ⟨_, _, h⟩ := q.done_eq k
  rw [h]

theorem alarms_done (q : WorkQueue κ) (k : κ) : (q.done k).alarms = q.alarms := by
  obtain ⟨_, _, h⟩ := q.done_eq k
  rw [h]

theorem isShutDown_done (q : WorkQueue κ) (k : κ) : (q.done k).isShutDown = q.isShutDown := by
  obtain ⟨_, _, h⟩ := q.done_eq k
  rw [h]

theorem not_mem_processing_done (q : WorkQueue κ) (k : κ) : k ∉ (q.done k).processing := by
  obtain ⟨_, _, h⟩ := q.done_eq k
  rw [h]
  simp

end WorkQueue

namespace QueueRun

variable {κ : Type} [DecidableEq κ] {s t : QueueRun κ}

/-- An event that leaves the time and the alarms of a queue alone. -/
theorem timing_kept {e : QueueEvent κ} (he : e.isTimeless = true) (hnow : t.now = s.now)
    (hs : t.queue.scheduled = s.queue.scheduled) (ha : t.queue.alarms = s.queue.alarms)
    (hdue : t.due = s.due) : s.timing.Step e t.timing := by
  have h : t.timing = s.timing := by
    unfold timing
    rw [hnow, hs, ha, hdue]
  rw [h]
  exact .kept he

theorem timing_addAfter (s : QueueRun κ) (k : κ) (delay : Duration) :
    s.timing.Step (.addAfter k delay)
      ({ s with queue := s.queue.addAfter s.now k delay } : QueueRun κ).timing := by
  have h := s.queue.addedAfter_addAfter s.now k delay
  generalize s.queue.addAfter s.now k delay = q at h ⊢
  cases h with
  | atOnce => exact timing_kept rfl rfl (s.queue.scheduled_add k) (s.queue.alarms_add k) rfl
  | kept => exact .kept rfl
  | set => exact .armed

theorem timing_expire (s : QueueRun κ) (a : Alarm κ) :
    s.timing.Step (.expire a) ({ s with
      queue := (s.queue.expire a).2
      due := if (s.queue.expire a).1 then s.due ++ [a.key] else s.due } : QueueRun κ).timing := by
  unfold WorkQueue.expire
  dsimp only
  split
  · next h => exact .expired h
  · next h => exact .superseded h

theorem occur?_timing {e : QueueEvent κ} (h : s.occur? e = some t) :
    s.timing.Step e t.timing := by
  cases e with
  | add k =>
    cases h
    exact timing_kept rfl rfl (s.queue.scheduled_add k) (s.queue.alarms_add k) rfl
  | addAfter k delay =>
    cases h
    exact timing_addAfter s k delay
  | countFailure k => cases h; exact .kept rfl
  | forget k => cases h; exact .kept rfl
  | expire a =>
    simp only [occur?] at h
    split at h
    · cases h
      exact timing_expire s a
    · cases h
  | ring k =>
    simp only [occur?] at h
    split at h
    · next hk =>
      cases h
      show s.timing.Step (.ring k)
        ⟨s.now, (s.queue.add k).scheduled, (s.queue.add k).alarms, s.due.erase k⟩
      rw [s.queue.scheduled_add, s.queue.alarms_add]
      exact .rung hk
    · cases h
  | tick nanos => cases h; exact .passed
  | next task got =>
    simp only [occur?] at h
    split at h
    · split at h <;> cases h <;>
        exact timing_kept rfl rfl (s.queue.scheduled_poll task) (s.queue.alarms_poll task) rfl
    · cases h
  | abandon task => cases h; exact .kept rfl
  | done task k =>
    simp only [occur?] at h
    split at h
    · cases h
      exact timing_kept rfl rfl (s.queue.scheduled_done k) (s.queue.alarms_done k) rfl
    · cases h
  | shutDown => cases h; exact .closed

end QueueRun

/-! ## Alarms of deadlines -/

namespace Timing

variable {κ : Type} [DecidableEq κ]

/-- A deadline that counts has its alarm. -/
def IsArmed (s : Timing κ) : Prop :=
  ∀ k d, s.scheduled.get? k = some d → ⟨k, d⟩ ∈ s.alarms

theorem Step.isArmed {s t : Timing κ} {e : QueueEvent κ} (h : s.Step e t) (hs : s.IsArmed) :
    t.IsArmed := by
  intro k d hd
  cases h with
  | kept => exact hs k d hd
  | @armed l delay =>
    rw [Dict.get?_insert] at hd
    split at hd
    · next hk =>
      cases hk
      cases hd
      exact List.mem_append_right _ (List.mem_singleton_self _)
    · exact List.mem_append_left _ (hs k d hd)
  | @expired a ha =>
    rw [Dict.get?_erase] at hd
    split at hd
    · cases hd
    · next hk =>
      have hne : (⟨k, d⟩ : Alarm κ) ≠ a := fun e => hk (congrArg Alarm.key e)
      exact (List.mem_erase_of_ne hne).2 (hs k d hd)
  | @superseded a ha =>
    have hne : (⟨k, d⟩ : Alarm κ) ≠ a := fun e => ha (by rw [← e]; exact hd)
    exact (List.mem_erase_of_ne hne).2 (hs k d hd)
  | rung => exact hs k d hd
  | passed => exact hs k d hd
  | closed => cases hd

end Timing

theorem QueueRun.isArmed_of_occur? {κ : Type} [DecidableEq κ] {s t : QueueRun κ}
    {e : QueueEvent κ} (h : s.occur? e = some t) (hs : s.timing.IsArmed) : t.timing.IsArmed :=
  (occur?_timing h).isArmed hs

end ClusterOperator

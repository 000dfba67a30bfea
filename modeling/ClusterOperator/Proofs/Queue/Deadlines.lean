import ClusterOperator.Proofs.Queue.Delivery
import ClusterOperator.Proofs.Queue.Timing

/-!
# Deadlines of delayed adds

Of several delayed adds of a key the earliest counts. Alarms are never taken back, so an alarm that
is over has to find its own deadline in force, and several may have the same one.

A task that sleeps until a deadline runs once the clock reads it, so the clock passes no deadline of
an alarm, and does not go on while an add that an alarm has left is to be made.

* `Duration.HasDeadline` : the clock reads the time at which a delay is over;
* `Timing.IsPunctual`, `QueueRun.IsPunctual` : the clock waits for the tasks in one event, and in
  a run;
* `Timing.KeepsEarliest` : a delayed add leaves the earlier deadline in force;
* `Ledger` : what the delayed adds of a key ask for and come to; `Ledger.enter`,
  `QueueRun.ledger`, the entries of an event and of a run;
* `Ledger.Fits` : the queue is in the state that the ledger tells; `Timing.PunctualStep.fits`;
* `Timing.Awaits` : an add is to come no later than at some time; `Timing.PunctualStep.awaits`;
* `earliest_deadline_met` : the earliest deadline is in force, and is met once, in time;
  `earliest_deadline_met_by_one_alarm`, by one of two alarms that have it;
* `deadline_past_end_dropped` : a deadline past the end of the clock is neither in force nor met.
-/

namespace ClusterOperator

variable {κ : Type} [DecidableEq κ]

/-- A delay that is not empty has a deadline if the clock reads the time at which it is over. A call
with a longer delay crashes. -/
def Duration.HasDeadline (delay : Duration) (now : Nat) : Prop :=
  delay.nanos ≠ 0 ∧ now + delay.nanos < clockEnd

instance (delay : Duration) (now : Nat) : Decidable (delay.HasDeadline now) :=
  inferInstanceAs (Decidable (_ ∧ _))

def QueueEvent.isDelayedAdd (k : κ) : QueueEvent κ → Bool
  | .addAfter l delay => l = k ∧ delay.nanos ≠ 0
  | _ => false

/-! ## The clock -/

namespace Timing

/-- The clock waits for the tasks that have something to do. -/
def IsPunctual (s : Timing κ) : QueueEvent κ → Prop
  | .tick nanos => nanos = 0 ∨ s.due = [] ∧ ∀ a ∈ s.alarms, s.now + nanos ≤ a.deadline
  | _ => True

instance (s : Timing κ) (e : QueueEvent κ) : Decidable (s.IsPunctual e) := by
  unfold IsPunctual
  split <;> infer_instance

/-- A delayed add leaves the earlier deadline in force, its own or the one before. -/
def KeepsEarliest (s : Timing κ) (e : QueueEvent κ) (t : Timing κ) : Prop :=
  ∀ j delay, e = .addAfter j delay → ∀ k, t.scheduled.get? k =
    if j = k ∧ delay.HasDeadline s.now then
      some ((s.scheduled.get? k).elim (s.now + delay.nanos) (min (s.now + delay.nanos)))
    else s.scheduled.get? k

/-- A step before the shutdown, in which the clock waits. -/
structure PunctualStep (s : Timing κ) (e : QueueEvent κ) (t : Timing κ) : Prop where
  step : s.Step e t
  waits : s.IsPunctual e
  keeps : s.KeepsEarliest e t
  isDue : ∀ a, e = .expire a → a.deadline ≤ s.now
  beforeShutDown : e ≠ .shutDown

end Timing

namespace QueueRun

def IsPunctual (s : QueueRun κ) : List (QueueEvent κ) → Prop
  | [] => True
  | e :: es => s.timing.IsPunctual e ∧ ∀ t ∈ s.occur? e, t.IsPunctual es

instance decidableIsPunctual (s : QueueRun κ) :
    (es : List (QueueEvent κ)) → Decidable (s.IsPunctual es)
  | [] => isTrue trivial
  | e :: es =>
    have := fun t : QueueRun κ => decidableIsPunctual t es
    inferInstanceAs (Decidable (_ ∧ ∀ t ∈ s.occur? e, t.IsPunctual es))

variable {s t u : QueueRun κ} {e : QueueEvent κ} {es : List (QueueEvent κ)}

theorem IsPunctual.of_append {fs : List (QueueEvent κ)} (h : s.IsPunctual (es ++ fs))
    (hu : s.after? es = some u) : u.IsPunctual fs := by
  induction es generalizing s with
  | nil => cases hu; exact h
  | cons e es ih =>
    obtain ⟨t, ht, hu⟩ := after?_cons.1 hu
    exact ih (h.2 t ht) hu

end QueueRun

namespace WorkQueue

variable {q : WorkQueue κ}

theorem get?_scheduled_addAfter_self (hs : q.isShutDown = false) (now : Nat) (k : κ)
    {delay : Duration} (hd : delay.HasDeadline now) :
    (q.addAfter now k delay).scheduled.get? k =
      some ((q.scheduled.get? k).elim (now + delay.nanos) (min (now + delay.nanos))) := by
  have hadded := q.addedAfter_addAfter now k delay
  generalize q.addAfter now k delay = r at hadded ⊢
  cases hadded with
  | atOnce h => exact absurd h hd.1
  | kept _ h =>
    rcases h with hend | hshut | ⟨d, hle, hk⟩
    · exact absurd hd.2 (Nat.not_lt.2 hend)
    · rw [hs] at hshut
      cases hshut
    · rw [hk]
      exact congrArg some (Nat.min_eq_right hle).symm
  | set _ _ _ hearly =>
    rw [Dict.get?_insert, if_pos rfl]
    cases hk : q.scheduled.get? k with
    | none => rfl
    | some d => exact congrArg some (Nat.min_eq_left (Nat.le_of_lt (hearly d hk))).symm

theorem get?_scheduled_addAfter_of_ne (now : Nat) {j k : κ} {delay : Duration}
    (hne : ¬ (j = k ∧ delay.HasDeadline now)) :
    (q.addAfter now j delay).scheduled.get? k = q.scheduled.get? k := by
  have hadded := q.addedAfter_addAfter now j delay
  generalize q.addAfter now j delay = r at hadded ⊢
  cases hadded with
  | atOnce => rw [scheduled_add]
  | kept => rfl
  | set hd hend =>
    have hj : k ≠ j := fun e => hne ⟨e.symm, hd, hend⟩
    exact (Dict.get?_insert _ _ _ _).trans (if_neg hj)

end WorkQueue

theorem QueueRun.punctualStep {s t : QueueRun κ} {e : QueueEvent κ} (h : s.occur? e = some t)
    (hp : s.timing.IsPunctual e) (ht : t.queue.isShutDown = false) :
    s.timing.PunctualStep e t.timing where
  step := occur?_timing h
  waits := hp
  keeps := by
    have hs := not_isShutDown_of_after? ((after?_singleton s e).trans h) ht
    rintro j delay rfl k
    cases h
    split
    · next hd =>
      obtain ⟨rfl, hd⟩ := hd
      exact WorkQueue.get?_scheduled_addAfter_self hs s.now j hd
    · next hd => exact WorkQueue.get?_scheduled_addAfter_of_ne s.now hd
  isDue := by
    rintro a rfl
    rw [occur?] at h
    split at h
    · next ha => exact ha.2
    · cases h
  beforeShutDown := by
    rintro rfl
    cases h
    cases ht

/-! ## The ledger of a key -/

/-- What the delayed adds of a key ask for and come to. -/
structure Ledger where
  /-- The deadlines asked for since one was met, the last first. -/
  asked : List Nat := []
  /-- The deadlines that alarms found in force when they were over. -/
  met : List Nat := []
  /-- The times at which the adds that alarms left were made. -/
  added : List Nat := []

def Ledger.enter (k : κ) (s : Timing κ) (l : Ledger) : QueueEvent κ → Ledger
  | .addAfter j delay =>
    if j = k ∧ delay.HasDeadline s.now then { l with asked := (s.now + delay.nanos) :: l.asked } else l
  | .expire a =>
    if a.key = k ∧ s.scheduled.get? k = some a.deadline then
      { l with asked := [], met := l.met ++ [a.deadline] }
    else l
  | .ring j => if j = k then { l with added := l.added ++ [s.now] } else l
  | _ => l

def QueueRun.ledger (k : κ) (s : QueueRun κ) (l : Ledger) : List (QueueEvent κ) → Ledger
  | [] => l
  | e :: es =>
    match s.occur? e with
    | none => l
    | some t => t.ledger k (l.enter k s.timing e) es

/-- The queue is in the state that the ledger of a key tells. -/
structure Ledger.Fits (k : κ) (s : Timing κ) (l : Ledger) : Prop where
  armed : s.IsArmed
  earliest : s.scheduled.get? k = l.asked.min?
  ahead : ∀ d, s.scheduled.get? k = some d → s.now ≤ d ∧ ∀ m ∈ l.met, m < d
  made : l.met = l.added ++ List.replicate (s.due.count k) s.now
  ordered : l.met.Pairwise (· < ·)
  past : ∀ m ∈ l.met, m ≤ s.now

theorem Ledger.Fits.start (policy : BackoffPolicy) (k : κ) :
    ({} : Ledger).Fits k (QueueRun.start policy : QueueRun κ).timing where
  armed := fun _ _ hd => by cases hd
  earliest := rfl
  ahead := fun _ hd => by cases hd
  made := rfl
  ordered := List.Pairwise.nil
  past := by simp

namespace Timing

variable {s t : Timing κ} {e : QueueEvent κ} {k : κ} {l : Ledger}

theorem PunctualStep.fits_addAfter {j : κ} {delay : Duration}
    (h : s.PunctualStep (.addAfter j delay) t) (hnow : t.now = s.now) (hdue : t.due = s.due)
    (hs : l.Fits k s) : (l.enter k s (.addAfter j delay)).Fits k t := by
  have hsched := h.keeps j delay rfl k
  have hmade : l.met = l.added ++ List.replicate (t.due.count k) t.now := by
    rw [hdue, hnow]
    exact hs.made
  have hpast : ∀ m ∈ l.met, m ≤ t.now := hnow ▸ hs.past
  rw [Ledger.enter]
  split at hsched
  · next hd =>
    have hlate : delay.nanos ≠ 0 := hd.2.1
    rw [if_pos hd]
    refine ⟨h.step.isArmed hs.armed, ?_, fun d hd' => ?_, hmade, hs.ordered, hpast⟩
    · rw [hsched, List.min?_cons, hs.earliest]
    · rw [hsched] at hd'
      cases hd'
      cases hk : s.scheduled.get? k with
      | none =>
        dsimp only [Option.elim]
        exact ⟨by omega, fun m hm => by have := hs.past m hm; omega⟩
      | some d =>
        obtain ⟨hle, hlt⟩ := hs.ahead d hk
        dsimp only [Option.elim]
        refine ⟨by omega, fun m hm => ?_⟩
        have := hlt m hm
        have := hs.past m hm
        omega
  · next hd =>
    rw [if_neg hd]
    refine ⟨h.step.isArmed hs.armed, hsched.trans hs.earliest, fun d hd' => ?_, hmade, hs.ordered,
      hpast⟩
    rw [hsched] at hd'
    rw [hnow]
    exact hs.ahead d hd'

/-- An alarm that finds its own deadline in force is over at that time. -/
theorem PunctualStep.fits_expired {a : Alarm κ} (h : s.PunctualStep (.expire a) t)
    (ha : s.scheduled.get? a.key = some a.deadline)
    (ht : t = { s with
      scheduled := s.scheduled.erase a.key
      alarms := s.alarms.erase a
      due := s.due ++ [a.key] }) (hs : l.Fits k s) : (l.enter k s (.expire a)).Fits k t := by
  have harmed := h.step.isArmed hs.armed
  have hover := h.isDue a rfl
  subst ht
  by_cases hk : a.key = k
  · subst hk
    obtain ⟨hle, hlt⟩ := hs.ahead _ ha
    have hnow : a.deadline = s.now := Nat.le_antisymm hover hle
    have hnone : (s.scheduled.erase a.key).get? a.key = none := by simp [Dict.get?_erase]
    rw [Ledger.enter, if_pos ⟨rfl, ha⟩]
    refine ⟨harmed, hnone, fun d hd => ?_, ?_, ?_, ?_⟩
    · cases hnone.symm.trans hd
    · simp [hs.made, hnow, List.replicate_succ']
    · rw [List.pairwise_append]
      exact ⟨hs.ordered, List.pairwise_singleton _ _, fun m hm d hd =>
        List.mem_singleton.1 hd ▸ hlt m hm⟩
    · intro m hm
      rcases List.mem_append.1 hm with hm | hm
      · exact hs.past m hm
      · exact List.mem_singleton.1 hm ▸ hover
  · have hkept : (s.scheduled.erase a.key).get? k = s.scheduled.get? k := by
      rw [Dict.get?_erase, if_neg (Ne.symm hk)]
    rw [Ledger.enter, if_neg fun h => hk h.1]
    refine ⟨harmed, hkept.trans hs.earliest, fun d hd => hs.ahead d (hkept.symm.trans hd), ?_,
      hs.ordered, hs.past⟩
    simpa [List.count_append, List.count_cons, hk] using hs.made

theorem PunctualStep.fits_rung {j : κ} (h : s.PunctualStep (.ring j) t) (hj : j ∈ s.due)
    (ht : t = { s with due := s.due.erase j }) (hs : l.Fits k s) :
    (l.enter k s (.ring j)).Fits k t := by
  have harmed := h.step.isArmed hs.armed
  subst ht
  by_cases hk : j = k
  · subst hk
    rw [Ledger.enter, if_pos rfl]
    refine ⟨harmed, hs.earliest, hs.ahead, ?_, hs.ordered, hs.past⟩
    have hpos : List.count j s.due ≠ 0 := Nat.ne_of_gt (List.count_pos_iff.2 hj)
    obtain ⟨n, hn⟩ := Nat.exists_eq_add_one_of_ne_zero hpos
    simp [hs.made, hn, List.count_erase_self, List.replicate_succ]
  · rw [Ledger.enter, if_neg hk]
    refine ⟨harmed, hs.earliest, hs.ahead, ?_, hs.ordered, hs.past⟩
    simpa [List.count_erase_of_ne (Ne.symm hk)] using hs.made

/-- The clock goes on when all that is due is done. -/
theorem PunctualStep.fits_passed {nanos : Nat} (h : s.PunctualStep (.tick nanos) t)
    (ht : t = { s with now := s.now + nanos }) (hs : l.Fits k s) : l.Fits k t := by
  have harmed := h.step.isArmed hs.armed
  subst ht
  refine ⟨harmed, hs.earliest, fun d hd => ⟨?_, (hs.ahead d hd).2⟩, ?_, hs.ordered, fun m hm =>
    Nat.le_trans (hs.past m hm) (Nat.le_add_right _ _)⟩
  · rcases h.waits with rfl | ⟨-, hw⟩
    · exact (hs.ahead d hd).1
    · exact hw _ (hs.armed k d hd)
  · have hmade := hs.made
    rcases h.waits with rfl | ⟨hdue, -⟩
    · exact hmade
    · rw [hdue] at hmade ⊢
      exact hmade

theorem PunctualStep.fits (h : s.PunctualStep e t) (hs : l.Fits k s) :
    (l.enter k s e).Fits k t := by
  have hstep := h.step
  cases hstep with
  | kept =>
    cases e with
    | addAfter j delay => exact h.fits_addAfter rfl rfl hs
    | expire | ring | tick | shutDown => contradiction
    | _ => exact hs
  | armed => exact h.fits_addAfter rfl rfl hs
  | expired ha => exact h.fits_expired ha rfl hs
  | @superseded a ha =>
    have hne : ¬ (a.key = k ∧ s.scheduled.get? k = some a.deadline) := fun hk =>
      ha (hk.1 ▸ hk.2)
    rw [Ledger.enter, if_neg hne]
    exact { hs with armed := h.step.isArmed hs.armed }
  | rung hj => exact h.fits_rung hj rfl hs
  | passed => exact h.fits_passed rfl hs
  | closed => exact absurd rfl h.beforeShutDown

end Timing

theorem Ledger.Fits.length_enter_le {s : Timing κ} {k : κ} {l : Ledger} (hs : l.Fits k s)
    (e : QueueEvent κ) :
    (l.enter k s e).met.length + (l.enter k s e).asked.length ≤
      l.met.length + l.asked.length + if e.isDelayedAdd k then 1 else 0 := by
  cases e with
  | addAfter j delay =>
    by_cases hd : j = k ∧ delay.HasDeadline s.now
    · have hadd : (QueueEvent.addAfter j delay).isDelayedAdd k = true :=
        decide_eq_true ⟨hd.1, hd.2.1⟩
      rw [Ledger.enter, if_pos hd, if_pos hadd]
      dsimp only
      rw [List.length_cons]
      omega
    · rw [Ledger.enter, if_neg hd]
      omega
  | expire a =>
    simp only [Ledger.enter, QueueEvent.isDelayedAdd]
    split
    · next ha =>
      have hne : l.asked ≠ [] := by
        rintro hnil
        have := hs.earliest.symm.trans ha.2
        simp [hnil] at this
      have := List.length_pos_iff.2 hne
      simp
      omega
    · simp
  | ring j =>
    simp only [Ledger.enter, QueueEvent.isDelayedAdd]
    split <;> simp
  | _ => simp [Ledger.enter, QueueEvent.isDelayedAdd]

/-! ## Adds to come -/

namespace Timing

variable {s t : Timing κ} {e : QueueEvent κ} {k : κ}

/-- An add of a key is to come, no later than at some time. -/
def Awaits (s : Timing κ) (k : κ) (deadline : Nat) : Prop :=
  s.now ≤ deadline ∧ (k ∈ s.due ∨ ∃ d ≤ deadline, s.scheduled.get? k = some d)

theorem PunctualStep.awaits {deadline : Nat} (h : s.PunctualStep e t) (ha : s.IsArmed)
    (hs : s.Awaits k deadline) : e = .ring k ∨ t.Awaits k deadline := by
  obtain ⟨hnow, hdue⟩ := hs
  have hstep := h.step
  cases hstep with
  | kept => exact .inr ⟨hnow, hdue⟩
  | @armed j delay =>
    refine .inr ⟨hnow, hdue.imp_right fun ⟨d, hle, hd⟩ => ?_⟩
    have hsched := h.keeps j delay rfl k
    rw [hd] at hsched
    split at hsched
    · exact ⟨_, Nat.le_trans (Nat.min_le_right _ _) hle, hsched⟩
    · exact ⟨d, hle, hsched⟩
  | @expired a hd =>
    refine .inr ⟨hnow, ?_⟩
    by_cases hk : k = a.key
    · exact .inl (by simp [hk])
    · refine hdue.imp (List.mem_append_left _) fun ⟨d, hle, hd⟩ => ⟨d, hle, ?_⟩
      rw [Dict.get?_erase, if_neg hk, hd]
  | superseded => exact .inr ⟨hnow, hdue⟩
  | @rung j hj =>
    by_cases hk : j = k
    · exact .inl (hk ▸ rfl)
    · exact .inr ⟨hnow, hdue.imp_left (List.mem_erase_of_ne (Ne.symm hk)).2⟩
  | @passed nanos =>
    rcases h.waits with rfl | ⟨hnil, hw⟩
    · exact .inr ⟨hnow, hdue⟩
    · rcases hdue with hdue | ⟨d, hle, hd⟩
      · rw [hnil] at hdue
        cases hdue
      · exact .inr ⟨Nat.le_trans (hw _ (ha k d hd)) hle, .inr ⟨d, hle, hd⟩⟩
  | closed => exact absurd rfl h.beforeShutDown

end Timing

/-! ## Runs -/

namespace QueueRun

variable {s t : QueueRun κ} {es : List (QueueEvent κ)} {k : κ} {l : Ledger}

theorem fits_ledger (h : s.after? es = some t) (hp : s.IsPunctual es)
    (ht : t.queue.isShutDown = false) (hs : l.Fits k s.timing) :
    (s.ledger k l es).Fits k t.timing ∧
      (s.ledger k l es).met.length + (s.ledger k l es).asked.length ≤
        l.met.length + l.asked.length + es.countP (·.isDelayedAdd k) := by
  induction es generalizing s l with
  | nil =>
    cases h
    exact ⟨hs, Nat.le_refl _⟩
  | cons e es ih =>
    obtain ⟨u, hu, h⟩ := after?_cons.1 h
    have hstep := punctualStep hu hp.1 (not_isShutDown_of_after? h ht)
    obtain ⟨hfits, hlength⟩ := ih h (hp.2 u hu) (hstep.fits hs)
    have hone := hs.length_enter_le e
    rw [ledger, hu]
    dsimp only
    refine ⟨hfits, ?_⟩
    rw [List.countP_cons]
    omega

theorem added_of_awaits {deadline : Nat} (h : s.after? es = some t) (hp : s.IsPunctual es)
    (ht : t.queue.isShutDown = false) (ha : s.timing.IsArmed)
    (hs : s.timing.Awaits k deadline) :
    (∃ mid rest u, es = mid ++ .ring k :: rest ∧ s.after? mid = some u ∧ u.now ≤ deadline) ∨
      t.timing.Awaits k deadline := by
  induction es generalizing s with
  | nil =>
    cases h
    exact .inr hs
  | cons e es ih =>
    obtain ⟨u, hu, h⟩ := after?_cons.1 h
    have hstep := punctualStep hu hp.1 (not_isShutDown_of_after? h ht)
    rcases hstep.awaits ha hs with rfl | hawaits
    · exact .inl ⟨[], es, s, rfl, rfl, hs.1⟩
    · rcases ih h (hp.2 u hu) (hstep.step.isArmed ha) hawaits with ⟨mid, rest, v, rfl, hv, hle⟩ | ht
      · exact .inl ⟨e :: mid, rest, v, rfl, after?_cons.2 ⟨u, hu, hv⟩, hle⟩
      · exact .inr ht

/-- A delayed add whose deadline the clock does not read crashes, and the queue stays as it is. -/
theorem occur?_addAfter_past_end {delay : Duration} (hd : delay.nanos ≠ 0)
    (hend : clockEnd ≤ s.now + delay.nanos) : s.occur? (.addAfter k delay) = some s := by
  have hadded := s.queue.addedAfter_addAfter s.now k delay
  rw [occur?]
  generalize s.queue.addAfter s.now k delay = q at hadded ⊢
  cases hadded with
  | atOnce h => exact absurd h hd
  | kept => rfl
  | set _ hlt => exact absurd hlt (Nat.not_lt.2 hend)

theorem awaits_of_addAfter {delay : Duration} (h : s.occur? (.addAfter k delay) = some t)
    (hs : s.queue.isShutDown = false) (hd : delay.HasDeadline s.now) :
    t.timing.Awaits k (s.now + delay.nanos) := by
  cases h
  refine ⟨Nat.le_add_right _ _, .inr ⟨_, ?_,
    WorkQueue.get?_scheduled_addAfter_self hs s.now k hd⟩⟩
  cases s.queue.scheduled.get? k with
  | none => exact Nat.le_refl _
  | some d => exact Nat.min_le_left _ _

end QueueRun

/-- Before the shutdown, when the clock waits for the tasks. The deadline in force is the earliest
of those asked for since one was met, and is not over. Every deadline met was in force, and the add
that its alarm left is made at that time; no two are met at one time, and there are no more of them
than delayed adds. A key that is added after a delay is added before the delay is over, or is still
to be; a delay that is over only after the end of the clock changes nothing. -/
theorem earliest_deadline_met (policy : BackoffPolicy) {es : List (QueueEvent κ)} {s : QueueRun κ}
    (h : (QueueRun.start policy).after? es = some s) (hp : (QueueRun.start policy).IsPunctual es)
    (hs : s.queue.isShutDown = false) (k : κ) {l : Ledger}
    (hl : (QueueRun.start policy).ledger k {} es = l) :
    s.queue.scheduled.get? k = l.asked.min? ∧
    (∀ d ∈ l.asked.min?, s.now ≤ d) ∧
    l.met = l.added ++ List.replicate (s.due.count k) s.now ∧
    l.met.Pairwise (· < ·) ∧
    l.added.length ≤ es.countP (·.isDelayedAdd k) ∧
    ∀ before delay after u, es = before ++ .addAfter k delay :: after →
      (QueueRun.start policy).after? before = some u →
      (delay.nanos ≠ 0 → clockEnd ≤ u.now + delay.nanos →
        u.occur? (.addAfter k delay) = some u) ∧
      (delay.nanos = 0 ∨ u.now + delay.nanos < clockEnd →
        (∃ mid e rest v, .addAfter k delay :: after = mid ++ e :: rest ∧ e.signal? = some k ∧
          u.after? mid = some v ∧ v.now ≤ u.now + delay.nanos) ∨
        s.timing.Awaits k (u.now + delay.nanos)) := by
  obtain ⟨hfits, hlength⟩ := QueueRun.fits_ledger h hp hs (Ledger.Fits.start policy k)
  rw [hl] at hfits hlength
  refine ⟨hfits.earliest, fun d hd => ?_, hfits.made, hfits.ordered, ?_,
    fun before delay after u hes hu => ⟨QueueRun.occur?_addAfter_past_end, fun hend => ?_⟩⟩
  · exact (hfits.ahead d (hfits.earliest.trans hd)).1
  · have hmade := congrArg List.length hfits.made
    rw [List.length_append] at hmade
    simp only [List.length_nil] at hlength
    omega
  · subst hes
    obtain ⟨v, hv, h⟩ := QueueRun.after?_append.1 h
    cases hu.symm.trans hv
    have hpu := hp.of_append hu
    have hus := QueueRun.not_isShutDown_of_after? h hs
    by_cases hd : delay.nanos = 0
    · -- without a delay the call makes the add itself
      exact .inl ⟨[], _, after, u, rfl, by simp [QueueEvent.signal?, hd], rfl,
        Nat.le_add_right _ _⟩
    · obtain ⟨w, hw, h⟩ := QueueRun.after?_cons.1 h
      have hua : u.timing.IsArmed :=
        invariant_of_foldlM (fun _ _ _ h => QueueRun.isArmed_of_occur? h) hu
          (Ledger.Fits.start policy k).armed
      have hawaits := QueueRun.awaits_of_addAfter hw hus ⟨hd, hend.resolve_left hd⟩
      refine (QueueRun.added_of_awaits h (hpu.2 w hw) hs (QueueRun.isArmed_of_occur? hw hua)
        hawaits).imp_left ?_
      rintro ⟨mid, rest, x, rfl, hx, hle⟩
      exact ⟨_ :: mid, .ring k, rest, x, rfl, rfl, QueueRun.after?_cons.2 ⟨w, hw, hx⟩, hle⟩

/-- A deadline of five nanoseconds supersedes one of ten, and when it is met a delayed add asks for
the one of ten again, so that two alarms have it. -/
def supersededAgain : List (QueueEvent Nat) :=
  [.addAfter 7 ⟨10, by decide⟩, .addAfter 7 ⟨5, by decide⟩, .tick 5, .expire ⟨7, 5⟩, .ring 7,
    .addAfter 7 ⟨5, by decide⟩, .tick 5, .expire ⟨7, 10⟩, .expire ⟨7, 10⟩, .ring 7]

theorem earliest_deadline_met_by_one_alarm :
    ∃ s : QueueRun Nat, (QueueRun.start {}).after? supersededAgain = some s ∧
      s.now = 10 ∧ s.queue.scheduled.get? 7 = none ∧
      ((QueueRun.start {}).ledger 7 {} supersededAgain).met = [5, 10] ∧
      ((QueueRun.start {}).ledger 7 {} supersededAgain).added = [5, 10] := by
  obtain ⟨hscheduled, -, hmade, -⟩ :=
    @earliest_deadline_met Nat _ {} supersededAgain _ rfl (by decide) rfl 7 _ rfl
  have hmet : ((QueueRun.start {}).ledger 7 {} supersededAgain).met = [5, 10] := rfl
  refine ⟨_, rfl, rfl, hscheduled, hmet, ?_⟩
  exact (hmade.trans (List.append_nil _)).symm.trans hmet

/-- The longest delay is over after the end of the clock. A delayed add that asks for it crashes, so
no deadline is in force, and no add is to come. -/
theorem deadline_past_end_dropped :
    (¬ ∀ (delay : Duration) (s : QueueRun Nat), delay.nanos ≠ 0 →
      (QueueRun.start {}).after? [.addAfter 7 delay] = some s →
      s.queue.scheduled.get? 7 = some delay.nanos) ∧
    ¬ ∀ (delay : Duration) (s : QueueRun Nat), delay.nanos ≠ 0 →
      (QueueRun.start {}).after? [.addAfter 7 delay] = some s →
      s.timing.Awaits 7 delay.nanos := by
  constructor
  · intro h
    have hkept := h .longest _ (by decide) rfl
    cases hkept
  · intro h
    obtain ⟨-, hdue | ⟨d, -, hd⟩⟩ := h .longest _ (by decide) rfl
    · cases hdue
    · cases hd

end ClusterOperator

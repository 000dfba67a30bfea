import ClusterOperator.Proofs.Queue.Delivery
import ClusterOperator.Proofs.Queue.Timing

/-!
# Calls that wait for a key

A call of `next` asks to be woken, then looks for a key under the lock of the queue, and sleeps when
there is none. A call that has its answer withdraws from being woken after it has left the lock.
Whoever puts a key in the queue, or shuts it down, rings after he has left the lock. Between any two
of these moments everybody else may have a turn.

* `WaitingRoom.enlist` : a call takes the permit, or waits to be woken; `WaitingRoom.present`, the
  calls that wait or are woken, and what becomes of them;
* `CallStage` : where a call stands;
* `CallEvent`, `CallRun` : what happens to a queue and to the calls, and a queue with its calls;
* `CallRun.occur?`, `CallRun.after?` : the run after an event, and after several;
* `CallRun.Step` : what an event does, `CallRun.occur?_step`;
* `CallRun.after?_plain`, `CallRun.after?_call` : what a run of the queue does at once is what these
  moments do one after the other;
* `CallRun.IsOrderly` : the calls that wait or are woken are under way, each once.

Anybody may be done with a key, also with one that was not handed out to him.
-/

namespace ClusterOperator

/-! ## The waiting room -/

namespace WaitingRoom

/-- A call takes the permit, or waits to be woken. -/
def enlist (r : WaitingRoom) (task : Nat) : WaitingRoom :=
  if r.permit then r.takePermit else r.enter task

/-- The calls that wait, and those that are woken. -/
def present (r : WaitingRoom) : List Nat :=
  r.waiting ++ r.woken

variable {r : WaitingRoom} {task : Nat}

theorem ring_of_nil (h : r.waiting = []) : r.ring = { r with permit := true } := by
  simp [ring, h]

theorem ring_of_cons {first : Nat} {rest : List Nat} (h : r.waiting = first :: rest) :
    r.ring = { r with waiting := rest, woken := r.woken ++ [first] } := by
  simp [ring, h]

theorem present_ring (r : WaitingRoom) : r.ring.present.Perm r.present := by
  cases h : r.waiting with
  | nil => rw [ring_of_nil h]; exact .refl _
  | cons first rest =>
    rw [ring_of_cons h, present, present, h, ← List.append_assoc]
    exact List.perm_append_singleton first _

theorem present_ringAll (r : WaitingRoom) : r.ringAll.present.Perm r.present := by
  show (r.woken ++ r.waiting).Perm (r.waiting ++ r.woken)
  exact List.perm_append_comm

theorem present_resume (h : task ∉ r.waiting) :
    (r.resume task).present = r.present.erase task := by
  rw [present, present, resume, List.erase_append_right _ h]

theorem present_leave (hr : r.present.Nodup) (task : Nat) :
    (r.leave task).present.Perm (r.present.erase task) := by
  unfold leave
  split
  · next hw =>
    have hn : task ∉ r.waiting := fun h => List.disjoint_of_nodup_append hr h hw
    rw [← present_resume hn]
    exact present_ring _
  · next hw =>
    refine .of_eq ?_
    by_cases hn : task ∈ r.waiting
    · rw [present, present, List.erase_append_left _ hn]
    · rw [present, present, List.erase_of_not_mem hn, List.erase_of_not_mem (by simp [hn, hw])]

theorem present_enlist (r : WaitingRoom) (task : Nat) :
    (r.enlist task).present.Perm (if r.permit then r.present else task :: r.present) := by
  unfold enlist
  split
  · exact .refl _
  · show (r.waiting ++ [task] ++ r.woken).Perm (task :: (r.waiting ++ r.woken))
    rw [List.append_assoc]
    exact List.perm_middle

theorem woken_enlist (r : WaitingRoom) (task : Nat) : (r.enlist task).woken = r.woken := by
  unfold enlist
  split <;> rfl

theorem mem_waiting_of_enlist {x : Nat} (h : x ∈ (r.enlist task).waiting) (hne : x ≠ task) :
    x ∈ r.waiting := by
  unfold enlist at h
  split at h
  · exact h
  · exact (List.mem_append.1 h).resolve_right fun h => hne (List.mem_singleton.1 h)

theorem nodup_enlist (hr : r.present.Nodup) (h : task ∉ r.present) :
    (r.enlist task).present.Nodup := by
  rw [(r.present_enlist task).nodup_iff]
  split
  · exact hr
  · exact List.nodup_cons.2 ⟨h, hr⟩

theorem mem_of_mem_enlist {x : Nat} (h : x ∈ (r.enlist task).present) (hne : x ≠ task) :
    x ∈ r.present := by
  rw [(r.present_enlist task).mem_iff] at h
  split at h
  · exact h
  · exact (List.mem_cons.1 h).resolve_left hne

theorem resume_of_not_mem (h : task ∉ r.present) : r.resume task = r := by
  rw [resume, List.erase_of_not_mem fun hw => h (List.mem_append_right _ hw)]

theorem leave_enlist (h : task ∉ r.present) : (r.enlist task).leave task = r.takePermit := by
  have hw : task ∉ r.waiting := fun hw => h (List.mem_append_left _ hw)
  have hn : task ∉ r.woken := fun hn => h (List.mem_append_right _ hn)
  unfold enlist
  split
  · simp [leave, takePermit, hw, hn]
  · next hp => simp [leave, enter, takePermit, hw, hn, hp, List.erase_append_right]

theorem waiting_ring_subset (r : WaitingRoom) : r.ring.waiting ⊆ r.waiting := by
  cases h : r.waiting with
  | nil => rw [ring_of_nil h, h]; exact fun _ => id
  | cons first rest => rw [ring_of_cons h]; exact List.subset_cons_self _ _

theorem waiting_leave_subset (r : WaitingRoom) (task : Nat) :
    (r.leave task).waiting ⊆ r.waiting := by
  unfold leave
  split
  · exact (r.resume task).waiting_ring_subset
  · exact List.erase_subset

end WaitingRoom

/-! ## Calls -/

inductive CallStage (κ : Type) where
  | arriving
  /-- It has taken the permit, or waits to be woken, and has not looked for a key since. -/
  | looking
  /-- It has found nothing, and sleeps unless it has taken the permit or is woken. -/
  | asleep
  /-- It has its answer, and may be woken all the same. -/
  | leaving (answer : Option κ)
  deriving DecidableEq, Repr

/-- Where a call stands after a look. -/
def Polled.stage {κ : Type} : Polled κ → CallStage κ
  | .key k => .leaving (some k)
  | .pending => .asleep
  | .shutDown => .leaving none

def CallStage.isUnlooked {κ : Type} : CallStage κ → Bool
  | .arriving | .looking => true
  | .asleep | .leaving _ => false

inductive CallEvent (κ : Type) where
  /-- What others do under the lock. -/
  | outside (e : QueueEvent κ)
  | done (k : κ)
  | shutDown
  /-- Who has put a key in the queue rings. -/
  | ring
  /-- Who has shut the queue down rings for all. -/
  | ringAll
  | call (task : Nat)
  | enlist (task : Nat)
  | look (task : Nat) (got : Polled κ)
  | leave (task : Nat) (answer : Option κ)
  /-- A call that has taken the permit, or is woken, starts again. -/
  | wake (task : Nat)
  /-- A call that sleeps is dropped. -/
  | drop (task : Nat)

/-- Neither a task nor the shutdown takes part in an event. -/
def QueueEvent.isPlain {κ : Type} : QueueEvent κ → Bool
  | .next _ _ | .abandon _ | .done _ _ | .shutDown => false
  | _ => true

def CallEvent.handed? {κ : Type} : CallEvent κ → Option κ
  | .look _ (.key k) => some k
  | _ => none

structure CallRun (κ : Type) extends QueueRun κ where
  /-- How many keys were put in the queue for which nobody has rung. -/
  owed : Nat := 0
  /-- How many shutdowns have not rung. -/
  closing : Nat := 0
  calls : List (Nat × CallStage κ) := []

namespace CallRun

variable {κ : Type}

def start (policy : BackoffPolicy) : CallRun κ :=
  { QueueRun.start policy with }

def withRoom (s : CallRun κ) (room : WaitingRoom) : CallRun κ :=
  { s with queue := { s.queue with room } }

/-- The run after somebody has left the lock. The ring for a key that he put in the queue is to
come. -/
def unlocked (s : CallRun κ) (t : QueueRun κ) : CallRun κ :=
  { s with
    toQueueRun := { t with queue := { t.queue with room := s.queue.room } }
    owed := s.owed + (t.queue.queue.length - s.queue.queue.length) }

/-! ## Calls that wait -/

section

variable {s t : CallRun κ} {task : Nat} {stage next : CallStage κ}

/-- The calls that wait or are woken are under way, each once, and have asked to be woken. -/
structure IsOrderly (s : CallRun κ) : Prop where
  calls_nodup : (s.calls.map (·.1)).Nodup
  present_nodup : s.queue.room.present.Nodup
  under_way : ∀ task ∈ s.queue.room.present, ∃ stage, (task, stage) ∈ s.calls ∧ stage ≠ .arriving

theorem IsOrderly.start (policy : BackoffPolicy) : (start policy : CallRun κ).IsOrderly where
  calls_nodup := List.nodup_nil
  present_nodup := List.nodup_nil
  under_way := fun _ h => by cases h

theorem IsOrderly.stage_unique (hs : s.IsOrderly) (h : (task, stage) ∈ s.calls)
    (h' : (task, next) ∈ s.calls) : stage = next :=
  congrArg Prod.snd (List.inj_on_of_nodup_map hs.calls_nodup h h' rfl)

theorem IsOrderly.not_mem_present (hs : s.IsOrderly) (h : (task, .arriving) ∈ s.calls) :
    task ∉ s.queue.room.present := fun hp => by
  obtain ⟨stage, hstage, hne⟩ := hs.under_way task hp
  exact hne (hs.stage_unique hstage h)

theorem IsOrderly.of_perm (hs : s.IsOrderly) (hc : t.calls = s.calls)
    (hp : t.queue.room.present.Perm s.queue.room.present) : t.IsOrderly where
  calls_nodup := hc ▸ hs.calls_nodup
  present_nodup := hp.nodup_iff.2 hs.present_nodup
  under_way := fun task h => hc ▸ hs.under_way task (hp.mem_iff.1 h)

end

/-! ## Events -/

variable [DecidableEq κ]

/-- The calls after one of them has taken a step. -/
def moved (s : CallRun κ) (task : Nat) (stage next : CallStage κ) : List (Nat × CallStage κ) :=
  s.calls.erase (task, stage) ++ [(task, next)]

def occur? (s : CallRun κ) : CallEvent κ → Option (CallRun κ)
  | .outside e => if e.isPlain then (s.toQueueRun.occur? e).map s.unlocked else none
  | .done k => some (s.unlocked { s.toQueueRun with queue := s.queue.done k })
  | .shutDown =>
    some { s.unlocked { s.toQueueRun with queue := s.queue.shutDown } with
      closing := s.closing + 1 }
  | .ring =>
    if 0 < s.owed then some { s.withRoom s.queue.room.ring with owed := s.owed - 1 } else none
  | .ringAll =>
    if 0 < s.closing then
      some { s.withRoom s.queue.room.ringAll with closing := s.closing - 1 }
    else none
  | .call task =>
    if task ∈ s.calls.map (·.1) then none
    else some { s with calls := s.calls ++ [(task, .arriving)] }
  | .enlist task =>
    if (task, .arriving) ∈ s.calls then
      some { s.withRoom (s.queue.room.enlist task) with
        calls := s.moved task .arriving .looking }
    else none
  | .look task got =>
    let (polled, queue) := s.queue.poll task
    if (task, .looking) ∈ s.calls ∧ polled = got then
      some { s.unlocked { s.toQueueRun with queue } with
        calls := s.moved task .looking got.stage }
    else none
  | .leave task answer =>
    if (task, .leaving answer) ∈ s.calls then
      some { s.withRoom (s.queue.room.leave task) with
        calls := s.calls.erase (task, .leaving answer) }
    else none
  | .wake task =>
    if (task, .asleep) ∈ s.calls ∧ task ∉ s.queue.room.waiting then
      some { s.withRoom (s.queue.room.resume task) with calls := s.moved task .asleep .arriving }
    else none
  | .drop task =>
    if (task, .asleep) ∈ s.calls then
      some { s.withRoom (s.queue.room.leave task) with calls := s.calls.erase (task, .asleep) }
    else none

def after? (s : CallRun κ) (es : List (CallEvent κ)) : Option (CallRun κ) :=
  es.foldlM occur? s

@[simp] theorem after?_nil (s : CallRun κ) : s.after? [] = some s := rfl

theorem after?_cons {s t : CallRun κ} {e : CallEvent κ} {es : List (CallEvent κ)} :
    s.after? (e :: es) = some t ↔ ∃ u, s.occur? e = some u ∧ u.after? es = some t := by
  simp [after?, List.foldlM_cons, Option.bind_eq_some_iff]

theorem after?_append {s t : CallRun κ} {es fs : List (CallEvent κ)} :
    s.after? (es ++ fs) = some t ↔ ∃ u, s.after? es = some u ∧ u.after? fs = some t := by
  simp [after?, List.foldlM_append, Option.bind_eq_some_iff]

/-! ## Steps -/

/-- What an event does: others change the queue and not the waiting room, or somebody rings, or one
call takes a step. -/
inductive Step : CallRun κ → CallEvent κ → CallRun κ → Prop where
  | outside {s t e} (he : e.isPlain = true) (h : s.toQueueRun.occur? e = some t) :
      Step s (.outside e) (s.unlocked t)
  | done {s k} : Step s (.done k) (s.unlocked { s.toQueueRun with queue := s.queue.done k })
  | shutDown {s} : Step s .shutDown
      { s.unlocked { s.toQueueRun with queue := s.queue.shutDown } with closing := s.closing + 1 }
  | rung {s} (h : 0 < s.owed) :
      Step s .ring { s.withRoom s.queue.room.ring with owed := s.owed - 1 }
  | rungAll {s} (h : 0 < s.closing) :
      Step s .ringAll { s.withRoom s.queue.room.ringAll with closing := s.closing - 1 }
  | called {s task} (h : task ∉ s.calls.map (·.1)) :
      Step s (.call task) { s with calls := s.calls ++ [(task, .arriving)] }
  | enlisted {s task} (h : (task, .arriving) ∈ s.calls) :
      Step s (.enlist task) { s.withRoom (s.queue.room.enlist task) with
        calls := s.moved task .arriving .looking }
  | looked {s task got} (h : (task, .looking) ∈ s.calls) (hgot : (s.queue.poll task).1 = got) :
      Step s (.look task got)
        { s.unlocked { s.toQueueRun with queue := (s.queue.poll task).2 } with
          calls := s.moved task .looking got.stage }
  | left {s task answer} (h : (task, .leaving answer) ∈ s.calls) :
      Step s (.leave task answer) { s.withRoom (s.queue.room.leave task) with
        calls := s.calls.erase (task, .leaving answer) }
  | woke {s task} (h : (task, .asleep) ∈ s.calls) (hw : task ∉ s.queue.room.waiting) :
      Step s (.wake task) { s.withRoom (s.queue.room.resume task) with
        calls := s.moved task .asleep .arriving }
  | dropped {s task} (h : (task, .asleep) ∈ s.calls) :
      Step s (.drop task) { s.withRoom (s.queue.room.leave task) with
        calls := s.calls.erase (task, .asleep) }

theorem occur?_step {s t : CallRun κ} {e : CallEvent κ} (h : s.occur? e = some t) :
    Step s e t := by
  cases e with
  | outside e =>
    rw [occur?] at h
    split at h
    · next he =>
      obtain ⟨u, hu, rfl⟩ := Option.map_eq_some_iff.1 h
      exact .outside he hu
    · cases h
  | done k => cases h; exact .done
  | shutDown => cases h; exact .shutDown
  | ring =>
    rw [occur?] at h
    split at h
    · next ho => cases h; exact .rung ho
    · cases h
  | ringAll =>
    rw [occur?] at h
    split at h
    · next hc => cases h; exact .rungAll hc
    · cases h
  | call task =>
    rw [occur?] at h
    split at h
    · cases h
    · next hn => cases h; exact .called hn
  | enlist task =>
    rw [occur?] at h
    split at h
    · next hm => cases h; exact .enlisted hm
    · cases h
  | look task got =>
    rw [occur?] at h
    dsimp only at h
    split at h
    · next hm => cases h; exact .looked hm.1 hm.2
    · cases h
  | leave task answer =>
    rw [occur?] at h
    split at h
    · next hm => cases h; exact .left hm
    · cases h
  | wake task =>
    rw [occur?] at h
    split at h
    · next hm => cases h; exact .woke hm.1 hm.2
    · cases h
  | drop task =>
    rw [occur?] at h
    split at h
    · next hm => cases h; exact .dropped hm
    · cases h

/-! ## Steps of calls that wait -/

variable {s t : CallRun κ} {e : CallEvent κ} {es : List (CallEvent κ)} {task : Nat}
  {stage next : CallStage κ}

theorem perm_moved (h : (task, stage) ∈ s.calls) (next : CallStage κ) :
    ((s.moved task stage next).map (·.1)).Perm (s.calls.map (·.1)) := by
  refine .trans ?_ ((List.perm_cons_erase h).map (·.1)).symm
  rw [moved, List.map_append]
  exact List.perm_append_singleton _ _

theorem mem_moved {c : Nat × CallStage κ} (h : c ∈ s.moved task stage next) :
    c ∈ s.calls ∨ c = (task, next) := by
  rcases List.mem_append.1 h with h | h
  · exact .inl (List.mem_of_mem_erase h)
  · exact .inr (List.mem_singleton.1 h)

theorem mem_moved_of_ne {c : Nat × CallStage κ} (h : c ∈ s.calls) (hne : c.1 ≠ task) :
    c ∈ s.moved task stage next :=
  List.mem_append_left _ ((List.mem_erase_of_ne fun e => hne (congrArg Prod.fst e)).2 h)

/-- A call takes a step, and it is counted where it stands. -/
theorem countP_moved (h : (task, stage) ∈ s.calls) (p : Nat × CallStage κ → Bool) :
    (s.moved task stage next).countP p + (if p (task, stage) then 1 else 0) =
      s.calls.countP p + if p (task, next) then 1 else 0 := by
  rw [(List.perm_cons_erase h).countP_eq p, moved, List.countP_append, List.countP_singleton,
    List.countP_cons]
  omega

theorem IsOrderly.of_moved (hs : s.IsOrderly) (h : (task, stage) ∈ s.calls)
    (hc : t.calls = s.moved task stage next) (hnodup : t.queue.room.present.Nodup)
    (hp : ∀ x ∈ t.queue.room.present, x ≠ task → x ∈ s.queue.room.present)
    (hnext : task ∈ t.queue.room.present → next ≠ .arriving) : t.IsOrderly where
  calls_nodup := hc ▸ (perm_moved h next).nodup_iff.2 hs.calls_nodup
  present_nodup := hnodup
  under_way := fun x hx => by
    rw [hc]
    by_cases he : x = task
    · subst he
      exact ⟨next, List.mem_append_right _ (List.mem_singleton_self _), hnext hx⟩
    · obtain ⟨stage, hstage, hne⟩ := hs.under_way x (hp x hx he)
      exact ⟨stage, mem_moved_of_ne hstage he, hne⟩

theorem IsOrderly.of_erased (hs : s.IsOrderly) (hc : t.calls = s.calls.erase (task, stage))
    (hp : t.queue.room = s.queue.room.leave task) : t.IsOrderly where
  calls_nodup := hc ▸ hs.calls_nodup.sublist (List.erase_sublist.map _)
  present_nodup := by
    rw [hp, (WaitingRoom.present_leave hs.present_nodup task).nodup_iff]
    exact hs.present_nodup.erase task
  under_way := fun x hx => by
    rw [hp, (WaitingRoom.present_leave hs.present_nodup task).mem_iff,
      hs.present_nodup.mem_erase_iff] at hx
    obtain ⟨stage, hstage, hne⟩ := hs.under_way x hx.2
    rw [hc]
    exact ⟨stage, (List.mem_erase_of_ne fun e => hx.1 (congrArg Prod.fst e)).2 hstage, hne⟩

theorem Step.isOrderly (h : Step s e t) (hs : s.IsOrderly) : t.IsOrderly := by
  cases h with
  | outside | done | shutDown => exact hs.of_perm rfl (.refl _)
  | rung => exact hs.of_perm rfl (WaitingRoom.present_ring _)
  | rungAll => exact hs.of_perm rfl (WaitingRoom.present_ringAll _)
  | @called task hn =>
    refine ⟨?_, hs.present_nodup, fun x hx => ?_⟩
    · rw [List.map_append]
      exact hs.calls_nodup.append (List.nodup_singleton _) (by simpa using hn)
    · obtain ⟨stage, hstage, hne⟩ := hs.under_way x hx
      exact ⟨stage, List.mem_append_left _ hstage, hne⟩
  | @enlisted task hm =>
    have hn := hs.not_mem_present hm
    exact hs.of_moved hm rfl (WaitingRoom.nodup_enlist hs.present_nodup hn)
      (fun _ => WaitingRoom.mem_of_mem_enlist) (by simp)
  | @looked task got hm =>
    refine hs.of_moved hm rfl hs.present_nodup (fun _ hx _ => hx) fun _ => ?_
    cases got <;> simp [Polled.stage]
  | left | dropped => exact hs.of_erased rfl rfl
  | @woke task hm hw =>
    have hp : (s.queue.room.resume task).present = s.queue.room.present.erase task :=
      WaitingRoom.present_resume hw
    refine hs.of_moved hm rfl (hp ▸ hs.present_nodup.erase task)
      (fun x hx _ => List.mem_of_mem_erase (hp ▸ hx)) fun hx => ?_
    exact absurd (hp ▸ hx) hs.present_nodup.not_mem_erase

end CallRun

theorem CallRun.isOrderly_of_after? {κ : Type} [DecidableEq κ] {s t : CallRun κ}
    {es : List (CallEvent κ)} (h : s.after? es = some t) (hs : s.IsOrderly) : t.IsOrderly :=
  invariant_of_foldlM (fun _ _ _ h => (occur?_step h).isOrderly) h hs

/-! ## The shutdown -/

namespace CallRun

variable {κ : Type} [DecidableEq κ] {s t : CallRun κ} {e : CallEvent κ} {es : List (CallEvent κ)}

theorem Step.isShutDown (h : Step s e t) (hs : s.queue.isShutDown = true) :
    t.queue.isShutDown = true := by
  cases h with
  | outside he hu => exact (QueueRun.occur?_standing hu).isShutDown hs
  | @done k => exact (s.queue.isShutDown_done k).trans hs
  | shutDown => rfl
  | @looked task got => exact (s.queue.isShutDown_poll task).trans hs
  | _ => exact hs

theorem isShutDown_of_after? (h : s.after? es = some t) (hs : s.queue.isShutDown = true) :
    t.queue.isShutDown = true :=
  invariant_of_foldlM (fun _ _ _ h => (occur?_step h).isShutDown) h hs

theorem not_isShutDown_of_after? (h : s.after? es = some t) (ht : t.queue.isShutDown = false) :
    s.queue.isShutDown = false := by
  rw [Bool.eq_false_iff] at ht ⊢
  exact fun hs => ht (isShutDown_of_after? h hs)

end CallRun

/-! ## Whole operations -/

/-- A key is put at the end of the queue and somebody rung, or neither. -/
def WorkQueue.RingsIfPut {κ : Type} (q r : WorkQueue κ) : Prop :=
  r.queue = q.queue ∧ r.room = q.room ∨ ∃ k, r.queue = q.queue ++ [k] ∧ r.room = q.room.ring

theorem WorkQueue.RingsIfPut.prefix_queue {κ : Type} {q r : WorkQueue κ} (h : q.RingsIfPut r) :
    q.queue <+: r.queue := by
  rcases h with ⟨hq, -⟩ | ⟨k, hq, -⟩
  · exact hq ▸ List.prefix_rfl
  · exact hq ▸ List.prefix_append _ _

namespace WorkQueue

variable {κ : Type} [DecidableEq κ] (q : WorkQueue κ) (k : κ)

theorem ringsIfPut_add : q.RingsIfPut (q.add k) := by
  unfold add
  split
  · exact .inl ⟨rfl, rfl⟩
  · split
    · exact .inl ⟨rfl, rfl⟩
    · exact .inr ⟨k, rfl, rfl⟩

theorem ringsIfPut_addAfter (now : Nat) (delay : Duration) :
    q.RingsIfPut (q.addAfter now k delay) := by
  have hadded := q.addedAfter_addAfter now k delay
  generalize q.addAfter now k delay = r at hadded ⊢
  cases hadded with
  | atOnce => exact q.ringsIfPut_add k
  | kept | set => exact .inl ⟨rfl, rfl⟩

theorem ringsIfPut_expire (a : Alarm κ) : q.RingsIfPut (q.expire a).2 := by
  unfold expire
  dsimp only
  split <;> exact .inl ⟨rfl, rfl⟩

theorem ringsIfPut_done : q.RingsIfPut (q.done k) := by
  unfold done
  dsimp only
  split
  · exact .inr ⟨k, rfl, rfl⟩
  · exact .inl ⟨rfl, rfl⟩

end WorkQueue

theorem QueueRun.ringsIfPut_of_plain {κ : Type} [DecidableEq κ] {s t : QueueRun κ}
    {e : QueueEvent κ} (he : e.isPlain = true) (h : s.occur? e = some t) :
    s.queue.RingsIfPut t.queue := by
  cases e with
  | add k => cases h; exact s.queue.ringsIfPut_add k
  | addAfter k delay => cases h; exact s.queue.ringsIfPut_addAfter k s.now delay
  | countFailure | forget | tick => cases h; exact .inl ⟨rfl, rfl⟩
  | expire a =>
    rw [occur?] at h
    split at h
    · cases h; exact s.queue.ringsIfPut_expire a
    · cases h
  | ring k =>
    rw [occur?] at h
    split at h
    · cases h; exact s.queue.ringsIfPut_add k
    · cases h
  | next | abandon | done | shutDown => cases he

namespace CallRun

variable {κ : Type} [DecidableEq κ] {s : CallRun κ} {task : Nat}

theorem after?_unlocked {t : QueueRun κ} (h : s.queue.RingsIfPut t.queue) :
    ∃ es, (s.unlocked t).after? es = some { s with toQueueRun := t } ∧ ∀ f ∈ es, f = .ring := by
  rcases h with ⟨hq, hr⟩ | ⟨k, hq, hr⟩
  · refine ⟨[], ?_, by simp⟩
    rw [after?_nil, unlocked, hq, ← hr, Nat.sub_self]
    rfl
  · refine ⟨[.ring], ?_, by simp⟩
    have howed : t.queue.queue.length - s.queue.queue.length = 1 := by simp [hq]
    rw [after?_cons]
    refine ⟨_, if_pos (by rw [unlocked, howed]; exact Nat.succ_pos _), ?_⟩
    rw [after?_nil, unlocked, howed, ← hr]
    rfl

/-- What others do at once is what they do under the lock, and a ring for a key that they put in
the queue. -/
theorem after?_plain {t : QueueRun κ} {e : QueueEvent κ} (he : e.isPlain = true)
    (h : s.toQueueRun.occur? e = some t) :
    ∃ es, s.after? (.outside e :: es) = some { s with toQueueRun := t } ∧ ∀ f ∈ es, f = .ring := by
  obtain ⟨es, hes, hring⟩ := after?_unlocked (QueueRun.ringsIfPut_of_plain he h)
  exact ⟨es, after?_cons.2 ⟨_, by rw [occur?, if_pos he, h]; rfl, hes⟩, hring⟩

theorem after?_done (s : CallRun κ) (k : κ) :
    ∃ es, s.after? (.done k :: es) = some { s with queue := s.queue.done k } ∧
      ∀ f ∈ es, f = .ring := by
  obtain ⟨es, hes, hring⟩ := after?_unlocked (s := s)
    (t := { s.toQueueRun with queue := s.queue.done k }) (s.queue.ringsIfPut_done k)
  exact ⟨es, after?_cons.2 ⟨_, rfl, hes⟩, hring⟩

theorem after?_shutDown (s : CallRun κ) :
    s.after? [.shutDown, .ringAll] = some { s with queue := s.queue.shutDown } := by
  simp [after?, occur?, withRoom, unlocked, WorkQueue.shutDown]

theorem erase_calls (hc : task ∉ s.calls.map (·.1)) (stage : CallStage κ) :
    (s.calls ++ [(task, stage)]).erase (task, stage) = s.calls := by
  have hn : (task, stage) ∉ s.calls := fun h => hc (List.mem_map_of_mem h)
  rw [List.erase_append_right _ hn, List.erase_cons_head, List.append_nil]

/-- A task that asks for a key, and that nobody comes between, does what it does at once. -/
theorem after?_call {q : WorkQueue κ} {got : Polled κ} (hc : task ∉ s.calls.map (·.1))
    (hp : task ∉ s.queue.room.present) (h : s.queue.poll task = (got, q)) :
    ∃ es, s.after? (.call task :: es) = some { s with
      queue := q
      calls := if got = .pending then s.calls ++ [(task, .asleep)] else s.calls } := by
  have hw : task ∉ s.queue.room.waiting := fun h => hp (List.mem_append_left _ h)
  have hresume := WaitingRoom.resume_of_not_mem hp
  have hleave := WaitingRoom.leave_enlist hp
  have herase := fun stage => erase_calls hc stage
  cases hd : s.queue.isShutDown with
  | true =>
    rw [WorkQueue.poll_of_isShutDown hd] at h
    cases h
    refine ⟨[.enlist task, .look task .shutDown, .leave task none], ?_⟩
    simp [after?, occur?, hc, moved, herase, withRoom, unlocked, WorkQueue.poll_of_isShutDown, hd,
      Polled.stage, hresume, hleave]
  | false =>
    cases hq : s.queue.queue with
    | cons k rest =>
      rw [WorkQueue.poll_of_cons hd hq] at h
      cases h
      refine ⟨[.enlist task, .look task (.key k), .leave task (some k)], ?_⟩
      simp [after?, occur?, hc, moved, herase, withRoom, unlocked, WorkQueue.poll, hd, hq,
        Polled.stage, hresume, hleave]
    | nil =>
      rw [WorkQueue.poll_of_nil hd hq] at h
      cases h
      cases hr : s.queue.room.permit with
      | true =>
        -- the permit may be of a key that is gone, so the call looks once more
        have henlist : s.queue.room.enlist task = s.queue.room.takePermit := if_pos hr
        have hagain : s.queue.room.takePermit.resume task = s.queue.room.takePermit :=
          WaitingRoom.resume_of_not_mem hp
        have henter : s.queue.room.takePermit.enlist task = s.queue.room.takePermit.enter task :=
          rfl
        have hgone : task ∉ s.queue.room.takePermit.waiting := hw
        refine ⟨[.enlist task, .look task .pending, .wake task, .enlist task,
          .look task .pending], ?_⟩
        simp [after?, occur?, hc, moved, herase, withRoom, unlocked, WorkQueue.poll, hd, hq,
          Polled.stage, hresume, henlist, hagain, henter, hgone]
      | false =>
        have henlist : s.queue.room.enlist task = s.queue.room.takePermit.enter task := by
          rw [WaitingRoom.enlist, if_neg (by simp [hr]), WaitingRoom.takePermit, ← hr]
        refine ⟨[.enlist task, .look task .pending], ?_⟩
        simp [after?, occur?, hc, moved, herase, withRoom, unlocked, WorkQueue.poll, hd, hq,
          Polled.stage, hresume, henlist]

end CallRun

end ClusterOperator

import ClusterOperator.Proofs.Queue.Standing
import ClusterOperator.Proofs.Queue.Timing
import Mathlib.Data.List.Induction

/-!
# Stray ends of passes

A queue does not know who is done with a key. Whoever says so of a key that is in no pass leaves the
queue as it is if the key is not dirty; a dirty key is queued once more, although it is queued
already.

* `QueueRun.occurFreely?`, `QueueRun.afterFreely?` : runs in which anybody may be done with any key;
* `QueueRun.occurFreely?_standing` : how such an event moves keys;
* `WorkQueue.IsStray` : being done with a key now is out of place; `done_eq_self_iff`,
  `done_of_isStray`, `done_done_iff`;
* `QueueRun.isPlaced_of_afterFreely?`, `QueueRun.isApart_of_afterFreely?` : what is left of the
  order of keys, and when all of it is;
* `done_idle_iff` : when the end of a pass that is not under way changes nothing.
-/

namespace ClusterOperator

variable {κ : Type} [DecidableEq κ]

/-! ## Runs without holders -/

namespace QueueRun

/-- The run after an event, if it can happen; anybody may be done with any key. -/
def occurFreely? (s : QueueRun κ) : QueueEvent κ → Option (QueueRun κ)
  | .done task k => some { s with queue := s.queue.done k, held := s.held.erase (task, k) }
  | e => s.occur? e

def afterFreely? (s : QueueRun κ) (es : List (QueueEvent κ)) : Option (QueueRun κ) :=
  es.foldlM occurFreely? s

theorem afterFreely?_concat {s t : QueueRun κ} {es : List (QueueEvent κ)} {e : QueueEvent κ} :
    s.afterFreely? (es ++ [e]) = some t ↔
      ∃ u, s.afterFreely? es = some u ∧ u.occurFreely? e = some t := by
  simp [afterFreely?, List.foldlM_append, Option.bind_eq_some_iff]

/-- An event moves keys as it does where keys have holders, or somebody is done with a key. -/
theorem occurFreely?_standing {s t : QueueRun κ} {e : QueueEvent κ}
    (h : s.occurFreely? e = some t) :
    (s.standing.Step e t.standing ∧ ∀ task k, e ≠ .done task k) ∨
      ∃ task k, e = .done task k ∧ t.queue = s.queue.done k := by
  cases e with
  | done task k =>
    cases h
    exact Or.inr ⟨task, k, rfl, rfl⟩
  | _ => exact Or.inl ⟨occur?_standing h, fun _ _ he => by cases he⟩

end QueueRun

/-! ## The end of a pass -/

namespace WorkQueue

variable {q : WorkQueue κ} {k : κ}

/-- A key that is in no pass waits to be handed out, so that nobody can be done with it. -/
def IsStray (q : WorkQueue κ) (k : κ) : Prop :=
  k ∉ q.processing ∧ k ∈ q.dirty ∧ q.isShutDown = false

theorem filter_processing (hk : k ∉ q.processing) :
    q.processing.filter (· ≠ k) = q.processing := by
  rw [List.filter_eq_self]
  rintro l hl
  have hne : l ≠ k := fun h => hk (h ▸ hl)
  simpa using hne

/-- The end of a pass that is not under way changes nothing if the key is not dirty. -/
theorem done_of_not_isStray (hk : k ∉ q.processing) (h : ¬ q.IsStray k) : q.done k = q := by
  have hclean : ¬ (k ∈ q.dirty ∧ ¬ q.isShutDown) := fun ⟨hd, hs⟩ =>
    h ⟨hk, hd, Bool.eq_false_iff.2 hs⟩
  unfold done
  dsimp only
  rw [if_neg hclean, filter_processing hk]

/-- A stray end of a pass queues the key once more and wakes a task for it. -/
theorem done_of_isStray (h : q.IsStray k) :
    q.done k = { q with queue := q.queue ++ [k], room := q.room.ring } := by
  obtain ⟨hk, hd, hs⟩ := h
  unfold done
  dsimp only
  rw [if_pos ⟨hd, by simp [hs]⟩, filter_processing hk]

theorem done_eq_self_iff (hk : k ∉ q.processing) : q.done k = q ↔ ¬ q.IsStray k := by
  refine ⟨fun h hstray => ?_, done_of_not_isStray hk⟩
  have hqueue := congrArg (·.queue.length) ((done_of_isStray hstray).symm.trans h)
  simp at hqueue

theorem isStray_done_iff : (q.done k).IsStray k ↔ k ∈ q.dirty ∧ q.isShutDown = false := by
  have hdirty : (q.done k).dirty = q.dirty := by
    obtain ⟨_, _, h⟩ := q.done_eq k
    rw [h]
  unfold IsStray
  rw [hdirty, q.isShutDown_done k, and_iff_right (q.not_mem_processing_done k)]

end WorkQueue

/-! ## Every run -/

namespace QueueRun

variable {s t : QueueRun κ} {es : List (QueueEvent κ)}

theorem isPlaced_of_occurFreely? {e : QueueEvent κ} (h : s.occurFreely? e = some t)
    (hs : s.standing.IsPlaced) : t.standing.IsPlaced := by
  rcases occurFreely?_standing h with ⟨hstep, -⟩ | ⟨task, k, -, hqueue⟩
  · exact hstep.isPlaced hs
  · obtain ⟨q, now, due, held⟩ := t
    subst hqueue
    unfold standing WorkQueue.done
    dsimp only
    split
    · exact hs.requeued k held
    · next hclean => exact hs.finished (by simpa [standing, or_iff_not_imp_left] using hclean) held

theorem isPlaced_of_afterFreely? (policy : BackoffPolicy)
    (h : (start policy).afterFreely? es = some s) : s.standing.IsPlaced :=
  invariant_of_foldlM (fun _ _ _ h => isPlaced_of_occurFreely? h) h
    (Standing.IsSerial.start policy).placed_of_dirty

theorem isApart_of_occurFreely? {e : QueueEvent κ} (h : s.occurFreely? e = some t)
    (hs : s.standing.IsApart) (hstray : ∀ task k, e = .done task k → ¬ s.queue.IsStray k) :
    t.standing.IsApart := by
  rcases occurFreely?_standing h with ⟨hstep, hdone⟩ | ⟨task, k, rfl, hqueue⟩
  · exact hstep.isApart hs fun task k he => absurd he (hdone task k)
  · obtain ⟨q, now, due, held⟩ := t
    subst hqueue
    by_cases hk : k ∈ s.queue.processing
    · unfold standing WorkQueue.done
      dsimp only
      split
      · next hd => exact hs.requeued (fun hq => hs.not_processing k hq hk) hd.1 held
      · exact hs.finished k held
    · rw [WorkQueue.done_of_not_isStray hk (hstray task k rfl)]
      exact { hs with }

theorem isApart_of_afterFreely? (policy : BackoffPolicy)
    (h : (start policy).afterFreely? es = some s)
    (hstray : ∀ fs task k u, fs ++ [.done task k] <+: es →
      (start policy).afterFreely? fs = some u → ¬ u.queue.IsStray k) : s.standing.IsApart := by
  induction es using List.reverseRecOn generalizing s with
  | nil =>
    cases h
    exact (Standing.IsSerial.start policy).isApart
  | append_singleton es e ih =>
    obtain ⟨u, hu, he⟩ := afterFreely?_concat.1 h
    have hu' := ih hu fun fs task k v hfs => hstray fs task k v
      (hfs.trans (List.prefix_append es [e]))
    refine isApart_of_occurFreely? he hu' ?_
    rintro task k rfl
    exact hstray es task k u (List.prefix_refl _) hu

theorem mem_queue_of_isStray (policy : BackoffPolicy) (h : (start policy).afterFreely? es = some s)
    {k : κ} (hk : s.queue.IsStray k) : k ∈ s.queue.queue :=
  (isPlaced_of_afterFreely? policy h hk.2.2 k hk.2.1).resolve_right hk.1

end QueueRun

/-- In every run in which anybody may be done with any key: being done with a key that is in no pass
leaves all of the queue as it is exactly if the key is not dirty or the queue is shut down, and so
does being done with any key a second time. Otherwise the key, which is queued already, is queued
once more. No key is ever queued twice exactly if nobody is done so with a key. -/
theorem done_idle_iff (policy : BackoffPolicy) {es : List (QueueEvent κ)} {s : QueueRun κ}
    (h : (QueueRun.start policy).afterFreely? es = some s) :
    (∀ k, k ∉ s.queue.processing →
      (s.queue.done k = s.queue ↔ k ∉ s.queue.dirty ∨ s.queue.isShutDown = true) ∧
      (k ∈ s.queue.dirty → s.queue.isShutDown = false → k ∈ s.queue.queue ∧
        s.queue.done k =
          { s.queue with queue := s.queue.queue ++ [k], room := s.queue.room.ring })) ∧
    (∀ k, (s.queue.done k).done k = s.queue.done k ↔
      k ∉ s.queue.dirty ∨ s.queue.isShutDown = true) ∧
    ((∀ fs u, fs <+: es → (QueueRun.start policy).afterFreely? fs = some u →
        u.queue.queue.Nodup) ↔
      ∀ fs task k u, fs ++ [.done task k] <+: es →
        (QueueRun.start policy).afterFreely? fs = some u →
        k ∈ u.queue.processing ∨ k ∉ u.queue.dirty ∨ u.queue.isShutDown = true) := by
  have hclean : ∀ (q : WorkQueue κ) k, (¬ (k ∈ q.dirty ∧ q.isShutDown = false)) ↔
      k ∉ q.dirty ∨ q.isShutDown = true := fun q k => by
    rw [not_and_or, Bool.not_eq_false]
  have horderly : ∀ (q : WorkQueue κ) k, ¬ q.IsStray k ↔
      k ∈ q.processing ∨ k ∉ q.dirty ∨ q.isShutDown = true := fun q k => by
    rw [WorkQueue.IsStray, not_and_or, hclean, not_not]
  refine ⟨fun k hk => ⟨?_, fun hd hns => ?_⟩, fun k => ?_, fun hnodup fs task k u hfs hu => ?_,
    fun hdones fs u hfs hu => ?_⟩
  · rw [WorkQueue.done_eq_self_iff hk, horderly, or_iff_right hk]
  · have hstray : s.queue.IsStray k := ⟨hk, hd, hns⟩
    exact ⟨QueueRun.mem_queue_of_isStray policy h hstray, WorkQueue.done_of_isStray hstray⟩
  · rw [WorkQueue.done_eq_self_iff (WorkQueue.not_mem_processing_done _ k),
      WorkQueue.isStray_done_iff, hclean]
  · -- a stray end queues a key that is queued already
    rw [← horderly]
    intro hstray
    have hmem := QueueRun.mem_queue_of_isStray policy hu hstray
    have htwice := hnodup _ _ hfs (QueueRun.afterFreely?_concat.2 ⟨u, hu, rfl⟩)
    rw [WorkQueue.done_of_isStray hstray] at htwice
    exact (List.nodup_append.1 htwice).2.2 k hmem k (List.mem_singleton_self k) rfl
  · refine (QueueRun.isApart_of_afterFreely? policy hu fun gs task k v hgs hv => ?_).queued_nodup
    exact (horderly _ _).2 (hdones gs task k v (hgs.trans hfs) hv)

/-- A worker is done with a key twice, and nothing was added meanwhile. -/
theorem done_idle_iff_after_pass :
    ∃ s : QueueRun Nat,
      (QueueRun.start {}).afterFreely? [.add 1, .next 0 (.key 1), .add 2, .done 0 1] = some s ∧
      1 ∉ s.queue.processing ∧ 1 ∉ s.queue.dirty ∧ s.queue.queue = [2] ∧
      s.queue.done 1 = s.queue ∧ s.queue.done 2 ≠ s.queue ∧ (s.queue.done 2).queue = [2, 2] := by
  obtain ⟨s, hs, hp, hd, hq, hns⟩ : ∃ s : QueueRun Nat,
      (QueueRun.start {}).afterFreely? [.add 1, .next 0 (.key 1), .add 2, .done 0 1] = some s ∧
        s.queue.processing = [] ∧ s.queue.dirty = [2] ∧ s.queue.queue = [2] ∧
        s.queue.isShutDown = false := ⟨_, rfl, rfl, rfl, rfl, rfl⟩
  have hidle : ∀ k, k ∉ s.queue.processing := by simp [hp]
  have h := (done_idle_iff {} hs).1
  have htwice := ((h 2 (hidle 2)).2 (by simp [hd]) hns).2
  refine ⟨s, hs, hidle 1, by simp [hd], hq, (h 1 (hidle 1)).1.2 (Or.inl (by simp [hd])), ?_, ?_⟩
  · rw [Ne, (h 2 (hidle 2)).1]
    simp [hd, hns]
  · rw [htwice]
    exact congrArg (· ++ [2]) hq

/-- Somebody is done with a key that is only queued. It is queued twice, then once more, and two
tasks are handed it at once. -/
theorem queued_twice_when_done :
    ∃ s : QueueRun Nat, (QueueRun.start {}).afterFreely? [.add 1] = some s ∧
      1 ∉ s.queue.processing ∧ s.queue.done 1 ≠ s.queue ∧
      (s.queue.done 1).done 1 ≠ s.queue.done 1 ∧
      ∃ t : QueueRun Nat, s.afterFreely? [.done 0 1] = some t ∧ t.queue.queue = [1, 1] ∧
        ∃ u : QueueRun Nat, t.afterFreely? [.next 0 (.key 1), .next 1 (.key 1)] = some u ∧
          u.held = [(0, 1), (1, 1)] :=
  ⟨_, rfl, by decide, by decide, by decide, _, rfl, rfl, _, rfl, rfl⟩

end ClusterOperator

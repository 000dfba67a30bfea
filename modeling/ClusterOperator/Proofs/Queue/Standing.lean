import ClusterOperator.Proofs.Queue.Run
import Mathlib.Data.List.Nodup

/-!
# Where the keys of a queue stand

Delays, failures and waiting tasks do not matter for where a key stands: queued, dirty, processed,
held. An event moves keys in one of eight ways.

* `Standing` : the queued, dirty, processed and held keys;
* `Standing.Step` : the ways in which an event moves them;
* `QueueRun.occur?_standing` : every event of a run moves them so;
* `Standing.IsApart`, `Standing.IsPlaced` : a key is queued once, and queued or processed but not
  both; what is dirty has its place; `Standing.Step.isApart`, `Standing.Step.isPlaced`;
* `Standing.IsSerial` : both, and what is processed is held; `Standing.Step.isSerial`, and
  `QueueRun.isSerial_of_after?` for whole runs.
-/

namespace ClusterOperator

/-- Where the keys of a queue stand. -/
structure Standing (κ : Type) where
  queued : List κ
  dirty : List κ
  processing : List κ
  isShutDown : Bool
  held : List (Nat × κ)

def QueueRun.standing {κ : Type} (s : QueueRun κ) : Standing κ where
  queued := s.queue.queue
  dirty := s.queue.dirty
  processing := s.queue.processing
  isShutDown := s.queue.isShutDown
  held := s.held

namespace Standing

variable {κ : Type} [DecidableEq κ]

/-- The ways in which an event moves keys. -/
inductive Step : Standing κ → QueueEvent κ → Standing κ → Prop where
  | quiet {s e} (h : e.isQuiet = true) : Step s e s
  /-- A signal too late, or one of many. -/
  | ignored {s e k} (h : e.signal? = some k) (hs : s.isShutDown = true ∨ k ∈ s.dirty) : Step s e s
  /-- A signal during a pass. -/
  | marked {s e k} (h : e.signal? = some k) (hs : s.isShutDown = false) (hd : k ∉ s.dirty)
      (hp : k ∈ s.processing) : Step s e { s with dirty := s.dirty ++ [k] }
  | queued {s e k} (h : e.signal? = some k) (hs : s.isShutDown = false) (hd : k ∉ s.dirty)
      (hp : k ∉ s.processing) :
      Step s e { s with dirty := s.dirty ++ [k], queued := s.queued ++ [k] }
  | handed {s task k rest} (hs : s.isShutDown = false) (hq : s.queued = k :: rest) :
      Step s (.next task (.key k)) { s with
        queued := rest
        dirty := s.dirty.filter (· ≠ k)
        processing := s.processing.insert k
        held := s.held ++ [(task, k)] }
  | finished {s task k} (hh : (task, k) ∈ s.held) (hd : k ∉ s.dirty ∨ s.isShutDown = true) :
      Step s (.done task k) { s with
        processing := s.processing.filter (· ≠ k)
        held := s.held.erase (task, k) }
  /-- The end of a pass during which its key became dirty. -/
  | requeued {s task k} (hh : (task, k) ∈ s.held) (hd : k ∈ s.dirty) (hs : s.isShutDown = false) :
      Step s (.done task k) { s with
        queued := s.queued ++ [k]
        processing := s.processing.filter (· ≠ k)
        held := s.held.erase (task, k) }
  | closed {s} : Step s .shutDown { s with isShutDown := true, queued := [] }

end Standing

/-! ## The events of a run -/

namespace QueueRun

variable {κ : Type} [DecidableEq κ]

/-- What an add does to a queue, whatever else happens with it. -/
theorem standing_add (s t : QueueRun κ) {e : QueueEvent κ} {k : κ} (h : e.signal? = some k)
    (hq : t.queue = s.queue.add k) (hh : t.held = s.held) : s.standing.Step e t.standing := by
  obtain ⟨q, now, due, held⟩ := t
  subst hq hh
  unfold WorkQueue.add
  split
  · next hk => exact .ignored h hk
  · next hk =>
    rw [not_or, Bool.not_eq_true] at hk
    split
    · next hp => exact .marked h hk.1 hk.2 hp
    · next hp => exact .queued h hk.1 hk.2 hp

theorem occur?_standing {s t : QueueRun κ} {e : QueueEvent κ} (h : s.occur? e = some t) :
    s.standing.Step e t.standing := by
  cases e with
  | add k =>
    cases h
    exact standing_add s _ rfl rfl rfl
  | addAfter k delay =>
    cases h
    have hadded := s.queue.addedAfter_addAfter s.now k delay
    generalize s.queue.addAfter s.now k delay = q at hadded ⊢
    cases hadded with
    | atOnce hd => exact standing_add s _ (k := k) (by simp [QueueEvent.signal?, hd]) rfl rfl
    | kept hd => exact .quiet (by simp [QueueEvent.isQuiet, hd])
    | set hd => exact .quiet (by simp [QueueEvent.isQuiet, hd])
  | countFailure k => cases h; exact .quiet rfl
  | forget k => cases h; exact .quiet rfl
  | expire a =>
    simp only [occur?] at h
    split at h
    · cases h
      have hs : ({ s with
          queue := (s.queue.expire a).2
          due := if (s.queue.expire a).1 then s.due ++ [a.key] else s.due } : QueueRun κ).standing =
          s.standing := by
        simp only [standing, WorkQueue.expire]
        split <;> rfl
      rw [hs]
      exact .quiet rfl
    · cases h
  | ring k =>
    simp only [occur?] at h
    split at h
    · cases h
      exact standing_add s _ rfl rfl rfl
    · cases h
  | tick nanos => cases h; exact .quiet rfl
  | next task got =>
    cases hs : s.queue.isShutDown with
    | true =>
      simp only [occur?, WorkQueue.poll_of_isShutDown hs] at h
      split at h
      · next hgot => subst hgot; cases h; exact .quiet (e := .next task .shutDown) rfl
      · cases h
    | false =>
      cases hq : s.queue.queue with
      | nil =>
        simp only [occur?, WorkQueue.poll_of_nil hs hq] at h
        split at h
        · next hgot => subst hgot; cases h; exact .quiet (e := .next task .pending) rfl
        · cases h
      | cons k rest =>
        simp only [occur?, WorkQueue.poll_of_cons hs hq] at h
        split at h
        · next hgot => subst hgot; cases h; exact .handed hs hq
        · cases h
  | abandon task => cases h; exact .quiet rfl
  | done task k =>
    simp only [occur?] at h
    split at h
    · next hh =>
      cases h
      unfold WorkQueue.done
      dsimp only
      split
      · next hk => exact .requeued hh hk.1 (Bool.eq_false_iff.2 hk.2)
      · next hk => exact .finished hh (by simpa [standing, or_iff_not_imp_left] using hk)
    · cases h
  | shutDown => cases h; exact .closed

end QueueRun

/-! ## Each key in one place -/

namespace Standing

variable {κ : Type}

/-- A key is queued once, and queued or processed but not both. Before the shutdown what is queued
is dirty. -/
structure IsApart (s : Standing κ) : Prop where
  queued_nodup : s.queued.Nodup
  not_processing : ∀ k ∈ s.queued, k ∉ s.processing
  dirty_of_queued : s.isShutDown = false → ∀ k ∈ s.queued, k ∈ s.dirty

/-- Before the shutdown what is dirty is queued, or will be when its pass is done. -/
def IsPlaced (s : Standing κ) : Prop :=
  s.isShutDown = false → ∀ k ∈ s.dirty, k ∈ s.queued ∨ k ∈ s.processing

/-- A key is queued once, and queued or processed but not both. What is processed is held, each
key by one task. Before the shutdown what is dirty is what is queued or will be. -/
structure IsSerial (s : Standing κ) : Prop where
  queued_nodup : s.queued.Nodup
  not_processing : ∀ k ∈ s.queued, k ∉ s.processing
  processing_iff : ∀ k, k ∈ s.processing ↔ k ∈ s.held.map (·.2)
  held_nodup : (s.held.map (·.2)).Nodup
  dirty_of_queued : s.isShutDown = false → ∀ k ∈ s.queued, k ∈ s.dirty
  placed_of_dirty : s.isShutDown = false → ∀ k ∈ s.dirty, k ∈ s.queued ∨ k ∈ s.processing
  queued_of_isShutDown : s.isShutDown = true → s.queued = []

theorem IsSerial.start (policy : BackoffPolicy) :
    (QueueRun.start policy : QueueRun κ).standing.IsSerial := by
  constructor <;> simp [QueueRun.start, QueueRun.standing]

theorem IsSerial.isApart {s : Standing κ} (h : s.IsSerial) : s.IsApart :=
  ⟨h.queued_nodup, h.not_processing, h.dirty_of_queued⟩

variable [DecidableEq κ]

theorem IsApart.finished {s : Standing κ} (hs : s.IsApart) (k : κ) (held : List (Nat × κ)) :
    ({ s with processing := s.processing.filter (· ≠ k), held } : Standing κ).IsApart :=
  { hs with not_processing := fun l hl hm => hs.not_processing l hl (List.mem_of_mem_filter hm) }

theorem IsApart.requeued {s : Standing κ} (hs : s.IsApart) {k : κ} (hq : k ∉ s.queued)
    (hd : k ∈ s.dirty) (held : List (Nat × κ)) :
    ({ s with
        queued := s.queued ++ [k]
        processing := s.processing.filter (· ≠ k)
        held } : Standing κ).IsApart := by
  refine ⟨hs.queued_nodup.append (List.nodup_singleton k) (by simpa using hq), ?_, ?_⟩
  · intro l hl hm
    obtain ⟨hm, hne⟩ : l ∈ s.processing ∧ l ≠ k := by simpa using hm
    rcases List.mem_append.1 hl with hl | hl
    · exact hs.not_processing l hl hm
    · exact hne (List.mem_singleton.1 hl)
  · intro hns l hl
    rcases List.mem_append.1 hl with hl | hl
    · exact hs.dirty_of_queued hns l hl
    · exact List.mem_singleton.1 hl ▸ hd

theorem Step.isApart {s t : Standing κ} {e : QueueEvent κ} (h : s.Step e t) (hs : s.IsApart)
    (hdone : ∀ task k, e = .done task k → k ∈ s.processing) : t.IsApart := by
  cases h with
  | quiet | ignored => exact hs
  | marked => exact { hs with
      dirty_of_queued := fun hns l hl => List.mem_append_left _ (hs.dirty_of_queued hns l hl) }
  | @queued _ k _ hns hd hp =>
    have hq : k ∉ s.queued := fun hk => hd (hs.dirty_of_queued hns k hk)
    refine ⟨hs.queued_nodup.append (List.nodup_singleton k) (by simpa using hq), ?_, ?_⟩
    · intro l hl
      rcases List.mem_append.1 hl with hl | hl
      · exact hs.not_processing l hl
      · rw [List.mem_singleton.1 hl]
        exact hp
    · intro _ l hl
      exact (List.mem_append.1 hl).elim
        (fun hl => List.mem_append_left _ (hs.dirty_of_queued hns l hl))
        (fun hl => List.mem_append_right _ hl)
  | @handed task k rest hns hq =>
    have hnd := hs.queued_nodup
    rw [hq, List.nodup_cons] at hnd
    refine ⟨hnd.2, ?_, ?_⟩
    · intro l hl
      rw [List.mem_insert_iff, not_or]
      exact ⟨fun e => hnd.1 (e ▸ hl), hs.not_processing l (by simp [hq, hl])⟩
    · intro _ l hl
      have hne : l ≠ k := fun e => hnd.1 (e ▸ hl)
      simpa [hne] using hs.dirty_of_queued hns l (by simp [hq, hl])
  | @finished task k => exact hs.finished k _
  | @requeued task k _ hd =>
    exact hs.requeued (fun hq => hs.not_processing k hq (hdone task k rfl)) hd _
  | closed => exact ⟨List.nodup_nil, by simp, by simp⟩

theorem IsPlaced.finished {s : Standing κ} (hs : s.IsPlaced) {k : κ}
    (hd : k ∉ s.dirty ∨ s.isShutDown = true) (held : List (Nat × κ)) :
    ({ s with processing := s.processing.filter (· ≠ k), held } : Standing κ).IsPlaced := by
  intro hns l hl
  have hne : l ≠ k := by
    rintro rfl
    rcases hd with hd | hd
    · exact hd hl
    · rw [show s.isShutDown = false from hns] at hd
      cases hd
  exact (hs hns l hl).imp_right fun h => by simp [h, hne]

theorem IsPlaced.requeued {s : Standing κ} (hs : s.IsPlaced) (k : κ) (held : List (Nat × κ)) :
    ({ s with
        queued := s.queued ++ [k]
        processing := s.processing.filter (· ≠ k)
        held } : Standing κ).IsPlaced := by
  intro hns l hl
  by_cases hne : l = k
  · exact Or.inl (by simp [hne])
  · exact (hs hns l hl).imp (List.mem_append_left _) fun h => by simp [h, hne]

theorem Step.isPlaced {s t : Standing κ} {e : QueueEvent κ} (h : s.Step e t) (hs : s.IsPlaced) :
    t.IsPlaced := by
  cases h with
  | quiet | ignored => exact hs
  | marked _ hns _ hp =>
    intro _ l hl
    rcases List.mem_append.1 hl with hl | hl
    · exact hs hns l hl
    · rw [List.mem_singleton.1 hl]
      exact Or.inr hp
  | queued _ hns =>
    intro _ l hl
    rcases List.mem_append.1 hl with hl | hl
    · exact (hs hns l hl).imp_left (List.mem_append_left _)
    · exact Or.inl (List.mem_append_right _ hl)
  | @handed task k rest hns hq =>
    intro _ l hl
    obtain ⟨hl, hne⟩ : l ∈ s.dirty ∧ l ≠ k := by simpa using hl
    rcases hs hns l hl with h | h
    · exact Or.inl (by simpa [hq, hne] using h)
    · exact Or.inr (List.mem_insert_of_mem h)
  | finished _ hd => exact hs.finished hd _
  | @requeued task k => exact hs.requeued k _
  | closed => exact fun hns => by cases hns

/-- A task that is done with a key held it, and so the key was in a pass. -/
theorem IsSerial.processing_of_done {s t : Standing κ} {task : Nat} {k : κ} (hs : s.IsSerial)
    (h : s.Step (.done task k) t) : k ∈ s.processing := by
  cases h with
  | finished hh | requeued hh => exact (hs.processing_iff k).2 (List.mem_map.2 ⟨_, hh, rfl⟩)
  | quiet h | ignored h | marked h | queued h => cases h

/-- A key that is held once is not held after its holder is done. -/
theorem mem_map_erase {held : List (Nat × κ)} (h : (held.map (·.2)).Nodup) {task : Nat} {k : κ}
    (hk : (task, k) ∈ held) (l : κ) :
    l ∈ (held.erase (task, k)).map (·.2) ↔ l ∈ held.map (·.2) ∧ l ≠ k := by
  have hn : held.Nodup := List.Nodup.of_map _ h
  simp only [List.mem_map, hn.mem_erase_iff]
  constructor
  · rintro ⟨⟨u, m⟩, ⟨hne, hm⟩, rfl⟩
    refine ⟨⟨_, hm, rfl⟩, ?_⟩
    rintro rfl
    exact hne (List.inj_on_of_nodup_map h hm hk rfl)
  · rintro ⟨⟨⟨u, m⟩, hm, rfl⟩, hne⟩
    exact ⟨_, ⟨fun e => hne (congrArg Prod.snd e), hm⟩, rfl⟩

theorem Step.isSerial {s t : Standing κ} {e : QueueEvent κ} (h : s.Step e t) (hs : s.IsSerial) :
    t.IsSerial := by
  have hapart : t.IsApart := h.isApart hs.isApart fun task k he => by
    subst he
    exact hs.processing_of_done h
  have hplaced : t.IsPlaced := h.isPlaced hs.placed_of_dirty
  refine ⟨hapart.queued_nodup, hapart.not_processing, ?_, ?_, hapart.dirty_of_queued, hplaced, ?_⟩
  -- what is processed is held
  · intro l
    cases h with
    | handed => simp [List.mem_insert_iff, hs.processing_iff, or_comm]
    | finished hh | requeued hh => simp [mem_map_erase hs.held_nodup hh, hs.processing_iff]
    | _ => exact hs.processing_iff l
  -- by one task
  · cases h with
    | @handed task k rest _ hq =>
      have hk : k ∉ s.held.map (·.2) :=
        fun h => hs.not_processing k (by simp [hq]) ((hs.processing_iff k).2 h)
      simpa using hs.held_nodup.append (List.nodup_singleton k) (by simpa using hk)
    | finished | requeued => exact hs.held_nodup.sublist (List.erase_sublist.map _)
    | _ => exact hs.held_nodup
  -- and after the shutdown nothing is queued
  · intro hshut
    cases h with
    | queued _ hns | handed hns | requeued _ _ hns =>
      rw [hns] at hshut
      cases hshut
    | closed => rfl
    | _ => exact hs.queued_of_isShutDown hshut

theorem Step.mem_held {s t : Standing κ} {e : QueueEvent κ} (h : s.Step e t) {task : Nat} {k : κ}
    (hk : (task, k) ∈ s.held) (hne : e ≠ .done task k) : (task, k) ∈ t.held := by
  cases h with
  | handed => exact List.mem_append_left _ hk
  | finished => exact (List.mem_erase_of_ne (fun h => hne (by cases h; rfl))).2 hk
  | requeued => exact (List.mem_erase_of_ne (fun h => hne (by cases h; rfl))).2 hk
  | _ => exact hk

theorem Step.holds {s t : Standing κ} {task : Nat} {k : κ} (h : s.Step (.next task (.key k)) t) :
    (task, k) ∈ t.held := by
  cases h with
  | handed => exact List.mem_append_right _ (List.mem_singleton_self _)
  | quiet h => cases h
  | ignored h => cases h
  | marked h => cases h
  | queued h => cases h

end Standing

namespace QueueRun

variable {κ : Type} [DecidableEq κ]

theorem mem_held_of_after? {s t : QueueRun κ} {es : List (QueueEvent κ)} (h : s.after? es = some t)
    {task : Nat} {k : κ} (hes : ∀ e ∈ es, e ≠ .done task k) (hk : (task, k) ∈ s.held) :
    (task, k) ∈ t.held := by
  induction es generalizing s with
  | nil => cases h; exact hk
  | cons e es ih =>
    obtain ⟨u, hu, h⟩ := after?_cons.1 h
    exact ih h (fun f hf => hes f (List.mem_cons_of_mem _ hf))
      ((occur?_standing hu).mem_held hk (hes e List.mem_cons_self))

theorem isSerial_of_after? {s t : QueueRun κ} {es : List (QueueEvent κ)}
    (h : s.after? es = some t) (hs : s.standing.IsSerial) : t.standing.IsSerial :=
  invariant_of_foldlM (fun _ _ _ h => (occur?_standing h).isSerial) h hs

end QueueRun

end ClusterOperator

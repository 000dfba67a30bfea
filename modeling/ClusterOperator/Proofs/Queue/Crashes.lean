import ClusterOperator.Proofs.Queue.Drain

/-!
# Crashed passes

A pass that crashes takes its worker with it, and nobody is done with its key. The key stays in
processing from then on, so signals for it are marked and never answered.

* `PoolEvent.LeavesKeys` : others only send signals;
* `PoolRun.crash?`, `PoolRun.crashes` : the crash that an event is, and those of several events,
  each a worker with the key of its pass;
* `PoolRun.HasLost` : where the keys are that workers hold, when some have crashed;
  `hasLost_of_occur?`, `hasLost_of_after?`, what an event and a run do to it;
* `Worker.isServing` : a worker is left; `PoolRun.countP_isServing`, how many are;
* `processing_of_crashes` : the keys in processing, and the workers that are left;
  `processing_of_crashes_beside_pass`, a crash beside another pass;
* `crash_wedges_key` : a key that is lost to a crash.
-/

namespace ClusterOperator

/-- Others send signals, and no task of theirs asks for a key or is done with one. -/
def PoolEvent.LeavesKeys {κ : Type} (e : PoolEvent κ) : Prop :=
  ∀ f, e = .outside f → f.task? = none

def Worker.isCrashed {κ : Type} : Worker κ → Bool
  | .crashed => true
  | _ => false

/-- A worker that is there to serve the queue: it makes a pass, or asks for a key. -/
def Worker.isServing {κ : Type} (x : Worker κ) : Bool :=
  !x.isGone

/-! ## Keys that change hands -/

/-- A key is handed out in the event, or somebody is done with one. -/
def QueueEvent.movesKey {κ : Type} : QueueEvent κ → Bool
  | .next _ (.key _) | .done _ _ => true
  | _ => false

theorem QueueEvent.movesKey_of_task? {κ : Type} {e : QueueEvent κ} (h : e.task? = none) :
    e.movesKey = false := by
  cases e with
  | next | done => cases h
  | _ => rfl

section

variable {κ : Type} [DecidableEq κ]

theorem Standing.Step.held_eq {s t : Standing κ} {e : QueueEvent κ} (h : s.Step e t)
    (he : e.movesKey = false) : t.held = s.held := by
  cases h with
  | handed | finished | requeued => cases he
  | _ => rfl

theorem Standing.Step.held_of_handed {s t : Standing κ} {task : Nat} {k : κ}
    (h : s.Step (.next task (.key k)) t) : t.held = s.held ++ [(task, k)] := by
  cases h with
  | handed => rfl
  | quiet h | ignored h | marked h | queued h => cases h

theorem QueueRun.held_of_after? {s t : QueueRun κ} {es : List (QueueEvent κ)}
    (h : s.after? es = some t) (hes : ∀ e ∈ es, e.movesKey = false) : t.held = s.held := by
  induction es generalizing s with
  | nil => cases h; rfl
  | cons e es ih =>
    obtain ⟨u, hu, h⟩ := after?_cons.1 h
    rw [ih h fun f hf => hes f (List.mem_cons_of_mem e hf)]
    exact (occur?_standing hu).held_eq (hes e List.mem_cons_self)

theorem QueueRun.isShutDown_of_told {s t : QueueRun κ} {task : Nat}
    (h : s.occur? (.next task .shutDown) = some t) : t.queue.isShutDown = true := by
  cases hs : s.queue.isShutDown with
  | true =>
    simp only [occur?, WorkQueue.poll_of_isShutDown hs, if_true, Option.some.injEq] at h
    rw [← h]
    exact hs
  | false =>
    cases hq : s.queue.queue with
    | nil => simp [occur?, WorkQueue.poll_of_nil hs hq] at h
    | cons k rest => simp [occur?, WorkQueue.poll_of_cons hs hq] at h

end

namespace PoolRun

variable {κ : Type}

/-! ## Crashes -/

/-- The crash that an event is: the worker, with the key of its pass. A pass crashes, or the
deadline that it asks for lies after the end of the clock. -/
def crash? (p : PoolRun κ) : PoolEvent κ → Option (Nat × κ)
  | .endPass w .crashed =>
    match p.workers[w]? with
    | some (.working k) => some (w, k)
    | _ => none
  | .schedule w =>
    match p.workers[w]? with
    | some (.accounted k (some delay)) =>
      if p.now + delay.nanos < clockEnd then none else some (w, k)
    | _ => none
  | _ => none

section

variable [DecidableEq κ]

def crashes (p : PoolRun κ) : List (PoolEvent κ) → List (Nat × κ)
  | [] => []
  | e :: es =>
    match p.occur? e with
    | some q => (p.crash? e).toList ++ q.crashes es
    | none => []

theorem crashes_append {p q : PoolRun κ} {es : List (PoolEvent κ)} (h : p.after? es = some q)
    (fs : List (PoolEvent κ)) : p.crashes (es ++ fs) = p.crashes es ++ q.crashes fs := by
  induction es generalizing p with
  | nil => cases h; rfl
  | cons e es ih =>
    obtain ⟨r, hr, h⟩ := after?_cons.1 h
    simp only [List.cons_append, crashes, hr, ih h, List.append_assoc]

end

/-! ## The keys that are lost -/

/-- Where the keys are that workers hold: a key has a busy worker, or it is lost with its worker.
Each worker that crashed has lost one. -/
structure HasLost (p : PoolRun κ) (lost : List (Nat × κ)) : Prop where
  busy_or_lost : ∀ w k, (w, k) ∈ p.held → p.workers[w]?.bind Worker.key? = some k ∨ (w, k) ∈ lost
  kept : ∀ w k, (w, k) ∈ lost → (w, k) ∈ p.held ∧ p.workers[w]? = some .crashed
  count : p.workers.countP Worker.isCrashed = lost.length

theorem HasLost.start (policy : BackoffPolicy) (size : Nat) :
    (start policy size : PoolRun κ).HasLost [] where
  busy_or_lost _ _ h := by cases h
  kept _ _ h := by cases h
  count := by
    rw [List.length_nil, List.countP_eq_zero]
    intro x hx
    have hask : x = .asking := List.eq_of_mem_replicate hx
    rw [hask]
    exact Bool.false_ne_true

variable {p q : PoolRun κ} {e : PoolEvent κ} {lost : List (Nat × κ)} {s : QueueRun κ} {w : Nat}
  {x y : Worker κ} {k : κ} {size : Nat}

theorem HasLost.key_of_held (hp : p.HasLost lost) (hw : p.workers[w]? = some x)
    (hx : x.isCrashed = false) (hk : (w, k) ∈ p.held) : x.key? = some k := by
  rcases hp.busy_or_lost w k hk with h | h
  · rwa [hw, Option.bind_some] at h
  · have hcrashed := (hp.kept w k h).2
    rw [hw, Option.some.injEq] at hcrashed
    rw [hcrashed] at hx
    cases hx

theorem HasLost.set (hp : p.HasLost lost) (hw : p.workers[w]? = some x)
    (hx : x.isCrashed = false) (hy : y.isCrashed = false)
    (others : ∀ v k, v ≠ w → ((v, k) ∈ s.held ↔ (v, k) ∈ p.held))
    (own : ∀ k, (w, k) ∈ s.held → y.key? = some k) :
    HasLost ⟨s, p.workers.set w y⟩ lost := by
  obtain ⟨hlt, rfl⟩ := List.getElem?_eq_some_iff.1 hw
  refine ⟨fun v l hl => ?_, fun v l hl => ?_, ?_⟩
  · by_cases hvw : v = w
    · subst hvw
      rw [List.getElem?_set_self hlt]
      exact Or.inl (own l hl)
    · rw [List.getElem?_set_ne (Ne.symm hvw)]
      exact hp.busy_or_lost v l ((others v l hvw).1 hl)
  · obtain ⟨hheld, hcrashed⟩ := hp.kept v l hl
    have hvw : v ≠ w := by
      rintro rfl
      rw [hw, Option.some.injEq] at hcrashed
      rw [hcrashed] at hx
      cases hx
    rw [List.getElem?_set_ne (Ne.symm hvw)]
    exact ⟨(others v l hvw).2 hheld, hcrashed⟩
  · rw [List.countP_set hlt, hx, hy]
    exact hp.count

theorem HasLost.crash (hp : p.HasLost lost) (hw : p.workers[w]? = some x) (hx : x.key? = some k)
    (hk : (w, k) ∈ p.held) :
    HasLost { p with workers := p.workers.set w .crashed } (lost ++ [(w, k)]) := by
  have hthere : x.isCrashed = false := by
    cases x with
    | crashed => cases hx
    | _ => rfl
  obtain ⟨hlt, rfl⟩ := List.getElem?_eq_some_iff.1 hw
  refine ⟨fun v l hl => ?_, fun v l hl => ?_, ?_⟩
  · rw [List.mem_append, List.mem_singleton]
    by_cases hvw : v = w
    · subst hvw
      obtain rfl : k = l := Option.some.inj (hx.symm.trans (hp.key_of_held hw hthere hl))
      exact Or.inr (Or.inr rfl)
    · rw [List.getElem?_set_ne (Ne.symm hvw)]
      exact (hp.busy_or_lost v l hl).imp_right Or.inl
  · rw [List.mem_append, List.mem_singleton] at hl
    rcases hl with hl | hl
    · obtain ⟨hheld, hcrashed⟩ := hp.kept v l hl
      refine ⟨hheld, ?_⟩
      by_cases hvw : v = w
      · subst hvw
        exact List.getElem?_set_self hlt
      · rwa [List.getElem?_set_ne (Ne.symm hvw)]
    · cases hl
      exact ⟨hk, List.getElem?_set_self hlt⟩
  · rw [List.countP_set hlt, hthere, List.length_append, hp.count]
    rfl

/-! ## The keys in processing -/

theorem HasLost.mem_processing_iff (hp : p.HasLost lost) (hs : p.IsSound size) (k : κ) :
    k ∈ p.queue.processing ↔ k ∈ p.pool.busyKeys ∨ k ∈ lost.map (·.2) := by
  have hprocessing := hs.serial.processing_iff k
  rw [show p.queue.processing = p.standing.processing from rfl, hprocessing]
  constructor
  · intro hk
    obtain ⟨⟨w, l⟩, hheld, rfl⟩ := List.mem_map.1 hk
    rcases hp.busy_or_lost w l hheld with hbusy | hlost
    · obtain ⟨x, hx, hkey⟩ := Option.bind_eq_some_iff.1 hbusy
      exact Or.inl (List.mem_filterMap.2 ⟨x, List.mem_of_getElem? hx, hkey⟩)
    · exact Or.inr (List.mem_map_of_mem hlost)
  · rintro (hbusy | hlost)
    · obtain ⟨x, hx, hkey⟩ := List.mem_filterMap.1 hbusy
      obtain ⟨w, hw⟩ := List.getElem?_of_mem hx
      exact List.mem_map_of_mem (hs.staffed w x k hw hkey)
    · obtain ⟨⟨w, l⟩, hmem, rfl⟩ := List.mem_map.1 hlost
      exact List.mem_map_of_mem (hp.kept w l hmem).1

theorem HasLost.not_mem_busyKeys (hp : p.HasLost lost) (hs : p.IsSound size)
    (hk : k ∈ lost.map (·.2)) : k ∉ p.pool.busyKeys := by
  intro hbusy
  obtain ⟨⟨w, l⟩, hmem, rfl⟩ := List.mem_map.1 hk
  obtain ⟨x, hx, hkey⟩ := List.mem_filterMap.1 hbusy
  obtain ⟨v, hv⟩ := List.getElem?_of_mem hx
  obtain ⟨hheld, hcrashed⟩ := hp.kept w l hmem
  have hvw : v = w := congrArg Prod.fst
    (List.inj_on_of_nodup_map hs.serial.held_nodup (hs.staffed v x l hv hkey) hheld rfl)
  obtain rfl : x = .crashed := Option.some.inj (hv.symm.trans (hvw ▸ hcrashed))
  cases hkey

/-! ## What an event loses -/

variable [DecidableEq κ]

theorem workers_of_crash? (h : p.occur? (.schedule w) = some q)
    (hcrash : p.crash? (.schedule w) ≠ none) : q.workers[w]? = some .crashed := by
  simp only [crash?] at hcrash
  split at hcrash
  · next k delay hw =>
    split at hcrash
    · exact absurd rfl hcrash
    · next hend =>
      simp only [occur?, withPool, pool, hw, Pool.schedule, if_neg hend, Option.some.injEq] at h
      rw [← h]
      exact List.getElem?_set_self (List.getElem?_eq_some_iff.1 hw).1
  · exact absurd rfl hcrash

/-- An event adds its crash to what is lost, if it is one. -/
theorem hasLost_of_occur? (h : p.occur? e = some q) (he : e.LeavesKeys) (hs : p.IsSound size)
    (hp : p.HasLost lost) : q.HasLost (lost ++ (p.crash? e).toList) := by
  have hquiet : ∀ {e : PoolEvent κ}, p.crash? e = none → q.HasLost lost →
      q.HasLost (lost ++ (p.crash? e).toList) := by
    intro e hnone hq
    rwa [hnone, Option.toList_none, List.append_nil]
  cases occur?_step h with
  | @outside s f ht hq =>
    have hheld : s.held = p.held :=
      (QueueRun.occur?_standing hq).held_eq (QueueEvent.movesKey_of_task? (he f rfl))
    refine hquiet rfl ⟨fun w k hk => ?_, fun w k hk => ?_, hp.count⟩
    · exact hp.busy_or_lost w k (hheld ▸ hk)
    · exact ⟨hheld ▸ (hp.kept w k hk).1, (hp.kept w k hk).2⟩
  | @got s w k hw hq =>
    have hheld : s.held = p.held ++ [(w, k)] := (QueueRun.occur?_standing hq).held_of_handed
    refine hquiet rfl (hp.set hw rfl rfl (fun v l hvw => ?_) fun l hl => ?_)
    · simp [hheld, hvw]
    · rw [hheld, List.mem_append, List.mem_singleton] at hl
      rcases hl with hl | hl
      · cases hp.key_of_held hw rfl hl
      · cases hl
        rfl
  | @waits s w hw hq =>
    have hheld : s.held = p.held := (QueueRun.occur?_standing hq).held_eq rfl
    refine hquiet rfl ⟨fun v l hl => ?_, fun v l hl => ?_, hp.count⟩
    · exact hp.busy_or_lost v l (hheld ▸ hl)
    · exact ⟨hheld ▸ (hp.kept v l hl).1, (hp.kept v l hl).2⟩
  | @stops s w hw hq =>
    have hheld : s.held = p.held := (QueueRun.occur?_standing hq).held_eq rfl
    refine hquiet rfl (hp.set hw rfl rfl (fun v l _ => by rw [hheld]) fun l hl => ?_)
    rw [hheld] at hl
    cases hp.key_of_held hw rfl hl
  | returns hw =>
    refine hquiet rfl (hp.set hw rfl rfl (fun v l _ => Iff.rfl) fun l hl => ?_)
    have hkey := hp.key_of_held hw rfl hl
    exact hkey
  | crashes hw =>
    simp only [crash?, hw, Option.toList_some]
    exact hp.crash hw rfl (hs.staffed _ _ _ hw rfl)
  | @accounts s w k outcome delay es hw hes hq hd =>
    have hheld : s.held = p.held := QueueRun.held_of_after? hq fun f hf => by
      rcases hes f hf with rfl | rfl <;> rfl
    refine hquiet rfl (hp.set hw rfl rfl (fun v l _ => by rw [hheld]) fun l hl => ?_)
    rw [hheld] at hl
    have hkey := hp.key_of_held hw rfl hl
    exact hkey
  | @schedules s w k delay es hw hes hq =>
    have hheld : s.held = p.held := QueueRun.held_of_after? hq fun f hf => by
      obtain ⟨d, -, rfl⟩ := hes f hf
      rfl
    have hnone : p.crash? (.schedule w) = none := by
      by_contra hcrash
      have hcrashed := workers_of_crash? h hcrash
      rw [List.getElem?_set_self (List.getElem?_eq_some_iff.1 hw).1] at hcrashed
      cases hcrashed
    refine hquiet hnone (hp.set hw rfl rfl (fun v l _ => by rw [hheld]) fun l hl => ?_)
    rw [hheld] at hl
    have hkey := hp.key_of_held hw rfl hl
    exact hkey
  | overruns hw hd =>
    obtain ⟨delay, hdelay, hend⟩ := hd
    rw [Option.mem_def] at hdelay
    subst hdelay
    simp only [crash?, hw, if_neg (Nat.not_lt.2 hend), Option.toList_some]
    exact hp.crash hw rfl (hs.staffed _ _ _ hw rfl)
  | @releases w k hw =>
    have hnodup : p.held.Nodup := List.Nodup.of_map _ hs.serial.held_nodup
    refine hquiet rfl (hp.set hw rfl rfl (fun v l hvw => ?_) fun l hl => ?_)
    · exact List.mem_erase_of_ne (by simp [hvw])
    · obtain ⟨hne, hl⟩ := hnodup.mem_erase_iff.1 hl
      obtain rfl : k = l := Option.some.inj (hp.key_of_held hw rfl hl)
      exact absurd rfl hne

theorem hasLost_of_after? {es : List (PoolEvent κ)} (h : p.after? es = some q)
    (hes : ∀ e ∈ es, e.LeavesKeys) (hs : p.IsSound size) (hp : p.HasLost lost) :
    q.HasLost (lost ++ p.crashes es) := by
  induction es generalizing p lost with
  | nil =>
    cases h
    rw [crashes, List.append_nil]
    exact hp
  | cons e es ih =>
    obtain ⟨r, hr, h⟩ := after?_cons.1 h
    obtain ⟨he, hes⟩ := List.forall_mem_cons.1 hes
    have hrest := ih h hes ((occur?_step hr).isSound hs) (hasLost_of_occur? hr he hs hp)
    rw [crashes, hr, ← List.append_assoc]
    exact hrest

/-! ## The workers that are left -/

theorem Step.isShutDown_of_stops (h : Step p (.ask w) q) (hw : p.workers[w]? = some .asking)
    (hq : q.workers[w]? = some .stopped) : q.queue.isShutDown = true := by
  have hlt := (List.getElem?_eq_some_iff.1 hw).1
  cases h with
  | got =>
    rw [List.getElem?_set_self hlt] at hq
    cases hq
  | waits =>
    rw [hw] at hq
    cases hq
  | stops _ hnext => exact QueueRun.isShutDown_of_told hnext

theorem isShutDown_of_stopped {policy : BackoffPolicy} {es : List (PoolEvent κ)}
    (h : (start policy size).after? es = some p) :
    ∀ w : Nat, p.workers[w]? = some .stopped → p.queue.isShutDown = true := by
  refine (invariant_of_foldlM (P := fun p : PoolRun κ => p.IsSound size ∧
    ∀ w : Nat, p.workers[w]? = some .stopped → p.queue.isShutDown = true)
    (fun a b e h ha => ?_) h ⟨.start policy size, fun v hv => ?_⟩).2
  · have hstep := occur?_step h
    refine ⟨hstep.isSound ha.1, fun v hv => ?_⟩
    have hlt : v < a.workers.length := hstep.length_workers ▸ (List.getElem?_eq_some_iff.1 hv).1
    obtain ⟨x, hx⟩ : ∃ x, a.workers[v]? = some x := ⟨_, List.getElem?_eq_getElem hlt⟩
    obtain ⟨y, hy, hadvance⟩ := hstep.advances hx
    obtain rfl : y = .stopped := Option.some.inj (hy.symm.trans hv)
    cases hadvance with
    | kept => exact hstep.isShutDown ha.1.staffed (ha.2 v hx)
    | stops => exact hstep.isShutDown_of_stops hx hv
  · have hask : Worker.stopped = .asking :=
      List.eq_of_mem_replicate (n := max size 1) (List.mem_of_getElem? hv)
    cases hask

/-- Before the shutdown all workers are left but those that crashed. -/
theorem HasLost.countP_isServing {policy : BackoffPolicy} {es : List (PoolEvent κ)}
    (hp : p.HasLost lost) (h : (PoolRun.start policy size).after? es = some p)
    (hopen : p.queue.isShutDown = false) :
    p.workers.countP Worker.isServing + lost.length = max size 1 := by
  have hlength := (isSound_of_after? h (.start policy size)).length
  have hcrashed : p.workers.countP Worker.isCrashed = p.workers.countP (!·.isServing) := by
    refine List.countP_congr fun x hx => ?_
    obtain ⟨w, hw⟩ := List.getElem?_of_mem hx
    cases x with
    | stopped =>
      have hshut := isShutDown_of_stopped h w hw
      rw [hopen] at hshut
      cases hshut
    | _ => rfl
  rw [← hlength, ← hp.count, hcrashed]
  simpa using (List.length_eq_countP_add_countP (l := p.workers) Worker.isServing).symm

end PoolRun

/-! ## Every run -/

section

variable {κ : Type} [DecidableEq κ]

/-- In every run of a pool whose queue hands keys to its workers only, the keys in processing are
those of the passes under way and those of the passes that crashed. A key whose pass crashed stays
in processing, and no worker makes a pass over it again, whatever signals come for it. Before the
shutdown all workers are left but those that crashed. So the keys in processing are those of the
passes under way, and all workers are left, exactly if no pass crashed. -/
theorem processing_of_crashes (policy : BackoffPolicy) {size : Nat} {es : List (PoolEvent κ)}
    {p : PoolRun κ} (h : (PoolRun.start policy size).after? es = some p)
    (hes : ∀ e ∈ es, e.LeavesKeys) :
    (∀ k, k ∈ p.queue.processing ↔ k ∈ p.pool.busyKeys ∨
      k ∈ ((PoolRun.start policy size).crashes es).map (·.2)) ∧
    (∀ k ∈ ((PoolRun.start policy size).crashes es).map (·.2), ∀ fs q, p.after? fs = some q →
      (∀ e ∈ fs, e.LeavesKeys) → k ∈ q.queue.processing ∧ k ∉ q.pool.busyKeys) ∧
    (p.queue.isShutDown = false →
      p.workers.countP Worker.isServing + ((PoolRun.start policy size).crashes es).length =
        max size 1 ∧
      ((∀ k, k ∈ p.queue.processing ↔ k ∈ p.pool.busyKeys) ∧
          p.workers.countP Worker.isServing = max size 1 ↔
        (PoolRun.start policy size).crashes es = [])) := by
  have hlost : ∀ {es : List (PoolEvent κ)} {p : PoolRun κ},
      (PoolRun.start policy size).after? es = some p → (∀ e ∈ es, e.LeavesKeys) →
      p.IsSound size ∧ p.HasLost ((PoolRun.start policy size).crashes es) := by
    intro es p h hes
    refine ⟨PoolRun.isSound_of_after? h (.start policy size), ?_⟩
    exact PoolRun.hasLost_of_after? h hes (.start policy size) (.start policy size)
  obtain ⟨hs, hp⟩ := hlost h hes
  refine ⟨hp.mem_processing_iff hs, fun k hk fs q hq hfs => ?_, fun hopen => ?_⟩
  · obtain ⟨hqs, hql⟩ := hlost (PoolRun.after?_append.2 ⟨p, h, hq⟩)
      fun e he => (List.mem_append.1 he).elim (hes e) (hfs e)
    have hkq : k ∈ ((PoolRun.start policy size).crashes (es ++ fs)).map (·.2) := by
      rw [PoolRun.crashes_append h, List.map_append]
      exact List.mem_append_left _ hk
    exact ⟨(hql.mem_processing_iff hqs k).2 (Or.inr hkq), hql.not_mem_busyKeys hqs hkq⟩
  · have hcount := hp.countP_isServing h hopen
    refine ⟨hcount, fun ⟨_, hall⟩ => ?_, fun hnone => ⟨fun k => ?_, ?_⟩⟩
    · exact List.eq_nil_of_length_eq_zero (by omega)
    · rw [hp.mem_processing_iff hs, hnone]
      simp
    · rw [hnone, List.length_nil] at hcount
      exact hcount

/-- One of two passes crashes, and its key is added again. The other pass goes on. -/
theorem processing_of_crashes_beside_pass :
    ∃ p : PoolRun Nat,
      (PoolRun.start {} 2).after? [.outside (.add 7), .outside (.add 8), .ask 0, .ask 1,
        .endPass 0 .crashed, .outside (.add 7)] = some p ∧
      (∀ k, k ∈ p.queue.processing ↔ k = 8 ∨ k = 7) ∧
      p.workers.countP Worker.isServing = 1 ∧
      ∀ fs q, p.after? fs = some q → (∀ e ∈ fs, e.LeavesKeys) → 7 ∉ q.pool.busyKeys := by
  obtain ⟨p, hp, hbusy, hcrashes, hopen⟩ : ∃ p : PoolRun Nat,
      (PoolRun.start {} 2).after? [.outside (.add 7), .outside (.add 8), .ask 0, .ask 1,
        .endPass 0 .crashed, .outside (.add 7)] = some p ∧
      p.pool.busyKeys = [8] ∧
      (PoolRun.start {} 2).crashes [.outside (.add 7), .outside (.add 8), .ask 0, .ask 1,
        .endPass 0 .crashed, .outside (.add 7)] = [(0, 7)] ∧
      p.queue.isShutDown = false := ⟨_, rfl, rfl, rfl, rfl⟩
  obtain ⟨hprocessing, hlost, hleft⟩ := processing_of_crashes {} hp
    (by simp [PoolEvent.LeavesKeys, QueueEvent.task?])
  rw [hcrashes] at hlost hleft
  refine ⟨p, hp, fun k => ?_, ?_, fun fs q hq hfs => ?_⟩
  · rw [hprocessing, hbusy, hcrashes]
    simp
  · exact Nat.succ.inj (hleft hopen).1
  · exact (hlost 7 List.mem_cons_self fs q hq hfs).2

/-- A crash leaves its key in processing with no pass under way, and a pool of one worker without
any; the signals that come are never answered. -/
theorem crash_wedges_key :
    ¬ ∀ (es : List (PoolEvent Nat)) (p : PoolRun Nat),
      (PoolRun.start {} 1).after? es = some p → (∀ e ∈ es, e.LeavesKeys) →
      p.queue.isShutDown = false →
      (∀ k, k ∈ p.queue.processing ↔ k ∈ p.pool.busyKeys) ∧
        p.workers.countP Worker.isServing = 1 := by
  intro h
  obtain ⟨hprocessing, -⟩ := h [.outside (.add 7), .ask 0, .endPass 0 .crashed, .outside (.add 7)] _
    rfl (by simp [PoolEvent.LeavesKeys, QueueEvent.task?]) rfl
  have hbusy := (hprocessing 7).1 (by decide)
  exact absurd hbusy (by decide)

end

end ClusterOperator

import ClusterOperator.Proofs.Queue.Calls

/-!
# No call sleeps while a key is queued

A call sleeps when it finds no key. From then on every key that is put in the queue comes with a
ring, and every ring that a call takes is followed by a look, or is passed on.

* `CallRun.IsBlocked` : a call sleeps, and nothing has woken it; `CallRun.Step.isBlocked`, it found
  nothing when it looked;
* `CallRun.attention` : the looks and rings that are to come;
* `CallRun.IsAttentive` : while a call is blocked, they are as many as the queued keys;
  `CallRun.Step.isAttentive`;
* `CallRun.IsQuiescent` : nobody has a step to take; `calls_of_quiescent`, then no call is under way
  while a key is queued;
* `CallRun.queue_prefix_of_after?` : keys are handed out in the order of the queue;
* `queued_keys_attended` : both, in every run.
-/

namespace ClusterOperator

namespace WaitingRoom

variable {r : WaitingRoom} {task x : Nat}

theorem length_woken_ring (hx : x ∈ r.ring.waiting) :
    r.ring.woken.length = r.woken.length + 1 := by
  cases h : r.waiting with
  | nil =>
    rw [ring_of_nil h, h] at hx
    cases hx
  | cons first rest =>
    rw [ring_of_cons h]
    exact List.length_append

/-- A call that goes away passes on the ring that woke it, if one waits. -/
theorem length_woken_leave (hx : x ∈ (r.leave task).waiting) :
    r.woken.length ≤ (r.leave task).woken.length := by
  unfold leave at hx ⊢
  split at hx
  · next hw =>
    have hlength := List.length_erase_of_mem hw
    rw [if_pos hw, length_woken_ring hx, resume, hlength]
    omega
  · next hw => simp only [if_neg hw, Nat.le_refl]

end WaitingRoom

namespace CallRun

variable {κ : Type}

/-- A call sleeps, and nothing has woken it. -/
def IsBlocked (s : CallRun κ) (task : Nat) : Prop :=
  (task, .asleep) ∈ s.calls ∧ task ∈ s.queue.room.waiting

/-- The looks and rings that are to come: rings for keys that were put in the queue, looks of calls
on their way, and looks or rings of the calls that are woken. -/
def attention (s : CallRun κ) : Nat :=
  s.owed + s.calls.countP (·.2.isUnlooked) + s.queue.room.woken.length

/-- While a call is blocked, there are as many looks and rings to come as there are queued keys. -/
def IsAttentive (s : CallRun κ) : Prop :=
  ∀ task, s.IsBlocked task → s.queue.queue.length ≤ s.attention

/-- Nobody has a step to take: there is no ring to come, and all calls are blocked. -/
structure IsQuiescent (s : CallRun κ) : Prop where
  rung : s.owed = 0
  blocked : ∀ c ∈ s.calls, c.2 = .asleep ∧ c.1 ∈ s.queue.room.waiting

theorem calls_of_quiescent {s : CallRun κ} (hs : s.IsOrderly) (ha : s.IsAttentive)
    (hq : s.IsQuiescent) (hne : s.queue.queue ≠ []) : s.calls = [] := by
  by_contra hcalls
  obtain ⟨⟨task, stage⟩, hc⟩ := List.exists_mem_of_ne_nil _ hcalls
  obtain ⟨rfl, hw⟩ := hq.blocked _ hc
  have hlength := ha task ⟨hc, hw⟩
  have hunlooked : s.calls.countP (·.2.isUnlooked) = 0 := by
    rw [List.countP_eq_zero]
    intro c hc
    simp [(hq.blocked c hc).1, CallStage.isUnlooked]
  have hwoken : s.queue.room.woken = [] := by
    rw [List.eq_nil_iff_forall_not_mem]
    intro x hx
    obtain ⟨stage, hstage, -⟩ := hs.under_way x (List.mem_append_right _ hx)
    exact List.disjoint_of_nodup_append hs.present_nodup (hq.blocked _ hstage).2 hx
  rw [attention, hq.rung, hunlooked, hwoken] at hlength
  exact hne (List.eq_nil_of_length_eq_zero (Nat.le_zero.1 hlength))

theorem IsAttentive.start (policy : BackoffPolicy) : (start policy : CallRun κ).IsAttentive :=
  fun _ h => by cases h.1

/-! ## Steps -/

variable {s t : CallRun κ} {task : Nat}

/-- What others do under the lock comes with its ring. -/
theorem IsAttentive.unlocked (hs : s.IsAttentive) (u : QueueRun κ) :
    (s.unlocked u).IsAttentive := by
  intro x hx
  have hlength : s.queue.queue.length ≤ s.attention := hs x hx
  show u.queue.queue.length ≤ s.owed + (u.queue.queue.length - s.queue.queue.length) +
    s.calls.countP (·.2.isUnlooked) + s.queue.room.woken.length
  unfold attention at hlength
  omega

variable [DecidableEq κ] {e : CallEvent κ} {es : List (CallEvent κ)}

theorem Step.isBlocked (h : Step s e t) (ho : s.IsOrderly) {x : Nat} (hx : t.IsBlocked x) :
    s.IsBlocked x ∨ e = .look x .pending := by
  have hmoved : ∀ {task : Nat} {stage next : CallStage κ}, next ≠ .asleep →
      (x, .asleep) ∈ s.moved task stage next → (x, .asleep) ∈ s.calls := fun hne hm =>
    (mem_moved hm).resolve_right fun e => hne (congrArg Prod.snd e).symm
  cases h with
  | outside | done | shutDown => exact .inl hx
  | rung => exact .inl ⟨hx.1, WaitingRoom.waiting_ring_subset _ hx.2⟩
  | rungAll => cases hx.2
  | called => exact .inl ⟨by simpa using hx.1, hx.2⟩
  | @enlisted task hm =>
    have hasleep := hmoved (by simp) hx.1
    have hne : x ≠ task := by
      rintro rfl
      cases ho.stage_unique hm hasleep
    exact .inl ⟨hasleep, WaitingRoom.mem_waiting_of_enlist hx.2 hne⟩
  | @looked task got hm =>
    cases got with
    | key k => exact .inl ⟨hmoved (by simp [Polled.stage]) hx.1, hx.2⟩
    | shutDown => exact .inl ⟨hmoved (by simp [Polled.stage]) hx.1, hx.2⟩
    | pending =>
      rcases mem_moved hx.1 with h | h
      · exact .inl ⟨h, hx.2⟩
      · have htask : x = task := congrArg Prod.fst h
        exact .inr (by rw [htask])
  | left | dropped =>
    exact .inl ⟨List.mem_of_mem_erase hx.1, WaitingRoom.waiting_leave_subset _ _ hx.2⟩
  | woke => exact .inl ⟨hmoved (by simp) hx.1, hx.2⟩

theorem IsAttentive.of_le (hs : s.IsAttentive) (ho : s.IsOrderly) (h : Step s e t)
    (he : ∀ x, e ≠ .look x .pending) (hq : t.queue.queue = s.queue.queue)
    (hle : ∀ x, t.IsBlocked x → s.attention ≤ t.attention) : t.IsAttentive := by
  intro x hx
  rw [hq]
  exact Nat.le_trans (hs x ((h.isBlocked ho hx).resolve_right (he x))) (hle x hx)

theorem attention_le_of_erased {stage : CallStage κ} (hstage : stage.isUnlooked = false) {x : Nat}
    (hx : x ∈ (s.queue.room.leave task).waiting) :
    s.attention ≤ s.owed + (s.calls.erase (task, stage)).countP (·.2.isUnlooked) +
      (s.queue.room.leave task).woken.length := by
  have hcount : (s.calls.erase (task, stage)).countP (·.2.isUnlooked) =
      s.calls.countP (·.2.isUnlooked) := by
    by_cases hm : (task, stage) ∈ s.calls
    · rw [(List.perm_cons_erase hm).countP_eq, List.countP_cons_of_neg (by simp [hstage])]
    · rw [List.erase_of_not_mem hm]
  rw [attention, hcount]
  exact Nat.add_le_add_left (WaitingRoom.length_woken_leave hx) _

theorem attention_of_taken {k : κ} (h : (task, .looking) ∈ s.calls) :
    s.owed + (s.moved task .looking (.leaving (some k))).countP (·.2.isUnlooked) +
      s.queue.room.woken.length + 1 = s.attention := by
  have hcount : (s.moved task .looking (.leaving (some k))).countP (·.2.isUnlooked) + 1 =
    s.calls.countP (·.2.isUnlooked) + 0 := countP_moved h _
  rw [attention]
  omega

/-- A call that looks finds nothing, or there is one key less. -/
theorem IsAttentive.of_looked (hs : s.IsAttentive) (ho : s.IsOrderly) {got : Polled κ}
    (h : Step s (.look task got) t) (ht : t.queue.isShutDown = false) : t.IsAttentive := by
  intro x hx
  have hblocked := h.isBlocked ho hx
  cases h with
  | looked hm hgot =>
    have hopen : s.queue.isShutDown = false := (s.queue.isShutDown_poll task).symm.trans ht
    cases hq : s.queue.queue with
    | nil =>
      show (s.queue.poll task).2.queue.length ≤ _
      rw [WorkQueue.poll_of_nil hopen hq, hq]
      exact Nat.zero_le _
    | cons k rest =>
      have hpoll := WorkQueue.poll_of_cons hopen hq task
      rw [hpoll] at hgot
      subst hgot
      have hlength := hs x (hblocked.resolve_right (by simp))
      rw [← attention_of_taken hm (k := k), hq, List.length_cons] at hlength
      show (s.queue.poll task).2.queue.length ≤
        s.owed + ((s.queue.poll task).2.queue.length - s.queue.queue.length) +
          (s.moved task .looking (.leaving (some k))).countP (·.2.isUnlooked) +
            s.queue.room.woken.length
      rw [hpoll]
      dsimp only
      omega

theorem Step.isAttentive (h : Step s e t) (hs : s.IsAttentive) (ho : s.IsOrderly)
    (ht : t.queue.isShutDown = false) : t.IsAttentive := by
  cases h with
  | outside | done => exact hs.unlocked _
  | shutDown => cases ht
  | rung howed =>
    refine hs.of_le ho (.rung howed) (by simp) rfl fun x hx => ?_
    have hwoken : s.queue.room.ring.woken.length = s.queue.room.woken.length + 1 :=
      WaitingRoom.length_woken_ring hx.2
    show s.attention ≤ s.owed - 1 + s.calls.countP (·.2.isUnlooked) + s.queue.room.ring.woken.length
    rw [attention]
    omega
  | rungAll => exact fun x hx => by cases hx.2
  | called hn =>
    refine hs.of_le ho (.called hn) (by simp) rfl fun x hx => ?_
    simp [attention]
  | @enlisted task hm =>
    refine hs.of_le ho (.enlisted hm) (by simp) rfl fun x hx => ?_
    have hcount : (s.moved task .arriving .looking).countP (·.2.isUnlooked) + 1 =
      s.calls.countP (·.2.isUnlooked) + 1 := countP_moved hm _
    show s.attention ≤ s.owed + (s.moved task .arriving .looking).countP (·.2.isUnlooked) +
      (s.queue.room.enlist task).woken.length
    rw [WaitingRoom.woken_enlist, attention]
    omega
  | looked hm hgot => exact hs.of_looked ho (.looked hm hgot) ht
  | left hm =>
    exact hs.of_le ho (.left hm) (by simp) rfl fun x hx => attention_le_of_erased rfl hx.2
  | @woke task hm hw =>
    refine hs.of_le ho (.woke hm hw) (by simp) rfl fun x hx => ?_
    have hcount : (s.moved task .asleep .arriving).countP (·.2.isUnlooked) + 0 =
      s.calls.countP (·.2.isUnlooked) + 1 := countP_moved hm _
    have hwoken : s.queue.room.woken.length - 1 ≤ (s.queue.room.woken.erase task).length :=
      List.le_length_erase
    show s.attention ≤ s.owed + (s.moved task .asleep .arriving).countP (·.2.isUnlooked) +
      (s.queue.room.woken.erase task).length
    rw [attention]
    omega
  | dropped hm =>
    exact hs.of_le ho (.dropped hm) (by simp) rfl fun x hx => attention_le_of_erased rfl hx.2

theorem isAttentive_of_after? (h : s.after? es = some t) (hs : s.IsAttentive) (ho : s.IsOrderly)
    (ht : t.queue.isShutDown = false) : t.IsAttentive ∧ t.IsOrderly := by
  induction es generalizing s with
  | nil =>
    cases h
    exact ⟨hs, ho⟩
  | cons e es ih =>
    obtain ⟨u, hu, h⟩ := after?_cons.1 h
    have hstep := occur?_step hu
    exact ih h (hstep.isAttentive hs ho (not_isShutDown_of_after? h ht)) (hstep.isOrderly ho)

/-! ## The order of the keys -/

/-- A key is handed out when it is the first, and others are put behind the last. -/
theorem Step.prefix_queue (h : Step s e t) (ht : t.queue.isShutDown = false) :
    s.queue.queue <+: e.handed?.toList ++ t.queue.queue := by
  cases h with
  | outside he hu => exact (QueueRun.ringsIfPut_of_plain he hu).prefix_queue
  | @done k => exact (s.queue.ringsIfPut_done k).prefix_queue
  | shutDown => cases ht
  | @looked task got hm hgot =>
    have hopen : s.queue.isShutDown = false := (s.queue.isShutDown_poll task).symm.trans ht
    show s.queue.queue <+: (CallEvent.look task got).handed?.toList ++ (s.queue.poll task).2.queue
    cases hq : s.queue.queue with
    | nil => exact List.nil_prefix
    | cons k rest =>
      rw [WorkQueue.poll_of_cons hopen hq] at hgot ⊢
      subst hgot
      exact List.prefix_rfl
  | _ => exact List.prefix_rfl

theorem queue_prefix_of_after? (h : s.after? es = some t) (ht : t.queue.isShutDown = false) :
    s.queue.queue <+: es.filterMap (·.handed?) ++ t.queue.queue := by
  induction es generalizing s with
  | nil =>
    cases h
    exact List.prefix_rfl
  | cons e es ih =>
    obtain ⟨u, hu, h⟩ := after?_cons.1 h
    have hfirst := (occur?_step hu).prefix_queue (not_isShutDown_of_after? h ht)
    have hrest := (List.prefix_append_right_inj e.handed?.toList).2 (ih h)
    rw [List.filterMap_cons]
    cases he : e.handed? with
    | none =>
      rw [he] at hfirst hrest
      exact hfirst.trans hrest
    | some k =>
      rw [he] at hfirst hrest
      exact hfirst.trans hrest

end CallRun

/-- Whatever happens before the shutdown: when nobody has a step to take and a key is queued, no
call is under way. The keys that are queued at any time are handed out next, in their order, so a
key is handed out as soon as as many keys are handed out as were before it. -/
theorem queued_keys_attended {κ : Type} [DecidableEq κ] (policy : BackoffPolicy)
    {es : List (CallEvent κ)} {s : CallRun κ} (h : (CallRun.start policy).after? es = some s)
    (hs : s.queue.isShutDown = false) :
    (s.IsQuiescent → s.queue.queue ≠ [] → s.calls = []) ∧
    ∀ before after u, es = before ++ after → (CallRun.start policy).after? before = some u →
      u.queue.queue <+: after.filterMap (·.handed?) ++ s.queue.queue ∧
      ∀ front k back, u.queue.queue = front ++ k :: back →
        front.length < (after.filterMap (·.handed?)).length →
        (after.filterMap (·.handed?))[front.length]? = some k := by
  obtain ⟨hattentive, horderly⟩ :=
    CallRun.isAttentive_of_after? h (.start policy) (.start policy) hs
  refine ⟨CallRun.calls_of_quiescent horderly hattentive, fun before after u hes hu => ?_⟩
  subst hes
  obtain ⟨v, hv, h⟩ := CallRun.after?_append.1 h
  cases hu.symm.trans hv
  have horder := CallRun.queue_prefix_of_after? h hs
  refine ⟨horder, fun front k back hq hlt => ?_⟩
  obtain ⟨rest, hrest⟩ := horder
  have hk : (u.queue.queue ++ rest)[front.length]? = some k := by simp [hq]
  rw [hrest, List.getElem?_append_left hlt] at hk
  exact hk

/-- Two calls sleep, the one that the first key wakes is dropped, and the other takes that key. The
second key finds nobody asleep and stays. -/
theorem queued_keys_attended_after_drop :
    ∃ s : CallRun Nat,
      (CallRun.start {}).after? [.call 0, .enlist 0, .look 0 .pending, .call 1, .enlist 1,
        .look 1 .pending, .outside (.add 7), .ring, .drop 0, .outside (.add 8), .ring, .wake 1,
        .enlist 1, .look 1 (.key 7), .leave 1 (some 7)] = some s ∧
      s.IsQuiescent ∧ s.queue.queue = [8] ∧ s.calls = [] := by
  obtain ⟨s, hs, hopen, howed, hcalls, hq⟩ : ∃ s : CallRun Nat,
      (CallRun.start {}).after? [.call 0, .enlist 0, .look 0 .pending, .call 1, .enlist 1,
        .look 1 .pending, .outside (.add 7), .ring, .drop 0, .outside (.add 8), .ring, .wake 1,
        .enlist 1, .look 1 (.key 7), .leave 1 (some 7)] = some s ∧
      s.queue.isShutDown = false ∧ s.owed = 0 ∧ s.calls = [] ∧ s.queue.queue = [8] :=
    ⟨_, rfl, rfl, rfl, rfl, rfl⟩
  have hquiescent : s.IsQuiescent := ⟨howed, by simp [hcalls]⟩
  exact ⟨s, hs, hquiescent, hq, (queued_keys_attended {} hs hopen).1 hquiescent (by simp [hq])⟩

end ClusterOperator

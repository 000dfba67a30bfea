import ClusterOperator.Proofs.Queue.Closing
import ClusterOperator.Proofs.Queue.Serialization

/-!
# Draining a pool

A dispatcher lets its workers run until it is cancelled. Then it shuts the queue down, waits until
no worker is left, and returns.

* `DispatchEvent`, `DispatchRun` : what happens to a dispatcher, and one in use;
  `DispatchRun.occur?`, `DispatchRun.after?`;
* `DispatchRun.after?_pool` : the workers of a dispatcher run as those of a pool;
* `Worker.Advances` : how a worker goes on, `PoolRun.Step.advances`;
* `Worker.Ends` : the rest of a pass, until its key is released; `PoolRun.ends_of_after?`, a worker
  that is told to stop has got there, and one that crashed has not;
* `shutDown_drains` : after the shutdown no key comes back, and the dispatcher returns when every
  pass in flight is over; `shutDown_drains_sleeper`, with a call asleep and a pass in flight;
* `crash_keeps_key` : a pass that crashes is not waited for.
-/

namespace ClusterOperator

/-! ## Dispatchers -/

inductive DispatchEvent (κ : Type) where
  | pool (e : PoolEvent κ)
  /-- It is told to end, and shuts the queue down. -/
  | cancel
  /-- It returns. -/
  | finish

def DispatchEvent.pool? {κ : Type} : DispatchEvent κ → Option (PoolEvent κ)
  | .pool e => some e
  | .cancel => some (.outside .shutDown)
  | .finish => none

structure DispatchRun (κ : Type) extends PoolRun κ where
  isCancelled : Bool := false
  isOver : Bool := false

namespace DispatchRun

variable {κ : Type} [DecidableEq κ]

def start (policy : BackoffPolicy) (size : Nat) : DispatchRun κ :=
  { PoolRun.start policy size with }

/-- The run after an event, if the event can happen. A dispatcher returns when no worker is
left. -/
def occur? (p : DispatchRun κ) : DispatchEvent κ → Option (DispatchRun κ)
  | .pool e => (p.toPoolRun.occur? e).map fun q => { p with toPoolRun := q }
  | .cancel =>
    if p.isCancelled then none
    else some { p with queue := p.queue.shutDown, isCancelled := true }
  | .finish =>
    if p.isCancelled ∧ ¬ p.isOver ∧ p.pool.isDrained then some { p with isOver := true } else none

def after? (p : DispatchRun κ) (es : List (DispatchEvent κ)) : Option (DispatchRun κ) :=
  es.foldlM occur? p

@[simp] theorem after?_nil (p : DispatchRun κ) : p.after? [] = some p := rfl

theorem after?_cons {p q : DispatchRun κ} {e : DispatchEvent κ} {es : List (DispatchEvent κ)} :
    p.after? (e :: es) = some q ↔ ∃ r, p.occur? e = some r ∧ r.after? es = some q := by
  simp [after?, List.foldlM_cons, Option.bind_eq_some_iff]

theorem after?_append {p q : DispatchRun κ} {es fs : List (DispatchEvent κ)} :
    p.after? (es ++ fs) = some q ↔ ∃ r, p.after? es = some r ∧ r.after? fs = some q := by
  simp [after?, List.foldlM_append, Option.bind_eq_some_iff]

variable {p q : DispatchRun κ} {e : DispatchEvent κ} {es : List (DispatchEvent κ)}

theorem occur?_pool (h : p.occur? e = some q) :
    p.toPoolRun.after? e.pool?.toList = some q.toPoolRun := by
  cases e with
  | pool e =>
    obtain ⟨r, hr, rfl⟩ := Option.map_eq_some_iff.1 h
    exact PoolRun.after?_cons.2 ⟨r, hr, rfl⟩
  | cancel =>
    rw [occur?] at h
    split at h
    · cases h
    · cases h
      rfl
  | finish =>
    rw [occur?] at h
    split at h
    · cases h
      rfl
    · cases h

theorem after?_pool (h : p.after? es = some q) :
    p.toPoolRun.after? (es.filterMap (·.pool?)) = some q.toPoolRun := by
  induction es generalizing p with
  | nil => cases h; rfl
  | cons e es ih =>
    obtain ⟨r, hr, h⟩ := after?_cons.1 h
    have hfirst := occur?_pool hr
    rw [List.filterMap_cons]
    cases he : e.pool? with
    | none =>
      rw [he] at hfirst
      rw [show p.toPoolRun = r.toPoolRun from Option.some.inj hfirst]
      exact ih h
    | some f =>
      rw [he] at hfirst
      exact PoolRun.after?_append.2 ⟨_, hfirst, ih h⟩

end DispatchRun

/-! ## Workers -/

/-- How a worker goes on in an event: it stays as it is, or takes its own next step. -/
inductive Worker.Advances {κ : Type} (w : Nat) : Worker κ → PoolEvent κ → Worker κ → Prop where
  | kept {x e} : Advances w x e x
  | got {k} : Advances w .asking (.ask w) (.working k)
  | stops : Advances w .asking (.ask w) .stopped
  | returns {k outcome} :
      Advances w (.working k) (.endPass w (.returned outcome)) (.returned k outcome)
  | crashes {k} : Advances w (.working k) (.endPass w .crashed) .crashed
  | accounts {k outcome delay} :
      Advances w (.returned k outcome) (.account w) (.accounted k delay)
  | schedules {k delay} : Advances w (.accounted k delay) (.schedule w) (.scheduled k)
  | overruns {k delay} : Advances w (.accounted k delay) (.schedule w) .crashed
  | releases {k} : Advances w (.scheduled k) (.release w) .asking

/-- The rest of a pass is among some events: it returns, its outcome is handled, and its key is
released. -/
def Worker.Ends {κ : Type} (w : Nat) : Worker κ → List (PoolEvent κ) → Prop
  | .working _, es => ∃ outcome,
    [.endPass w (.returned outcome), .account w, .schedule w, .release w].Sublist es
  | .returned _ _, es => [.account w, .schedule w, .release w].Sublist es
  | .accounted _ _, es => [.schedule w, .release w].Sublist es
  | .scheduled _, es => [.release w].Sublist es
  | .asking, _ | .stopped, _ | .crashed, _ => True

/-- A worker that is told to stop, or that crashed, is no more. -/
def Worker.isGone {κ : Type} : Worker κ → Bool
  | .stopped | .crashed => true
  | _ => false

theorem Worker.key?_of_isGone {κ : Type} {x : Worker κ} (h : x.isGone = true) : x.key? = none := by
  cases x with
  | stopped | crashed => rfl
  | asking | working | returned | accounted | scheduled => cases h

theorem Worker.Ends.cons {κ : Type} {w : Nat} {x : Worker κ} {es : List (PoolEvent κ)}
    (h : x.Ends w es) (e : PoolEvent κ) : x.Ends w (e :: es) := by
  cases x with
  | working k =>
    obtain ⟨outcome, h⟩ := h
    exact ⟨outcome, h.cons e⟩
  | returned | accounted | scheduled => exact List.Sublist.cons e h
  | asking | stopped | crashed => trivial

theorem Standing.Step.processing_subset {κ : Type} [DecidableEq κ] {s t : Standing κ}
    {e : QueueEvent κ} (h : s.Step e t) (hs : s.isShutDown = true) :
    t.processing ⊆ s.processing := by
  cases h with
  | handed hopen => rw [hs] at hopen; cases hopen
  | finished | requeued => exact fun k hk => List.mem_of_mem_filter hk
  | _ => exact fun _ => id

theorem QueueRun.processing_subset_of_after? {κ : Type} [DecidableEq κ] {s t : QueueRun κ}
    {es : List (QueueEvent κ)} (h : s.after? es = some t) (hs : s.queue.isShutDown = true) :
    t.queue.processing ⊆ s.queue.processing := by
  refine (invariant_of_foldlM (P := fun u : QueueRun κ =>
    u.queue.isShutDown = true ∧ u.queue.processing ⊆ s.queue.processing)
    (fun u v e h hu => ?_) h ⟨hs, fun _ => id⟩).2
  have hstep := occur?_standing h
  exact ⟨hstep.isShutDown hu.1, List.Subset.trans (hstep.processing_subset hu.1) hu.2⟩

namespace PoolRun

variable {κ : Type} {p q : PoolRun κ} {e : PoolEvent κ} {es : List (PoolEvent κ)}
  {size w : Nat} {x y : Worker κ} {k : κ}

theorem advances_set {v : Nat} {z : Worker κ} (hw : p.workers[w]? = some x)
    (hv : p.workers[v]? = some y) (hz : y.Advances v e z) :
    ∃ y, (p.workers.set v z)[w]? = some y ∧ x.Advances w e y := by
  by_cases hvw : v = w
  · subst hvw
    cases hv.symm.trans hw
    exact ⟨z, List.getElem?_set_self (List.getElem?_eq_some_iff.1 hw).1, hz⟩
  · exact ⟨x, (List.getElem?_set_ne hvw).trans hw, .kept⟩

variable [DecidableEq κ]

theorem Step.advances (h : Step p e q) (hw : p.workers[w]? = some x) :
    ∃ y, q.workers[w]? = some y ∧ x.Advances w e y := by
  cases h with
  | outside | waits => exact ⟨x, hw, .kept⟩
  | got hv => exact advances_set hw hv .got
  | stops hv => exact advances_set hw hv .stops
  | returns hv => exact advances_set hw hv .returns
  | crashes hv => exact advances_set hw hv .crashes
  | accounts hv => exact advances_set hw hv .accounts
  | schedules hv => exact advances_set hw hv .schedules
  | overruns hv => exact advances_set hw hv .overruns
  | releases hv => exact advances_set hw hv .releases

/-! ## Workers after the shutdown -/

theorem Step.isShutDown (h : Step p e q) (hp : p.IsStaffed) (hs : p.queue.isShutDown = true) :
    q.queue.isShutDown = true := by
  obtain ⟨es, hes, -⟩ := h.exists_after? hp
  exact QueueRun.isShutDown_of_after? hes hs

theorem processing_of_after? (h : p.after? es = some q) (hp : p.IsSound size)
    (hs : p.queue.isShutDown = true) : q.queue.processing ⊆ p.queue.processing := by
  refine (invariant_of_foldlM (P := fun r : PoolRun κ => r.IsSound size ∧
    r.queue.isShutDown = true ∧ r.queue.processing ⊆ p.queue.processing)
    (fun a b e h ha => ?_) h ⟨hp, hs, fun _ => id⟩).2.2
  obtain ⟨hsound, hshut, hprocessing⟩ := ha
  have hstep := occur?_step h
  obtain ⟨fs, hfs, -⟩ := hstep.exists_after? hsound.staffed
  exact ⟨hstep.isSound hsound, hstep.isShutDown hsound.staffed hshut,
    List.Subset.trans (QueueRun.processing_subset_of_after? hfs hshut) hprocessing⟩

theorem Step.working_of_isShutDown (h : Step p e q) (hs : p.queue.isShutDown = true)
    (hw : q.workers[w]? = some (.working k)) : p.workers[w]? = some (.working k) := by
  have hlt : w < p.workers.length := h.length_workers ▸ (List.getElem?_eq_some_iff.1 hw).1
  obtain ⟨x, hx⟩ : ∃ x, p.workers[w]? = some x := ⟨_, List.getElem?_eq_getElem hlt⟩
  obtain ⟨y, hy, hadvance⟩ := h.advances hx
  cases hw.symm.trans hy
  cases hadvance with
  | kept => exact hx
  | got =>
    cases h with
    | got hv hq =>
      have hopen := ((QueueRun.occur?_standing hq).mem_queued_of_handed rfl).2.1
      cases hopen.symm.trans hs
    | waits => cases hx.symm.trans hw
    | stops =>
      rw [List.getElem?_set_self hlt] at hw
      cases hw

theorem Step.not_mem_processing_of_released (h : Step p (.release w) q)
    (hw : p.workers[w]? = some (.scheduled k)) : k ∉ q.queue.processing := by
  cases h with
  | releases hv =>
    cases hv.symm.trans hw
    exact p.queue.not_mem_processing_done k

theorem crashed_of_after? (h : p.after? es = some q) (hw : p.workers[w]? = some .crashed) :
    q.workers[w]? = some .crashed := by
  refine invariant_of_foldlM (P := fun p : PoolRun κ => p.workers[w]? = some .crashed)
    (fun a b e h ha => ?_) h hw
  obtain ⟨y, hy, hadvance⟩ := (occur?_step h).advances ha
  cases hadvance
  exact hy

/-- A worker that has a key after the shutdown, and is gone later, has ended its pass and released
the key, or crashed. -/
theorem ends_of_after? (h : p.after? es = some q) (hp : p.IsSound size)
    (hs : p.queue.isShutDown = true) (hw : p.workers[w]? = some x) (hk : x.key? = some k)
    (hq : q.workers[w]? = some y) (hy : y.isGone = true) :
    y = .crashed ∨ x.Ends w es ∧ k ∉ q.queue.processing := by
  induction es generalizing p x with
  | nil =>
    cases h
    cases hw.symm.trans hq
    rw [Worker.key?_of_isGone hy] at hk
    cases hk
  | cons e es ih =>
    obtain ⟨r, hr, hrun⟩ := after?_cons.1 h
    have hstep := occur?_step hr
    have hrs := hstep.isShutDown hp.staffed hs
    obtain ⟨z, hz, hadvance⟩ := hstep.advances hw
    have hrest := fun hk => ih hrun (hstep.isSound hp) hrs hz hk
    have hcrashed : z = .crashed → y = .crashed := by
      rintro rfl
      exact Option.some.inj (hq.symm.trans (crashed_of_after? hrun hz))
    cases hadvance with
    | kept => exact (hrest hk).imp_right fun h => ⟨h.1.cons e, h.2⟩
    | got | stops => cases hk
    | @returns l outcome =>
      exact (hrest hk).imp_right fun h => ⟨⟨outcome, h.1.cons_cons _⟩, h.2⟩
    | crashes | overruns => exact .inl (hcrashed rfl)
    | accounts => exact (hrest hk).imp_right fun h => ⟨h.1.cons_cons _, h.2⟩
    | schedules => exact (hrest hk).imp_right fun h => ⟨h.1.cons_cons _, h.2⟩
    | releases =>
      cases hk
      have hreleased := hstep.not_mem_processing_of_released hw
      exact .inr ⟨.cons_cons _ (List.nil_sublist es), fun hkq =>
        hreleased (processing_of_after? hrun (hstep.isSound hp) hrs hkq)⟩

end PoolRun

theorem Pool.isGone_of_isDrained {κ : Type} [DecidableEq κ] {p : Pool κ} (h : p.isDrained = true)
    {x : Worker κ} (hx : x ∈ p.workers) : x.isGone = true := by
  have hgone := List.all_eq_true.1 h x hx
  cases x with
  | stopped | crashed => rfl
  | asking | working | returned | accounted | scheduled => cases hgone

/-! ## Dispatchers after the shutdown -/

namespace DispatchRun

variable {κ : Type} [DecidableEq κ] {p q r : DispatchRun κ} {e : DispatchEvent κ}
  {es : List (DispatchEvent κ)} {size : Nat}

theorem isSound_of_after? {policy : BackoffPolicy}
    (h : (start policy size).after? es = some q) : q.toPoolRun.IsSound size :=
  PoolRun.isSound_of_after? (after?_pool h) (.start policy size)

theorem working_of_isShutDown (h : q.occur? e = some r) (hq : q.toPoolRun.IsSound size)
    (hs : q.queue.isShutDown = true) :
    r.queue.isShutDown = true ∧
      ∀ (w : Nat) (k : κ), r.workers[w]? = some (.working k) →
        q.workers[w]? = some (.working k) := by
  have hpool := occur?_pool h
  cases hf : e.pool? with
  | none =>
    rw [hf] at hpool
    rw [← show q.toPoolRun = r.toPoolRun from Option.some.inj hpool]
    exact ⟨hs, fun _ _ hw => hw⟩
  | some f =>
    rw [hf] at hpool
    obtain ⟨u, hu, hur⟩ := PoolRun.after?_cons.1 hpool
    cases hur
    have hstep := PoolRun.occur?_step hu
    exact ⟨hstep.isShutDown hq.staffed hs, fun w k => hstep.working_of_isShutDown hs⟩

theorem of_finish (h : q.occur? .finish = some r) :
    r.toPoolRun = q.toPoolRun ∧ q.pool.isDrained = true := by
  rw [occur?] at h
  split at h
  · next hdrained =>
    cases h
    exact ⟨rfl, hdrained.2.2⟩
  · cases h

/-- A dispatcher returns when every pass in flight has ended and its key is released, or has
crashed. -/
theorem ends_of_finish (h : q.after? (es ++ [.finish]) = some r) (hq : q.toPoolRun.IsSound size)
    (hs : q.queue.isShutDown = true) {w : Nat} {x : Worker κ} {k : κ} (hw : q.workers[w]? = some x)
    (hk : x.key? = some k) :
    r.workers[w]? = some .crashed ∨
      x.Ends w (es.filterMap (·.pool?)) ∧ k ∉ r.queue.processing := by
  obtain ⟨u, hu, hfinish⟩ := after?_append.1 h
  obtain ⟨v, hv, hvr⟩ := after?_cons.1 hfinish
  cases hvr
  obtain ⟨hpool, hdrained⟩ := of_finish hv
  have hrun := after?_pool hu
  have hlength : u.workers.length = q.workers.length :=
    ((PoolRun.isSound_of_after? hrun hq).length).trans hq.length.symm
  have hlt : w < u.workers.length := hlength ▸ (List.getElem?_eq_some_iff.1 hw).1
  have hlast : u.workers[w]? = some u.workers[w] := List.getElem?_eq_getElem hlt
  have hgone := Pool.isGone_of_isDrained hdrained (List.getElem_mem hlt)
  rw [hpool, hlast]
  exact (PoolRun.ends_of_after? hrun hq hs hw hk hlast hgone).imp_left (congrArg some)

end DispatchRun

/-! ## Every run -/

section

variable {κ : Type} [DecidableEq κ]

/-- After the shutdown of a queue nothing is queued, scheduled or handed out, whatever happens. Keys
only leave processing, a call that had no key returns none, and every call returns: when nobody has
a step to take none is under way, and each takes four steps at most. A dispatcher starts no pass
after the shutdown, and returns only when every pass in flight has ended, its outcome is handled
and its key is released; a worker that crashed is not waited for. -/
theorem shutDown_drains (policy : BackoffPolicy) :
    (∀ es fs (s t u : CallRun κ), (CallRun.start policy).after? es = some s →
      s.occur? .shutDown = some t → t.after? fs = some u →
      u.queue.queue = [] ∧ u.queue.scheduled = {} ∧
      (∀ mid rest v, fs = mid ++ rest → t.after? mid = some v →
        u.queue.processing ⊆ v.queue.processing) ∧
      (∀ e ∈ fs, e.handed? = none) ∧
      (∀ task, ¬ t.HasKey task → ∀ k, .leave task (some k) ∉ fs) ∧
      (u.closing = 0 → u.IsQuiescent → u.calls = []) ∧
      ∀ c ∈ u.calls, u.EndsWithin 4 c.1) ∧
    ∀ size es (q : DispatchRun κ), (DispatchRun.start policy size).after? es = some q →
      q.queue.isShutDown = true →
      (∀ e r, q.occur? e = some r → r.queue.isShutDown = true ∧
        ∀ (w : Nat) (k : κ), r.workers[w]? = some (.working k) →
          q.workers[w]? = some (.working k)) ∧
      ∀ mid r, q.after? (mid ++ [.finish]) = some r →
        ∀ (w : Nat) (x : Worker κ) (k : κ), q.workers[w]? = some x → x.key? = some k →
          r.workers[w]? = some .crashed ∨
            x.Ends w (mid.filterMap (·.pool?)) ∧ k ∉ r.queue.processing := by
  refine ⟨fun es fs s t u hs hst htu => ?_, fun size es q hq hshut => ⟨fun e r h => ?_,
    fun mid r h w x k hw hk => ?_⟩⟩
  · have ht := CallRun.isShutting_of_shutDown (CallRun.isOrderly_of_after? hs (.start policy)) hst
    have hu := CallRun.isShutting_of_after? htu ht
    refine ⟨hu.closed.queue, hu.closed.scheduled, fun mid rest v hfs hv => ?_,
      fun e => CallRun.handed?_of_after? htu ht, fun task hk => CallRun.leave_of_after? htu ht hk,
      CallRun.calls_of_released hu.released, fun c hc => CallRun.endsWithin_of_closed hu hc⟩
    subst hfs
    obtain ⟨x, hx, hxu⟩ := CallRun.after?_append.1 htu
    cases hv.symm.trans hx
    exact (CallRun.keys_of_after? hxu (CallRun.isShutting_of_after? hv ht)).1
  · exact DispatchRun.working_of_isShutDown h (DispatchRun.isSound_of_after? hq) hshut
  · exact DispatchRun.ends_of_finish h (DispatchRun.isSound_of_after? hq) hshut hw hk

/-- A call sleeps and an add is delayed when the queue is shut down, and a pass is in flight when
its dispatcher is cancelled. -/
theorem shutDown_drains_sleeper :
    (∃ s t u : CallRun Nat,
      (CallRun.start {}).after? [.call 0, .enlist 0, .look 0 .pending,
        .outside (.addAfter 7 ⟨5, by decide⟩)] = some s ∧
      s.occur? .shutDown = some t ∧
      t.after? [.ringAll, .outside (.tick 5), .outside (.expire ⟨7, 5⟩), .outside (.add 7), .wake 0,
        .enlist 0, .look 0 .shutDown, .leave 0 none] = some u ∧
      u.queue.queue = [] ∧ u.queue.scheduled = {} ∧ u.calls = []) ∧
    ∃ q r : DispatchRun Nat,
      (DispatchRun.start {} 1).after? [.pool (.outside (.add 7)), .pool (.ask 0), .cancel] =
        some q ∧
      q.workers[0]? = some (.working 7) ∧
      q.after? ([.pool (.endPass 0 (.returned (.ok .immediate))), .pool (.account 0),
        .pool (.schedule 0), .pool (.release 0), .pool (.ask 0)] ++ [.finish]) = some r ∧
      7 ∉ r.queue.processing := by
  refine ⟨?_, ?_⟩
  · obtain ⟨s, t, u, hs, hst, htu, hclosing, hquiescent⟩ : ∃ s t u : CallRun Nat,
        (CallRun.start {}).after? [.call 0, .enlist 0, .look 0 .pending,
          .outside (.addAfter 7 ⟨5, by decide⟩)] = some s ∧
        s.occur? .shutDown = some t ∧
        t.after? [.ringAll, .outside (.tick 5), .outside (.expire ⟨7, 5⟩), .outside (.add 7),
          .wake 0, .enlist 0, .look 0 .shutDown, .leave 0 none] = some u ∧
        u.closing = 0 ∧ u.IsQuiescent :=
      ⟨_, _, _, rfl, rfl, rfl, rfl, rfl, by decide⟩
    obtain ⟨hq, hscheduled, -, -, -, hcalls, -⟩ := (shutDown_drains {}).1 _ _ s t u hs hst htu
    exact ⟨s, t, u, hs, hst, htu, hq, hscheduled, hcalls hclosing hquiescent⟩
  · obtain ⟨q, r, hq, hshut, hw, hr, hgone⟩ : ∃ q r : DispatchRun Nat,
        (DispatchRun.start {} 1).after? [.pool (.outside (.add 7)), .pool (.ask 0), .cancel] =
          some q ∧
        q.queue.isShutDown = true ∧ q.workers[0]? = some (.working 7) ∧
        q.after? ([.pool (.endPass 0 (.returned (.ok .immediate))), .pool (.account 0),
          .pool (.schedule 0), .pool (.release 0), .pool (.ask 0)] ++ [.finish]) = some r ∧
        r.workers[0]? = some .stopped :=
      ⟨_, _, rfl, rfl, rfl, rfl, rfl⟩
    have hends := ((shutDown_drains {}).2 1 _ q hq hshut).2 _ r hr 0 _ 7 hw rfl
    rw [hgone] at hends
    exact ⟨q, r, hq, hw, hr, (hends.resolve_left (by simp)).2⟩

/-- A pass that crashes after the shutdown keeps its key, and its dispatcher returns. -/
theorem crash_keeps_key :
    ¬ ∀ (es mid : List (DispatchEvent Nat)) (q r : DispatchRun Nat) (w k : Nat),
      (DispatchRun.start {} 1).after? es = some q → q.queue.isShutDown = true →
      q.after? (mid ++ [.finish]) = some r → q.workers[w]? = some (.working k) →
      (Worker.working k).Ends w (mid.filterMap (·.pool?)) ∧ k ∉ r.queue.processing := by
  intro h
  refine (h [.pool (.outside (.add 7)), .pool (.ask 0), .cancel] [.pool (.endPass 0 .crashed)] _ _ 0
    7 rfl rfl rfl rfl).2 ?_
  decide

end

end ClusterOperator

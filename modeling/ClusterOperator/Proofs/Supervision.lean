import ClusterOperator.Supervision
import Mathlib.Data.List.Induction

/-!
# Supervised components are drained

The components of a supervisor end by themselves, or some time after the token is cancelled, and
the first failure cancels the token. So which component ends when and how, and after which others,
depends on the failures before it.

* `Component.ending_eq_some_iff` : how a component ends; `Component.ending_of_cancel`,
  `Component.le_of_cancel`, what a cancellation does to that;
* `Supervision.IsNext` : a component ends next; of several that end at the same time any one may;
* `Supervision.Step`, `Supervision.Run` : one component ends, and one after the other;
* `Supervision.step_cases`, `Supervision.exists_run_iterate` : what the supervisor does is a run;
* `Supervision.firstFailure?`, `Supervision.result?` : the first failure of a run, and what the
  supervisor returns;
* `Supervision.Accounts` : what a run leaves; `Accounts.step`, one component more;
* `components_drained` : all components are awaited, and the first failure is returned.
-/

namespace ClusterOperator

/-! ## Cancellation -/

namespace Component

variable {c : Component} {cancelAt : Option Nat} {e : Ending} {t : Nat}

/-- Only a component that runs until the token is cancelled may never end. -/
theorem ending_eq_none_iff :
    c.ending cancelAt = none ↔ c.untilCancelled = true ∧ cancelAt = none := by
  unfold ending
  split
  · next hc => simp [hc]
  · next hc => split <;> simp [hc]

theorem ending_none_iff : c.ending none = some e ↔ c.untilCancelled = false ∧ e = c.toEnding := by
  unfold ending
  split
  · next hc => simp [hc]
  · next hc => simp [hc, eq_comm]

/-- A component ends because the token is cancelled, or by itself, or by itself unless the token is
cancelled before. -/
theorem ending_eq_some_iff :
    c.ending cancelAt = some e ↔
      (c.untilCancelled = true ∧ ∃ k, cancelAt = some k ∧ e = c.toEnding.since k) ∨
      (c.untilCancelled = false ∧ e = c.toEnding ∧
        ∀ k i, cancelAt = some k → c.interrupted = some i → c.after ≤ k) ∨
      (c.untilCancelled = false ∧ ∃ k i, cancelAt = some k ∧ c.interrupted = some i ∧
        k < c.after ∧ e = i.since k) := by
  unfold ending
  by_cases hc : c.untilCancelled = true
  · rcases cancelAt with _ | k <;> simp [hc, eq_comm]
  · rcases cancelAt with _ | k
    · simp [hc, eq_comm]
    · rcases hi : c.interrupted with _ | i
      · simp [hc, eq_comm]
      · by_cases hk : k < c.after
        · have hle : ¬ c.after ≤ k := by omega
          simp [hc, hk, hle, eq_comm]
        · have hle : c.after ≤ k := by omega
          simp [hc, hk, hle, eq_comm]

/-- A cancellation comes too late for a component that has ended by then. -/
theorem ending_of_cancel (h : c.ending cancelAt = some e) (he : e.after ≤ t) :
    c.ending (Option.merge min cancelAt (some t)) = some e := by
  rcases ending_eq_some_iff.1 h with ⟨hc, k, rfl, rfl⟩ | ⟨hc, rfl, hmind⟩ | ⟨hc, k, i, rfl, hi, hk, rfl⟩
  · have hle : k ≤ t := Nat.le_trans (Nat.le_add_right k c.after) he
    rwa [Option.merge, Nat.min_eq_left hle]
  · refine ending_eq_some_iff.2 (Or.inr (Or.inl ⟨hc, rfl, fun n i hn hi => ?_⟩))
    rcases cancelAt with _ | k
    · cases hn
      exact he
    · have hk := hmind k i rfl hi
      cases hn
      exact Nat.le_min.2 ⟨hk, he⟩
  · have hle : k ≤ t := Nat.le_trans (Nat.le_add_right k i.after) he
    rwa [Option.merge, Nat.min_eq_left hle]

/-- No component ends before a time because of a cancellation at that time. -/
theorem le_of_cancel (h : ∀ e, c.ending cancelAt = some e → t ≤ e.after)
    (he : c.ending (Option.merge min cancelAt (some t)) = some e) : t ≤ e.after := by
  by_cases hk : ∃ k, cancelAt = some k ∧ k ≤ t
  · -- the token is cancelled by then
    obtain ⟨k, rfl, hle⟩ := hk
    rw [Option.merge, Nat.min_eq_left hle] at he
    exact h e he
  · have hmerge : Option.merge min cancelAt (some t) = some t := by
      rcases cancelAt with _ | k
      · rfl
      · have hle : t ≤ k := by
          by_contra hlt
          exact hk ⟨k, rfl, by omega⟩
        rw [Option.merge, Nat.min_eq_right hle]
    rw [hmerge] at he
    rcases ending_eq_some_iff.1 he with ⟨-, k, hk, rfl⟩ | ⟨hc, rfl, hmind⟩ | ⟨-, k, i, hk, -, -, rfl⟩
    · cases hk
      exact Nat.le_add_right t c.after
    · apply h
      refine ending_eq_some_iff.2 (Or.inr (Or.inl ⟨hc, rfl, fun k i hcancel hi => ?_⟩))
      have hle := hmind t i rfl hi
      have hlt : ¬ k ≤ t := fun hkt => hk ⟨k, hcancel, hkt⟩
      omega
    · cases hk
      exact Nat.le_add_right t i.after

end Component

namespace Supervision

/-! ## The component that ends next -/

/-- A component is among some and ends, none of them ends before, and the others are left. -/
structure IsNext (cancelAt : Option Nat) (cs : List Component) (e : Ending) (c : Component)
    (others : List Component) : Prop where
  split : ∃ before after, cs = before ++ c :: after ∧ others = before ++ after
  ends : c.ending cancelAt = some e
  first : ∀ d ∈ cs, ∀ x, d.ending cancelAt = some x → e.after ≤ x.after

section

variable {cancelAt : Option Nat} {cs others : List Component} {e : Ending} {c d : Component}

theorem IsNext.perm (h : IsNext cancelAt cs e c others) : cs.Perm (c :: others) := by
  obtain ⟨before, after, rfl, rfl⟩ := h.split
  exact List.perm_middle

theorem IsNext.mem (h : IsNext cancelAt cs e c others) : c ∈ cs :=
  h.perm.mem_iff.2 List.mem_cons_self

theorem IsNext.mem_of_others (h : IsNext cancelAt cs e c others) (hd : d ∈ others) : d ∈ cs :=
  h.perm.mem_iff.2 (List.mem_cons_of_mem c hd)

theorem IsNext.cons (h : IsNext cancelAt cs e c others)
    (hd : ∀ x, d.ending cancelAt = some x → e.after ≤ x.after) :
    IsNext cancelAt (d :: cs) e c (d :: others) := by
  obtain ⟨before, after, rfl, rfl⟩ := h.split
  exact ⟨⟨d :: before, after, rfl, rfl⟩, h.ends, List.forall_mem_cons.2 ⟨hd, h.first⟩⟩

theorem isNext_head (hc : c.ending cancelAt = some e)
    (h : ∀ d ∈ cs, ∀ x, d.ending cancelAt = some x → e.after ≤ x.after) :
    IsNext cancelAt (c :: cs) e c cs := by
  refine ⟨⟨[], cs, rfl, rfl⟩, hc, List.forall_mem_cons.2 ⟨fun x hx => ?_, h⟩⟩
  exact Nat.le_of_eq (congrArg Ending.after (Option.some.inj (hc.symm.trans hx)))

theorem pickNext_eq_none_iff :
    pickNext cancelAt cs = none ↔ ∀ c ∈ cs, c.ending cancelAt = none := by
  induction cs with
  | nil => simp [pickNext]
  | cons c rest ih =>
    rw [pickNext, List.forall_mem_cons, ← ih]
    split
    · next hc hrest => simp [hc, hrest]
    · next hc hrest => simp [hc]
    · next hc hrest => simp [hrest]
    · next hc hrest => split <;> simp [hc]

theorem isNext_of_pickNext (h : pickNext cancelAt cs = some ((e, c), others)) :
    IsNext cancelAt cs e c others := by
  induction cs generalizing e c others with
  | nil => cases h
  | cons d rest ih =>
    rw [pickNext] at h
    split at h
    · cases h
    · next hd hrest =>
      cases h
      apply isNext_head hd
      intro k hk x hx
      rw [pickNext_eq_none_iff.1 hrest k hk] at hx
      cases hx
    · next hd hrest =>
      cases h
      exact (ih hrest).cons (by simp [hd])
    · next x first left hd hrest =>
      have hnext := ih (e := first.1) (c := first.2) hrest
      split at h
      · next hle =>
        cases h
        exact isNext_head hd fun k hk y hy => Nat.le_trans hle (hnext.first k hk y hy)
      · next hlt =>
        cases h
        apply hnext.cons
        intro y hy
        rw [← Option.some.inj (hd.symm.trans hy)]
        exact Nat.le_of_not_le hlt

end

/-! ## Runs -/

variable {components : List Component} {cancelAt : Option Nat} {s u v : Supervision}
  {ends : List (Ending × Component)} {x : Ending × Component}

/-- The supervisor of some components, when the token is cancelled from outside at a given time or
not at all. -/
def start (components : List Component) (cancelAt : Option Nat) : Supervision where
  running := components
  cancelAt := cancelAt

inductive Step (s : Supervision) : Ending × Component → Supervision → Prop where
  | ended {e : Ending} {c : Component} {others : List Component}
      (h : IsNext s.cancelAt s.running e c others) : Step s (e, c) (s.awaitEnd e others)

inductive Run (s : Supervision) : List (Ending × Component) → Supervision → Prop where
  | refl : Run s [] s
  | concat {ends : List (Ending × Component)} {x : Ending × Component} {u v : Supervision}
      (h : Run s ends u) (hstep : Step u x v) : Run s (ends ++ [x]) v

/-- No component that is left ever ends. -/
def IsOver (s : Supervision) : Prop :=
  ∀ c ∈ s.running, c.ending s.cancelAt = none

theorem Run.cons (hstep : Step s x u) (h : Run u ends v) : Run s (x :: ends) v := by
  induction h with
  | refl => exact Run.refl.concat hstep
  | concat _ hlast ih => exact ih.concat hlast

theorem step_cases (s : Supervision) : (s.IsOver ∧ s.step = s) ∨ ∃ x, Step s x s.step := by
  unfold step
  split
  · next h => exact Or.inl ⟨pickNext_eq_none_iff.1 h, rfl⟩
  · next h => exact Or.inr ⟨_, .ended (isNext_of_pickNext h)⟩

theorem iterate_of_isOver (h : s.IsOver) (n : Nat) : iterate n s = s := by
  induction n with
  | zero => rfl
  | succ n ih =>
    have hstep : s.step = s := by
      unfold step
      rw [pickNext_eq_none_iff.2 h]
    rw [iterate, hstep, ih]

/-- Awaiting `n` components is a run in which `n` components end, or all that ever will. -/
theorem exists_run_iterate (n : Nat) (s : Supervision) :
    ∃ ends, Run s ends (iterate n s) ∧ ((iterate n s).IsOver ∨ ends.length = n) := by
  induction n generalizing s with
  | zero => exact ⟨[], .refl, Or.inr rfl⟩
  | succ n ih =>
    rcases s.step_cases with ⟨hover, -⟩ | ⟨x, hx⟩
    · rw [iterate_of_isOver hover]
      exact ⟨[], .refl, Or.inl hover⟩
    · obtain ⟨ends, hrun, hend⟩ := ih s.step
      refine ⟨x :: ends, hrun.cons hx, hend.imp id fun hlength => ?_⟩
      rw [List.length_cons, hlength]

/-! ## What a run leaves -/

def firstFailure? (ends : List (Ending × Component)) : Option (Nat × Failure) :=
  ends.findSome? fun x => x.1.failure.map fun f => (x.1.after, f)

theorem firstFailure?_concat (ends : List (Ending × Component)) (x : Ending × Component) :
    firstFailure? (ends ++ [x]) =
      (firstFailure? ends).or (x.1.failure.map fun f => (x.1.after, f)) := by
  unfold firstFailure?
  rw [List.findSome?_append, List.findSome?_singleton]

theorem firstFailure?_eq_none_iff :
    firstFailure? ends = none ↔ ∀ x ∈ ends, x.1.failure = none := by
  simp [firstFailure?]

/-- What a supervisor returns when no component is left: the first failure, if there was one. -/
def result? (s : Supervision) : Option (Except Failure Unit) :=
  if s.running = [] then
    some (match s.failure with
      | none => .ok ()
      | some f => .error f)
  else none

section

variable (s : Supervision) (e : Ending) (others : List Component)

@[simp] theorem running_awaitEnd : (s.awaitEnd e others).running = others := by
  unfold awaitEnd
  split <;> rfl

@[simp] theorem now_awaitEnd : (s.awaitEnd e others).now = e.after := by
  unfold awaitEnd
  split <;> rfl

theorem failure_awaitEnd : (s.awaitEnd e others).failure = s.failure.or e.failure := by
  unfold awaitEnd
  rcases s.failure with _ | f
  · rcases e.failure with _ | g <;> rfl
  · rfl

theorem cancelAt_awaitEnd :
    (s.awaitEnd e others).cancelAt =
      if s.failure = none ∧ e.failure ≠ none then Option.merge min s.cancelAt (some e.after)
      else s.cancelAt := by
  unfold awaitEnd
  rcases s.failure with _ | f
  · rcases e.failure with _ | g
    · simp
    · rcases s.cancelAt with _ | k <;> simp [Option.merge]
  · simp

variable {d : Component} {x : Ending}

theorem ending_awaitEnd (h : d.ending s.cancelAt = some x) (hx : x.after ≤ e.after) :
    d.ending (s.awaitEnd e others).cancelAt = some x := by
  rw [cancelAt_awaitEnd]
  split
  · exact Component.ending_of_cancel h hx
  · exact h

theorem le_of_awaitEnd (h : ∀ x, d.ending s.cancelAt = some x → e.after ≤ x.after)
    (hx : d.ending (s.awaitEnd e others).cancelAt = some x) : e.after ≤ x.after := by
  rw [cancelAt_awaitEnd] at hx
  split at hx
  · exact Component.le_of_cancel h hx
  · exact h x hx

end

/-- What a run from the start leaves, in which components have ended in an order. -/
structure Accounts (components : List Component) (cancelAt : Option Nat)
    (ends : List (Ending × Component)) (s : Supervision) : Prop where
  /-- Each component has ended or is left. -/
  everyone : (ends.map (·.2) ++ s.running).Perm components
  inOrder : ends.Pairwise (·.1.after ≤ ·.1.after)
  /-- Those that ended did so in their ways, as the token is cancelled by now. -/
  ended : ∀ x ∈ ends, x.2.ending s.cancelAt = some x.1
  past : ∀ x ∈ ends, x.1.after ≤ s.now
  ahead : ∀ c ∈ s.running, ∀ e, c.ending s.cancelAt = some e → s.now ≤ e.after
  failure : s.failure = (firstFailure? ends).map (·.2)
  cancelled : s.cancelAt = Option.merge min cancelAt ((firstFailure? ends).map (·.1))
  /-- The token is cancelled from outside, or there is a component that fails by itself. -/
  cause : s.cancelAt ≠ none → cancelAt ≠ none ∨
    ∃ c ∈ components, c.untilCancelled = false ∧ c.failure ≠ none

theorem merge_min_none (cancelAt : Option Nat) : Option.merge min cancelAt none = cancelAt := by
  rcases cancelAt with _ | k <;> rfl

theorem accounts_start (components : List Component) (cancelAt : Option Nat) :
    Accounts components cancelAt [] (start components cancelAt) where
  everyone := .refl _
  inOrder := .nil
  ended := List.forall_mem_nil _
  past := List.forall_mem_nil _
  ahead _ _ _ _ := Nat.zero_le _
  failure := rfl
  cancelled := (merge_min_none cancelAt).symm
  cause := Or.inl

/-- The token is cancelled by the first failure only. -/
theorem Accounts.cancelled_awaitEnd (h : Accounts components cancelAt ends s) (e : Ending)
    (c : Component) (others : List Component) :
    (s.awaitEnd e others).cancelAt =
      Option.merge min cancelAt ((firstFailure? (ends ++ [(e, c)])).map (·.1)) := by
  rw [cancelAt_awaitEnd, firstFailure?_concat, h.failure, h.cancelled]
  rcases firstFailure? ends with _ | ⟨t, f⟩
  · rcases e.failure with _ | g <;> simp
  · simp

/-- The first failure of all fails by itself, unless the token was cancelled from outside. -/
theorem Accounts.cause_awaitEnd (h : Accounts components cancelAt ends s) {e : Ending}
    {c : Component} {others : List Component} (hnext : IsNext s.cancelAt s.running e c others)
    (hcancel : (s.awaitEnd e others).cancelAt ≠ none) :
    cancelAt ≠ none ∨ ∃ c ∈ components, c.untilCancelled = false ∧ c.failure ≠ none := by
  by_cases hs : s.cancelAt = none
  · rw [cancelAt_awaitEnd, hs] at hcancel
    split at hcancel
    · next hfail =>
      have hends := hnext.ends
      rw [hs] at hends
      obtain ⟨hc, rfl⟩ := Component.ending_none_iff.1 hends
      exact Or.inr ⟨c, h.everyone.mem_iff.1 (List.mem_append_right _ hnext.mem), hc, hfail.2⟩
    · exact absurd rfl hcancel
  · exact h.cause hs

theorem Accounts.step (h : Accounts components cancelAt ends s) (hstep : Step s x u) :
    Accounts components cancelAt (ends ++ [x]) u := by
  obtain @⟨e, c, others, hnext⟩ := hstep
  have hnow : s.now ≤ e.after := h.ahead c hnext.mem e hnext.ends
  refine ⟨?_, ?_, ?_, ?_, ?_, ?_, h.cancelled_awaitEnd e c others, h.cause_awaitEnd hnext⟩
  · rw [List.map_append, List.append_assoc, running_awaitEnd]
    exact (hnext.perm.symm.append_left _).trans h.everyone
  · rw [List.pairwise_append]
    refine ⟨h.inOrder, List.pairwise_singleton _ _, fun y hy z hz => ?_⟩
    rw [List.mem_singleton.1 hz]
    exact Nat.le_trans (h.past y hy) hnow
  · intro y hy
    rcases List.mem_append.1 hy with hy | hy
    · exact s.ending_awaitEnd e others (h.ended y hy) (Nat.le_trans (h.past y hy) hnow)
    · rw [List.mem_singleton.1 hy]
      exact s.ending_awaitEnd e others hnext.ends (Nat.le_refl _)
  · intro y hy
    rw [now_awaitEnd]
    rcases List.mem_append.1 hy with hy | hy
    · exact Nat.le_trans (h.past y hy) hnow
    · obtain rfl := List.mem_singleton.1 hy
      exact Nat.le_refl _
  · intro d hd y hy
    rw [running_awaitEnd] at hd
    rw [now_awaitEnd]
    exact s.le_of_awaitEnd e others (hnext.first d (hnext.mem_of_others hd)) hy
  · rw [failure_awaitEnd, firstFailure?_concat, h.failure]
    rcases firstFailure? ends with _ | ⟨t, f⟩
    · rcases e.failure with _ | g <;> rfl
    · rfl

theorem Run.accounts (h : Run (start components cancelAt) ends s) :
    Accounts components cancelAt ends s := by
  induction h with
  | refl => exact accounts_start components cancelAt
  | concat _ hstep ih => exact ih.step hstep

/-! ## The end of a run -/

theorem Accounts.length_add_length (h : Accounts components cancelAt ends s) :
    ends.length + s.running.length = components.length := by
  have hlength := h.everyone.length_eq
  rwa [List.length_append, List.length_map] at hlength

theorem Accounts.running_eq_nil_iff (h : Accounts components cancelAt ends s) :
    s.running = [] ↔ (ends.map (·.2)).Perm components := by
  constructor
  · intro hnil
    have hperm := h.everyone
    rwa [hnil, List.append_nil] at hperm
  · intro hperm
    have hlength := hperm.length_eq
    rw [List.length_map] at hlength
    have hsum := h.length_add_length
    exact List.eq_nil_of_length_eq_zero (by omega)

/-- Nothing is returned before all components have ended. -/
theorem Accounts.isSome_result?_iff (h : Accounts components cancelAt ends s) :
    s.result?.isSome ↔ (ends.map (·.2)).Perm components := by
  rw [← h.running_eq_nil_iff]
  unfold result?
  split <;> simp [*]

theorem Accounts.result?_eq_ok_iff (h : Accounts components cancelAt ends s) :
    s.result? = some (.ok ()) ↔
      (ends.map (·.2)).Perm components ∧ ∀ x ∈ ends, x.1.failure = none := by
  rw [← h.running_eq_nil_iff, ← firstFailure?_eq_none_iff]
  unfold result?
  rw [h.failure]
  rcases firstFailure? ends with _ | ⟨t, f⟩ <;> simp

theorem Accounts.result?_eq_error_iff (h : Accounts components cancelAt ends s) (f : Failure) :
    s.result? = some (.error f) ↔
      (ends.map (·.2)).Perm components ∧ ∃ t, firstFailure? ends = some (t, f) := by
  rw [← h.running_eq_nil_iff]
  unfold result?
  rw [h.failure]
  rcases firstFailure? ends with _ | ⟨t, g⟩ <;> simp

theorem isOver_or_exists_step (s : Supervision) : s.IsOver ∨ ∃ x u, Step s x u := by
  rcases s.step_cases with ⟨hover, -⟩ | ⟨x, hx⟩
  · exact Or.inl hover
  · exact Or.inr ⟨x, s.step, hx⟩

theorem isOver_of_running (h : s.running = []) : s.IsOver := by
  unfold IsOver
  rw [h]
  exact List.forall_mem_nil _

/-- Every component ends once the token is cancelled. -/
theorem IsOver.running_of_cancelAt (h : s.IsOver) (hcancel : s.cancelAt ≠ none) :
    s.running = [] :=
  List.eq_nil_iff_forall_not_mem.2 fun c hc => hcancel (Component.ending_eq_none_iff.1 (h c hc)).2

section

variable {c : Component}

theorem IsOver.untilCancelled (h : s.IsOver) (hc : c ∈ s.running) : c.untilCancelled = true :=
  (Component.ending_eq_none_iff.1 (h c hc)).1

theorem Accounts.eq_toEnding (h : Accounts components cancelAt ends s)
    (hcancel : s.cancelAt = none) (hx : x ∈ ends) :
    x.2.untilCancelled = false ∧ x.1 = x.2.toEnding := by
  have hends := h.ended x hx
  rw [hcancel] at hends
  exact Component.ending_none_iff.1 hends

/-- The token is cancelled from outside or by a failure, and never otherwise. -/
theorem Accounts.cancelAt_eq_none_iff (h : Accounts components cancelAt ends s) :
    s.cancelAt = none ↔ cancelAt = none ∧ ∀ x ∈ ends, x.1.failure = none := by
  rw [h.cancelled, ← firstFailure?_eq_none_iff]
  rcases cancelAt with _ | k <;> rcases firstFailure? ends with _ | ⟨t, f⟩ <;>
    simp [Option.merge]

theorem Accounts.exists_of_isOver (h : Accounts components cancelAt ends s) (hover : s.IsOver)
    (hc : c ∈ components) (hself : c.untilCancelled = false) : ∃ x ∈ ends, x.2 = c := by
  rcases List.mem_append.1 (h.everyone.mem_iff.2 hc) with hended | hleft
  · exact List.mem_map.1 hended
  · have hwaits := hover.untilCancelled hleft
    rw [hself] at hwaits
    cases hwaits

/-- In the end components are left only if they wait for a cancellation that never comes: neither
from outside nor from a component that fails by itself. -/
theorem Accounts.running_of_isOver (h : Accounts components cancelAt ends s) (hover : s.IsOver) :
    s.running = [] ↔ cancelAt ≠ none ∨
      (∃ c ∈ components, c.untilCancelled = false ∧ c.failure ≠ none) ∨
      ∀ c ∈ components, c.untilCancelled = false := by
  constructor
  · intro hnil
    by_cases hcancel : s.cancelAt = none
    · refine Or.inr (Or.inr fun c hc => ?_)
      have hmem := (h.running_eq_nil_iff.1 hnil).mem_iff.2 hc
      obtain ⟨x, hx, rfl⟩ := List.mem_map.1 hmem
      exact (h.eq_toEnding hcancel hx).1
    · exact (h.cause hcancel).imp id Or.inl
  · rintro (houtside | ⟨c, hc, hself, hfail⟩ | hall)
    · apply hover.running_of_cancelAt
      intro hcancel
      exact houtside (h.cancelAt_eq_none_iff.1 hcancel).1
    · apply hover.running_of_cancelAt
      intro hcancel
      obtain ⟨x, hx, rfl⟩ := h.exists_of_isOver hover hc hself
      rw [← (h.eq_toEnding hcancel hx).2] at hfail
      exact hfail ((h.cancelAt_eq_none_iff.1 hcancel).2 x hx)
    · refine List.eq_nil_iff_forall_not_mem.2 fun c hc => ?_
      have hmem := h.everyone.mem_iff.1 (List.mem_append_right _ hc)
      have hwaits := hover.untilCancelled hc
      rw [hall c hmem] at hwaits
      cases hwaits

end

theorem exists_run_supervise (components : List Component) (cancelAt : Option Nat) :
    ∃ ends, Run (start components cancelAt) ends (supervise components cancelAt) ∧
      (supervise components cancelAt).IsOver := by
  obtain ⟨ends, hrun, hend⟩ := exists_run_iterate components.length (start components cancelAt)
  refine ⟨ends, hrun, hend.elim id fun hlength => ?_⟩
  have hsum : ends.length + (supervise components cancelAt).running.length = components.length :=
    hrun.accounts.length_add_length
  exact isOver_of_running (List.eq_nil_of_length_eq_zero (by omega))

end Supervision

open Supervision in
/-- Components end one after the other, each by itself or because the token is cancelled, and those
that end at the same time in any order. The supervisor awaits them until no component is left that
ends. Every run leaves this: each component has ended once or is left, in the order of time and in
its way; the token is cancelled at the first failure and not otherwise, unless from outside. There
is a result when all have ended: a success if none has failed, or else the first failure. A run can
go on until it is over. Then there is a result if any component has failed; there is none exactly
if a component waits for the token, and nobody cancels it and no component fails by itself. -/
theorem components_drained (components : List Component) (cancelAt : Option Nat) :
    (∃ ends, Run (start components cancelAt) ends (supervise components cancelAt) ∧
      (supervise components cancelAt).IsOver) ∧
    ∀ ends s, Run (start components cancelAt) ends s →
      (ends.map (·.2) ++ s.running).Perm components ∧
      ends.Pairwise (·.1.after ≤ ·.1.after) ∧
      (∀ x ∈ ends, x.2.ending s.cancelAt = some x.1 ∧ x.1.after ≤ s.now) ∧
      s.cancelAt = Option.merge min cancelAt ((firstFailure? ends).map (·.1)) ∧
      (s.result?.isSome ↔ (ends.map (·.2)).Perm components) ∧
      (s.result? = some (.ok ()) ↔
        (ends.map (·.2)).Perm components ∧ ∀ x ∈ ends, x.1.failure = none) ∧
      (∀ f, s.result? = some (.error f) ↔
        (ends.map (·.2)).Perm components ∧ ∃ t, firstFailure? ends = some (t, f)) ∧
      (s.IsOver ∨ ∃ x u, Step s x u) ∧
      (s.IsOver →
        ((∃ x ∈ ends, x.1.failure ≠ none) → s.result?.isSome) ∧
        (s.result?.isSome ↔ cancelAt ≠ none ∨
          (∃ c ∈ components, c.untilCancelled = false ∧ c.failure ≠ none) ∨
          ∀ c ∈ components, c.untilCancelled = false)) := by
  refine ⟨exists_run_supervise components cancelAt, fun ends s hrun => ?_⟩
  have h := hrun.accounts
  refine ⟨h.everyone, h.inOrder, fun x hx => ⟨h.ended x hx, h.past x hx⟩, h.cancelled,
    h.isSome_result?_iff, h.result?_eq_ok_iff, h.result?_eq_error_iff, s.isOver_or_exists_step,
    fun hover => ?_⟩
  rw [h.isSome_result?_iff, ← h.running_eq_nil_iff]
  refine ⟨?_, h.running_of_isOver hover⟩
  rintro ⟨x, hx, hfail⟩
  apply hover.running_of_cancelAt
  intro hcancel
  exact hfail ((h.cancelAt_eq_none_iff.1 hcancel).2 x hx)

/-- A late failure stops what waits for it, and a crash while stopping is not what is returned. -/
example :
    (supervise [{ untilCancelled := true, after := 1, failure := some .crash },
      { after := 5, interrupted := some {} }, { after := 3, failure := some (.error "bind") }]
      none).result? = some (.error (.error "bind")) := by decide

end ClusterOperator

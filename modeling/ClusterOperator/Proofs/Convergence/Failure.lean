import ClusterOperator.Proofs.Convergence.Faults
import ClusterOperator.Proofs.Course

/-!
# Failing calls show

A pass over a cluster that meets a failing call fails, and is to be retried with back-off. So a pass
that succeeds, or refuses the spec, met none, and went as it goes when no call is made to fail. A
delete that finds nothing is not taken for a failure.

* `Dialogue.Always` : every result is of a kind;
* `Dialogue.ShowsFailure` : every result after a failing reply is of a kind; `ShowsFailure.bind`,
  `ShowsFailure.of_reaches`;
* `ChildRequest.Fails`, `ClusterRequest.Fails` : the replies that fail;
* `PassError.BacksOff` : a pass is to be retried with back-off; `reconcileCluster_showsFailure`;
* `PassError.isSettled` : a pass succeeded or refused the spec;
* `Bench.calm` : the stores with no failure waiting; `ClusterBench.pass_calm`, a settled pass goes
  as over them.
-/

namespace ClusterOperator

namespace Dialogue

variable {Q : Type} {A : Q → Type} {α β σ ε : Type}

/-- Whatever is replied, the result is of a kind. -/
def Always (P : α → Prop) : Dialogue Q A α → Prop
  | .finish a => P a
  | .ask _ next => ∀ reply, (next reply).Always P

/-- After a failing reply the result is of a kind, whatever else is replied. -/
def ShowsFailure (fails : (q : Q) → A q → Prop) (P : α → Prop) : Dialogue Q A α → Prop
  | .finish _ => True
  | .ask q next =>
    ∀ reply, (next reply).ShowsFailure fails P ∧ (fails q reply → (next reply).Always P)

variable {P : α → Prop} {R : β → Prop} {fails : (q : Q) → A q → Prop}

theorem Always.run {d : Dialogue Q A α} (h : d.Always P) (answer : (q : Q) → σ → A q × σ) (s : σ) :
    P (d.run answer s).1 := by
  induction d generalizing s with
  | finish a => exact h
  | ask q next ih => exact ih _ (h _) _

theorem Always.bind {d : Dialogue Q A α} {f : α → Dialogue Q A β} (h : d.Always P)
    (hf : ∀ a, P a → (f a).Always R) : (d.bind f).Always R := by
  induction d with
  | finish a => exact hf a h
  | ask q next ih => exact fun reply => ih reply (h reply)

theorem Always.of_reaches {d rest : Dialogue Q A α} {t : List (Exchange Q A)} (h : d.Always P)
    (ht : d.Reaches t rest) : rest.Always P := by
  induction ht with
  | refl d => exact h
  | ask reply _ ih => exact ih (h reply)

theorem Always.showsFailure {d : Dialogue Q A α} (h : d.Always P) : d.ShowsFailure fails P := by
  induction d with
  | finish a => trivial
  | ask q next ih => exact fun reply => ⟨ih reply (h reply), fun _ => h reply⟩

theorem ShowsFailure.bind {d : Dialogue Q A α} {f : α → Dialogue Q A β}
    (h : d.ShowsFailure fails P) (hshows : ∀ a, (f a).ShowsFailure fails R)
    (halways : ∀ a, P a → (f a).Always R) : (d.bind f).ShowsFailure fails R := by
  induction d with
  | finish a => exact hshows a
  | ask q next ih =>
    intro reply
    obtain ⟨hnext, hfails⟩ := h reply
    exact ⟨ih reply hnext, fun hr => (hfails hr).bind halways⟩

theorem ShowsFailure.of_reaches {d rest : Dialogue Q A α} {t₁ t₂ : List (Exchange Q A)}
    {x : Exchange Q A} (h : d.ShowsFailure fails P) (ht : d.Reaches (t₁ ++ x :: t₂) rest)
    (hx : fails x.1 x.2) : rest.Always P := by
  induction t₁ generalizing d with
  | nil =>
    cases ht with
    | ask reply ht => exact ((h reply).2 hx).of_reaches ht
  | cons y t₁ ih =>
    cases ht with
    | ask reply ht => exact ih (h reply).1 ht

/-- A dialogue that fails shows in one that goes on only from a success. -/
theorem ShowsFailure.bind_ok {d : Dialogue Q A (Except ε α)} {f : Except ε α → Dialogue Q A β}
    (h : d.ShowsFailure fails (·.isOk = false)) (hok : ∀ a, (f (.ok a)).ShowsFailure fails R)
    (herror : ∀ e, (f (.error e)).Always R) : (d.bind f).ShowsFailure fails R := by
  refine h.bind (fun r => ?_) fun r hr => ?_
  · cases r with
    | error e => exact (herror e).showsFailure
    | ok a => exact hok a
  · cases r with
    | error e => exact herror e
    | ok a => cases hr

end Dialogue

/-! ## Replies that fail -/

/-- A reply that fails. A delete that finds nothing does not. -/
def ChildRequest.Fails : (q : ChildRequest) → q.Reply → Prop
  | .get _, reply => ∃ e, reply = .error e
  | .create _, reply => ∃ e, reply = .error e
  | .update _, reply => ∃ e, reply = .error e
  | .delete _, reply => ∃ e, reply = .error e ∧ e.isNotFound = false

/-- A reply that fails. The clock does not. -/
def ClusterRequest.Fails : (q : ClusterRequest) → q.Reply → Prop
  | .entity .clock, _ => False
  | .entity (.fetch _), reply => ∃ e, reply = .error e
  | .entity (.publish _), reply => ∃ e, reply = .error e
  | .child q, reply => q.Fails reply

/-! ## Children -/

namespace ChildDialogue

theorem get_showsFailure (child : ChildRef) :
    (get child).ShowsFailure ChildRequest.Fails (·.isOk = false) :=
  fun _ => ⟨trivial, by rintro ⟨e, rfl⟩; rfl⟩

theorem create_showsFailure (wanted : Manifest) :
    (create wanted).ShowsFailure ChildRequest.Fails (·.isOk = false) :=
  fun _ => ⟨trivial, by rintro ⟨e, rfl⟩; rfl⟩

theorem update_showsFailure (wanted : Manifest) :
    (update wanted).ShowsFailure ChildRequest.Fails (·.isOk = false) :=
  fun _ => ⟨trivial, by rintro ⟨e, rfl⟩; rfl⟩

theorem delete_showsFailure (child : ChildRef) :
    (delete child).ShowsFailure ChildRequest.Fails
      fun reply => ∃ e, reply = .error e ∧ e.isNotFound = false :=
  fun _ => ⟨trivial, id⟩

end ChildDialogue

section

variable (owner : OwnerReference)

theorem convergeChild_showsFailure (wanted : Manifest) :
    (convergeChild owner wanted).ShowsFailure ChildRequest.Fails (·.isOk = false) := by
  refine (ChildDialogue.get_showsFailure _).bind_ok (fun found => ?_) fun _ => rfl
  cases found with
  | none => exact (ChildDialogue.create_showsFailure _).bind_ok (fun _ => trivial) fun _ => rfl
  | some live =>
    dsimp only
    split
    · exact (ChildDialogue.update_showsFailure _).bind_ok (fun _ => trivial) fun _ => rfl
    · trivial

theorem removeChild_showsFailure (child : ChildRef) :
    (removeChild owner child).ShowsFailure ChildRequest.Fails (·.isOk = false) := by
  refine (ChildDialogue.get_showsFailure _).bind_ok (fun found => ?_) fun _ => rfl
  cases found with
  | none => trivial
  | some live =>
    dsimp only
    split
    · -- a delete that finds nothing goes on, which is why it does not count as failing
      refine (ChildDialogue.delete_showsFailure child).bind (fun reply => ?_) ?_
      · cases reply <;> trivial
      · rintro _ ⟨e, rfl, he⟩
        show (if e.isNotFound then _ else _ : Except ChildError ChildOutcome).isOk = false
        rw [he]
        rfl
    · trivial

theorem convergeWanted_showsFailure (ms : List Manifest) :
    (convergeWanted owner ms).ShowsFailure ChildRequest.Fails (·.isOk = false) := by
  induction ms with
  | nil => trivial
  | cons m rest ih =>
    refine (convergeChild_showsFailure owner m).bind_ok (fun _ => ?_) fun _ => rfl
    exact ih.bind_ok (fun _ => trivial) fun _ => rfl

theorem removeDropped_showsFailure (rs : List ChildRef) :
    (removeDropped owner rs).ShowsFailure ChildRequest.Fails (·.isOk = false) := by
  induction rs with
  | nil => trivial
  | cons child rest ih =>
    exact (removeChild_showsFailure owner child).bind_ok (fun _ => ih) fun _ => rfl

end

theorem convergeChildren_showsFailure (c : Cluster) :
    (convergeChildren c).ShowsFailure ChildRequest.Fails (·.isOk = false) := by
  unfold convergeChildren
  split
  · trivial
  · next owner _ =>
    refine (convergeWanted_showsFailure owner _).bind_ok (fun _ => ?_) fun _ => rfl
    exact (removeDropped_showsFailure owner _).bind_ok (fun _ => trivial) fun _ => rfl

/-! ## Passes -/

namespace ClusterDialogue

variable {α : Type} {P : α → Prop}

theorem always_ofChild {d : ChildDialogue α} (h : d.Always P) : (ofChild d).Always P := by
  induction d with
  | finish a => exact h
  | ask q next ih => exact fun reply => ih reply (h reply)

theorem showsFailure_ofChild {d : ChildDialogue α} (h : d.ShowsFailure ChildRequest.Fails P) :
    (ofChild d).ShowsFailure ClusterRequest.Fails P := by
  induction d with
  | finish a => trivial
  | ask q next ih =>
    intro reply
    obtain ⟨hnext, hfails⟩ := h reply
    exact ⟨ih reply hnext, fun hr => always_ofChild (hfails hr)⟩

theorem fetch_showsFailure (key : Key) :
    (fetch key).ShowsFailure ClusterRequest.Fails (·.isOk = false) :=
  fun _ => ⟨trivial, by rintro ⟨e, rfl⟩; rfl⟩

theorem publish_showsFailure (c : Cluster) :
    (publish c).ShowsFailure ClusterRequest.Fails (·.isOk = false) :=
  fun _ => ⟨trivial, by rintro ⟨e, rfl⟩; rfl⟩

end ClusterDialogue

namespace PassError

def BacksOff (result : Except PassError Requeue) : Prop :=
  ∃ e, result = .error e ∧ e.retry = .backoff

/-- A pass succeeded, or refused the spec, so it is not to be retried before something changes. -/
def isSettled : Except PassError Requeue → Bool
  | .ok _ | .error (.validation _) => true
  | _ => false

theorem BacksOff.not_isSettled {result : Except PassError Requeue} (h : BacksOff result) :
    isSettled result = false := by
  obtain ⟨e, rfl, he⟩ := h
  cases e with
  | validation => cases he
  | _ => rfl

end PassError

open ClusterDialogue

theorem startCluster_showsFailure (stamp : String) (c : Cluster) :
    (startCluster stamp c).ShowsFailure ClusterRequest.Fails (·.isOk = false) := by
  unfold startCluster
  split
  · exact publish_showsFailure _
  · trivial

theorem reportCluster_showsFailure (c : Cluster) (status : ClusterStatus)
    (outcome : Except PassError Requeue) :
    (reportCluster c status outcome).ShowsFailure ClusterRequest.Fails
      PassError.BacksOff := by
  unfold reportCluster
  split
  · exact (publish_showsFailure _).bind_ok (fun _ => trivial) fun _ => ⟨_, rfl, rfl⟩
  · trivial

theorem reportCluster_always (c : Cluster) (status : ClusterStatus)
    {outcome : Except PassError Requeue} (h : PassError.BacksOff outcome) :
    (reportCluster c status outcome).Always PassError.BacksOff := by
  unfold reportCluster
  split
  · intro reply
    cases reply with
    | error e => exact ⟨_, rfl, rfl⟩
    | ok c => exact h
  · exact h

theorem workOnCluster_showsFailure (stamp : String) (c : Cluster) :
    (workOnCluster stamp c).ShowsFailure ClusterRequest.Fails PassError.BacksOff := by
  unfold workOnCluster
  split
  · exact reportCluster_showsFailure _ _ _
  · have hchildren := showsFailure_ofChild (convergeChildren_showsFailure c)
    refine hchildren.bind_ok (fun _ => ?_) fun _ => ?_
    · exact reportCluster_showsFailure _ _ _
    · exact reportCluster_always _ _ ⟨_, rfl, rfl⟩

/-- A failing call shows in the result of a pass. -/
theorem reconcileCluster_showsFailure (key : Key) :
    (reconcileCluster key).ShowsFailure ClusterRequest.Fails PassError.BacksOff := by
  refine (fetch_showsFailure key).bind_ok (fun found => ?_) fun _ => ⟨_, rfl, rfl⟩
  cases found with
  | none => trivial
  | some c =>
    dsimp only
    split
    · trivial
    · refine fun stamp => ⟨?_, False.elim⟩
      exact (startCluster_showsFailure stamp c).bind_ok
        (fun c => workOnCluster_showsFailure stamp c) fun _ => ⟨_, rfl, rfl⟩

/-! ## Stores that fail on demand -/

def Bench.calm {σ τ : Type} (b : Bench σ τ) : Bench σ τ :=
  { b with faults := {} }

namespace ClusterBench

variable {α : Type} {P : α → Prop} {b : ClusterBench}

theorem fails_or_answer_calm (hb : b.faults.AreHonest) (stamp : String) (q : ClusterRequest) :
    q.Fails (answer stamp q b).1 ∨
      answer stamp q b.calm = ((answer stamp q b).1, (answer stamp q b).2.calm) := by
  cases q with
  | entity q =>
    cases q with
    | clock => exact Or.inr rfl
    | fetch key =>
      simp only [answer, Bench.entityAnswer]
      obtain ⟨_ | e, faults⟩ := b.faults.next .getEntity
      · exact Or.inr rfl
      · exact Or.inl ⟨e, rfl⟩
    | publish c =>
      simp only [answer, Bench.entityAnswer]
      obtain ⟨_ | e, faults⟩ := b.faults.next .publish
      · exact Or.inr rfl
      · exact Or.inl ⟨e, rfl⟩
  | child q =>
    have hdelete : ∀ e, (b.faults.next q.callName).1 = some e → q.callName = .delete →
        e.isNotFound = false := fun e he hq => hb e (hq ▸ Faults.mem_waiting_of_fails he)
    simp only [answer, Bench.childAnswer]
    generalize b.faults.next q.callName = next at hdelete ⊢
    obtain ⟨_ | e, faults⟩ := next
    · exact Or.inr rfl
    · refine Or.inl ?_
      cases q with
      | get | create | update => exact ⟨e, rfl⟩
      | delete => exact ⟨e, rfl, hdelete e rfl rfl⟩

/-- A dialogue that shows no failure goes as when no failure waits. -/
theorem run_calm {d : ClusterDialogue α} (hd : d.ShowsFailure ClusterRequest.Fails P)
    (hb : b.faults.AreHonest) (stamp : String) (hP : ¬ P (d.run (answer stamp) b).1) :
    d.run (answer stamp) b.calm =
      ((d.run (answer stamp) b).1, (d.run (answer stamp) b).2.calm) := by
  induction d generalizing b with
  | finish a => rfl
  | ask q next ih =>
    obtain ⟨hnext, hfails⟩ := hd (answer stamp q b).1
    rcases fails_or_answer_calm hb stamp q with hfail | hcalm
    · exact absurd ((hfails hfail).run (answer stamp) _) hP
    · simp only [Dialogue.run, hcalm]
      exact ih _ hnext (honest_answer hb stamp q) hP

theorem pass_calm (hb : b.faults.AreHonest) (stamp : String) (key : Key)
    (h : PassError.isSettled (pass stamp key b).1 = true) :
    pass stamp key b.calm = ((pass stamp key b).1, (pass stamp key b).2.calm) := by
  refine run_calm (reconcileCluster_showsFailure key) hb stamp fun hback => ?_
  rw [show PassError.isSettled (pass stamp key b).1 = false from hback.not_isSettled] at h
  cases h

end ClusterBench

end ClusterOperator

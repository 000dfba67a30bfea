import ClusterOperator.Proofs.Convergence.Failure
import ClusterOperator.Proofs.Convergence.Pass

/-!
# Settled passes are repeated in silence

A pass that succeeds, or that refuses the spec, leaves the stores at rest: the children need no
update, and the report of the pass is published. A pass over stores at rest comes to the same result
and only reads, whatever the time.

* `Bench.OnlyRead` : the stores were read, and nothing was written;
* `ChildStore.IsConverged`, `Cluster.IsReported` : the children of a cluster need no call that
  writes, and a report of a cluster is published; `convergeChildren_reads`;
* `AtRest` : the stores are at rest for a key, and what a pass over it comes to;
  `AtRest.pass`, such a pass; `atRest_of_pass`, a settled pass leaves them so;
* `settled_pass_repeats` : after a settled pass, any number of passes at any times only read, and
  come to the same result.
-/

namespace ClusterOperator

open Dialogue

/-! ## Reading -/

def Noted.isWrite {σ τ : Type} : Noted σ τ → Bool
  | .fetched _ _ | .child (.get _) _ => false
  | .published _ _ _ | .child _ _ => true

namespace Bench

variable {σ τ : Type} {a b c : Bench σ τ}

structure OnlyRead (a b : Bench σ τ) : Prop where
  entities : b.entities = a.entities
  children : b.children = a.children
  silent : b.faults.AreSilent
  notes : ∃ reads, b.notes = a.notes ++ reads ∧ ∀ n ∈ reads, n.isWrite = false

theorem OnlyRead.refl (h : a.faults.AreSilent) : a.OnlyRead a :=
  ⟨rfl, rfl, h, [], by simp, by simp⟩

theorem OnlyRead.trans (h : a.OnlyRead b) (h' : b.OnlyRead c) : a.OnlyRead c := by
  obtain ⟨xs, hxs, hx⟩ := h.notes
  obtain ⟨ys, hys, hy⟩ := h'.notes
  refine ⟨h'.entities.trans h.entities, h'.children.trans h.children, h'.silent, xs ++ ys, ?_, ?_⟩
  · rw [hys, hxs, List.append_assoc]
  · intro n hn
    exact (List.mem_append.1 hn).elim (hx n) (hy n)

theorem get_reads (child : ChildRef) (hb : b.faults.AreSilent) :
    ∃ b' : Bench σ τ,
      (ChildDialogue.get child).run childAnswer b = (.ok (b.children.objects.get? child), b') ∧
        b.OnlyRead b' := by
  obtain ⟨g, hg, hs⟩ := hb.next .get
  simp only [ChildDialogue.get, request, run, childAnswer, ChildRequest.callName, hg,
    ChildStore.answer]
  exact ⟨_, rfl, rfl, rfl, hs, _, rfl, by simp [Noted.isWrite]⟩

end Bench

namespace ClusterBench

theorem fetch_reads {b : ClusterBench} (key : Key) (stamp : String) (hb : b.faults.AreSilent) :
    ∃ b' : ClusterBench, (ClusterDialogue.fetch key).run (answer stamp) b =
      (.ok (b.entities.objects.get? key), b') ∧ b.OnlyRead b' := by
  obtain ⟨g, hg, hs⟩ := hb.next .getEntity
  simp only [ClusterDialogue.fetch, request, run, answer, Bench.entityAnswer, hg,
    EntityStore.answer]
  exact ⟨_, rfl, rfl, rfl, hs, _, rfl, by simp [Noted.isWrite]⟩

end ClusterBench

/-! ## Children at rest -/

section

variable {owner : OwnerReference} {b : ClusterBench}

theorem convergeChild_reads {wanted : Manifest} (hfull : wanted.managedFields.isFull = true)
    (h : ∃ live, b.children.objects.get? wanted.ref = some live ∧
      live.IsConverged wanted owner.uid) (hb : b.faults.AreSilent) :
    ∃ b' : ClusterBench,
      (convergeChild owner wanted).run Bench.childAnswer b = (.ok .unchanged, b') ∧
        b.OnlyRead b' := by
  obtain ⟨live, hlive, hconv⟩ := h
  obtain ⟨b', hget, hread⟩ := Bench.get_reads wanted.ref hb
  rw [hlive] at hget
  -- what would be written has the managed fields of what is wanted, so the live child has them too
  have hnext : live.IsConverged ((live.carryForward wanted).owned owner) owner.uid :=
    ⟨by simpa using hconv.fields, by simpa using hconv.version, hconv.controlled⟩
  have hcurrent := Manifest.not_needsUpdate_of_isConverged hnext (by simpa using hfull)
  refine ⟨b', ?_, hread⟩
  simp [convergeChild, run_bind, hget, hcurrent, run]

theorem removeChild_reads {child : ChildRef}
    (h : ∀ live, b.children.objects.get? child = some live →
      live.metadata.isControlledBy owner.uid = false) (hb : b.faults.AreSilent) :
    ∃ outcome, ∃ b' : ClusterBench,
      (removeChild owner child).run Bench.childAnswer b = (.ok outcome, b') ∧ b.OnlyRead b' := by
  obtain ⟨b', hget, hread⟩ := Bench.get_reads child hb
  cases hlive : b.children.objects.get? child with
  | none =>
    rw [hlive] at hget
    refine ⟨.absent, b', ?_, hread⟩
    simp [removeChild, run_bind, hget, run]
  | some live =>
    rw [hlive] at hget
    refine ⟨.foreign, b', ?_, hread⟩
    simp [removeChild, run_bind, hget, h live hlive, run]

theorem convergeWanted_reads {ms : List Manifest}
    (hfull : ∀ m ∈ ms, m.managedFields.isFull = true)
    (h : ∀ m ∈ ms, ∃ live, b.children.objects.get? m.ref = some live ∧
      live.IsConverged m owner.uid) (hb : b.faults.AreSilent) :
    ∃ b' : ClusterBench,
      (convergeWanted owner ms).run Bench.childAnswer b = (.ok (ms.map Manifest.ref), b') ∧
        b.OnlyRead b' := by
  induction ms generalizing b with
  | nil => exact ⟨b, rfl, .refl hb⟩
  | cons m rest ih =>
    obtain ⟨b₁, h₁, hread₁⟩ :=
      convergeChild_reads (hfull m List.mem_cons_self) (h m List.mem_cons_self) hb
    have hrest : ∀ n ∈ rest, ∃ live, b₁.children.objects.get? n.ref = some live ∧
        live.IsConverged n owner.uid := by
      rw [hread₁.children]
      exact fun n hn => h n (List.mem_cons_of_mem _ hn)
    obtain ⟨b₂, h₂, hread₂⟩ :=
      ih (fun n hn => hfull n (List.mem_cons_of_mem _ hn)) hrest hread₁.silent
    refine ⟨b₂, ?_, hread₁.trans hread₂⟩
    simp [convergeWanted, run_bind, h₁, h₂, run]

theorem removeDropped_reads {rs : List ChildRef}
    (h : ∀ r ∈ rs, ∀ live, b.children.objects.get? r = some live →
      live.metadata.isControlledBy owner.uid = false) (hb : b.faults.AreSilent) :
    ∃ b' : ClusterBench,
      (removeDropped owner rs).run Bench.childAnswer b = (.ok (), b') ∧ b.OnlyRead b' := by
  induction rs generalizing b with
  | nil => exact ⟨b, rfl, .refl hb⟩
  | cons child rest ih =>
    obtain ⟨outcome, b₁, h₁, hread₁⟩ := removeChild_reads (h child List.mem_cons_self) hb
    have hrest : ∀ r ∈ rest, ∀ live, b₁.children.objects.get? r = some live →
        live.metadata.isControlledBy owner.uid = false := by
      rw [hread₁.children]
      exact fun r hr => h r (List.mem_cons_of_mem _ hr)
    obtain ⟨b₂, h₂, hread₂⟩ := ih hrest hread₁.silent
    refine ⟨b₂, ?_, hread₁.trans hread₂⟩
    simp [removeDropped, run_bind, h₁, h₂]

end

/-- The wanted children of a cluster are as they are wanted, and it controls none of those that it
dropped. -/
structure ChildStore.IsConverged (s : ChildStore) (c : Cluster) (owner : OwnerReference) :
    Prop where
  wanted : ∀ m ∈ Children.wanted c, ∃ live, s.objects.get? m.ref = some live ∧
    live.IsConverged m owner.uid
  dropped : ∀ r ∈ Children.dropped c, ∀ live, s.objects.get? r = some live →
    live.metadata.isControlledBy owner.uid = false

theorem convergeChildren_reads {c : Cluster} {owner : OwnerReference} {b : ClusterBench}
    (howner : ownerReference c = .ok owner) (h : b.children.IsConverged c owner)
    (hb : b.faults.AreSilent) :
    ∃ b' : ClusterBench, (convergeChildren c).run Bench.childAnswer b =
      (.ok ((Children.wanted c).map Manifest.ref), b') ∧ b.OnlyRead b' := by
  have hfull : ∀ m ∈ Children.wanted c, m.managedFields.isFull = true := by
    intro m hm
    rw [Children.managedFields_of_wanted hm]
    exact c.spec.isFull_managedFields m.kind
  obtain ⟨b₁, h₁, hread₁⟩ := convergeWanted_reads hfull h.wanted hb
  obtain ⟨b₂, h₂, hread₂⟩ :=
    removeDropped_reads (by rw [hread₁.children]; exact h.dropped) hread₁.silent
  refine ⟨b₂, ?_, hread₁.trans hread₂⟩
  simp [convergeChildren, howner, run_bind, h₁, h₂, run]

/-- Converged children stay as they are until they are written. -/
theorem isConverged_of_convergeChildren {c : Cluster} {owner : OwnerReference} {s t : ChildStore}
    {refs : List ChildRef} (howner : ownerReference c = .ok owner)
    (h : (convergeChildren c).run ChildStore.answer s = (.ok refs, t)) :
    refs = (Children.wanted c).map Manifest.ref ∧ t.IsConverged c owner := by
  obtain ⟨u, hu, hwanted, hdropped, -⟩ := convergeChildren_run howner s
  rw [hu] at h
  cases h
  refine ⟨rfl, hwanted, fun r hr live hlive => ?_⟩
  rw [hdropped r hr, Option.filter_eq_some_iff] at hlive
  simpa using hlive.2

/-! ## Statuses at rest -/

/-- A report of a cluster is published, at whatever time it is made again. -/
structure Cluster.IsReported (c : Cluster) (report : String → ClusterStatus → ClusterStatus) :
    Prop where
  conditions_ne_nil : c.conditions ≠ []
  not_shouldPublish : ∀ stamp,
    shouldPublish ClusterStatus.encode c.status (report stamp c.statusOrEmpty) = false

namespace ClusterBench

variable {b : ClusterBench} {c : Cluster} {report : String → ClusterStatus → ClusterStatus}

theorem reportCluster_reports (hreport : ClusterStatus.IsReport report) (hb : b.Holds c)
    (hc : c.conditions ≠ []) (stamp : String) (outcome : Except PassError Requeue) :
    ∃ (status : Option ClusterStatus) (b' : ClusterBench),
      (reportCluster c (report stamp c.statusOrEmpty) outcome).run (answer stamp) b =
        (outcome, b') ∧
      b'.Holds { c with status } ∧ b'.children = b.children ∧
        Cluster.IsReported { c with status } report := by
  unfold reportCluster
  split
  · obtain ⟨b', hrun, hb', hchildren⟩ := publish_run hb stamp (report stamp c.statusOrEmpty)
    refine ⟨_, b', ?_, hb', hchildren, hreport.conditions_ne_nil stamp _, fun stamp' => ?_⟩
    · simp [run_bind, hrun, run]
    · exact hreport.not_shouldPublish_again stamp stamp' _
  · next h =>
    -- nothing was published, as an earlier report differs in times only
    refine ⟨c.status, b, rfl, hb, rfl, hc, fun stamp' => ?_⟩
    rw [hreport.shouldPublish_eq stamp' stamp]
    exact Bool.eq_false_iff.2 h

theorem reportCluster_of_isReported (h : Cluster.IsReported c report) (stamp : String)
    (outcome : Except PassError Requeue) :
    reportCluster c (report stamp c.statusOrEmpty) outcome = .finish outcome := by
  unfold reportCluster
  rw [h.not_shouldPublish stamp]
  rfl

end ClusterBench

/-! ## Stores at rest -/

def refusal (reason : Invalid) (stamp : String) (s : ClusterStatus) : ClusterStatus :=
  s.failed Reason.invalidConfig reason.message stamp

def readiness (c : Cluster) (stamp : String) (s : ClusterStatus) : ClusterStatus :=
  s.ready c.metadata.generation
    (((Children.wanted c).map Manifest.ref).map fun r => ⟨r.kind.name, r.name⟩) stamp

theorem isReport_refusal (reason : Invalid) : ClusterStatus.IsReport (refusal reason) :=
  ClusterStatus.isReport_failed _ _

theorem isReport_readiness (c : Cluster) : ClusterStatus.IsReport (readiness c) :=
  ClusterStatus.isReport_ready _ _

/-- The stores are at rest for a key, and what a pass over it comes to. -/
inductive AtRest (entities : EntityStore ClusterSpec ClusterStatus) (children : ChildStore)
    (key : Key) : Except PassError Requeue → Prop
  | absent (h : entities.objects.get? key = none) : AtRest entities children key (.ok .awaitChange)
  | deleting {c : Cluster} (h : entities.objects.get? key = some c)
      (hdeleting : c.metadata.deletionTimestamp.isSome) :
      AtRest entities children key (.ok .awaitChange)
  | refused {c : Cluster} {reason : Invalid} (h : entities.objects.get? key = some c)
      (hlive : c.metadata.deletionTimestamp = none) (hspec : c.spec.validate = .error reason)
      (hreported : c.IsReported (refusal reason)) :
      AtRest entities children key (.error (.validation reason))
  | converged {c : Cluster} {owner : OwnerReference} (h : entities.objects.get? key = some c)
      (hlive : c.metadata.deletionTimestamp = none) (hspec : c.spec.validate = .ok ())
      (howner : ownerReference c = .ok owner) (hchildren : children.IsConverged c owner)
      (hreported : c.IsReported (readiness c)) :
      AtRest entities children key (.ok .awaitChange)

namespace ClusterBench

variable {b b' : ClusterBench} {c : Cluster} {key : Key} {r : Except PassError Requeue}

theorem pass_of_conditions (hb : b.faults.AreSilent)
    (hstored : b.entities.objects.get? key = some c)
    (hlive : c.metadata.deletionTimestamp = none) (hc : c.conditions ≠ []) (stamp : String) :
    ∃ b₁ : ClusterBench, pass stamp key b = (workOnCluster stamp c).run (answer stamp) b₁ ∧
      b.OnlyRead b₁ := by
  obtain ⟨b₁, h₁, hread⟩ := fetch_reads key stamp hb
  rw [hstored] at h₁
  have hstart : startCluster stamp c = .finish (.ok c) := by
    unfold startCluster
    rw [if_neg (by simpa using hc)]
    rfl
  refine ⟨b₁, ?_, hread⟩
  simp [pass, reconcileCluster, run_bind, h₁, hlive, run_clock, hstart]

/-- A refusal that is published is all that there is to do. -/
theorem workOnCluster_of_refused {reason : Invalid} (hspec : c.spec.validate = .error reason)
    (hreported : c.IsReported (refusal reason)) (stamp : String) :
    workOnCluster stamp c = .finish (.error (.validation reason)) := by
  unfold workOnCluster
  rw [hspec]
  exact reportCluster_of_isReported hreported stamp _

/-- Converged children are only read, and that they are is published. -/
theorem workOnCluster_reads {owner : OwnerReference} (hb : b.faults.AreSilent)
    (hspec : c.spec.validate = .ok ()) (howner : ownerReference c = .ok owner)
    (hchildren : b.children.IsConverged c owner) (hreported : c.IsReported (readiness c))
    (stamp : String) :
    ∃ b' : ClusterBench, (workOnCluster stamp c).run (answer stamp) b = (.ok .awaitChange, b') ∧
      b.OnlyRead b' := by
  obtain ⟨b', hrun, hread⟩ := convergeChildren_reads howner hchildren hb
  have hreport := reportCluster_of_isReported hreported stamp (.ok .awaitChange)
  unfold readiness at hreport
  refine ⟨b', ?_, hread⟩
  simp only [workOnCluster, hspec, bind_eq, run_bind, run_ofChild, hrun, hreport, run]

end ClusterBench

open ClusterBench in
theorem AtRest.pass {b : ClusterBench} {key : Key} {r : Except PassError Requeue}
    (h : AtRest b.entities b.children key r) (hb : b.faults.AreSilent) (stamp : String) :
    ∃ b' : ClusterBench, ClusterBench.pass stamp key b = (r, b') ∧ b.OnlyRead b' := by
  cases h with
  | absent hc =>
    obtain ⟨b₁, h₁, hread⟩ := fetch_reads key stamp hb
    rw [hc] at h₁
    refine ⟨b₁, ?_, hread⟩
    simp [ClusterBench.pass, reconcileCluster, run_bind, h₁, run]
  | deleting hc hdeleting =>
    obtain ⟨b₁, h₁, hread⟩ := fetch_reads key stamp hb
    rw [hc] at h₁
    refine ⟨b₁, ?_, hread⟩
    simp [ClusterBench.pass, reconcileCluster, run_bind, h₁, hdeleting, run]
  | refused hc hlive hspec hreported =>
    obtain ⟨b₁, h₁, hread⟩ :=
      pass_of_conditions hb hc hlive hreported.conditions_ne_nil stamp
    rw [workOnCluster_of_refused hspec hreported] at h₁
    exact ⟨b₁, h₁, hread⟩
  | converged hc hlive hspec howner hchildren hreported =>
    obtain ⟨b₁, h₁, hread₁⟩ :=
      pass_of_conditions hb hc hlive hreported.conditions_ne_nil stamp
    rw [← hread₁.children] at hchildren
    obtain ⟨b₂, h₂, hread₂⟩ :=
      workOnCluster_reads hread₁.silent hspec howner hchildren hreported stamp
    exact ⟨b₂, h₁.trans h₂, hread₁.trans hread₂⟩

namespace ClusterBench

variable {b b' : ClusterBench} {c : Cluster} {key : Key} {r : Except PassError Requeue}

theorem atRest_of_workOnCluster (hb : b.Holds c) (hc : c.conditions ≠ [])
    (hlive : c.metadata.deletionTimestamp = none) {stamp : String}
    (hrun : (workOnCluster stamp c).run (answer stamp) b = (r, b'))
    (hr : PassError.isSettled r = true) : AtRest b'.entities b'.children c.key r := by
  unfold workOnCluster at hrun
  cases hspec : c.spec.validate with
  | error reason =>
    rw [hspec] at hrun
    obtain ⟨status, b₁, h₁, hb₁, -, hreported⟩ :=
      reportCluster_reports (isReport_refusal reason) hb hc stamp (.error (.validation reason))
    cases hrun.symm.trans h₁
    exact .refused (c := { c with status }) hb₁.stored hlive hspec hreported
  | ok _ =>
    rw [hspec] at hrun
    obtain ⟨b₁, h₁, hc₁, he₁, hs₁⟩ := Bench.run_childAnswer (convergeChildren c) hb.silent
    have hb₁ : Holds b₁ c := ⟨hs₁, by rw [he₁]; exact hb.stored⟩
    simp only [bind_eq, run_bind, run_ofChild, h₁] at hrun
    cases howner : ownerReference c with
    | error e =>
      -- without an owner the children fail, and such a pass is not settled
      have hfailed : (convergeChildren c).run ChildStore.answer b.children =
          (.error e, b.children) := by
        simp [convergeChildren, howner, run]
      rw [hfailed] at hrun
      obtain ⟨b₂, h₂, -⟩ := reportCluster_run hb₁ stamp
        (c.statusOrEmpty.failed Reason.reconcileFailed e.message stamp) (.error (.children e))
      cases hrun.symm.trans h₂
      cases hr
    | ok owner =>
      obtain ⟨t, ht, -⟩ := convergeChildren_run howner b.children
      have hconv := (isConverged_of_convergeChildren howner ht).2
      rw [ht] at hrun hc₁
      obtain ⟨status, b₂, h₂, hb₂, hc₂, hreported⟩ :=
        reportCluster_reports (isReport_readiness c) hb₁ hc stamp (.ok .awaitChange)
      cases hrun.symm.trans h₂
      have hchildren : b'.children.IsConverged { c with status } owner := by
        rw [hc₂, hc₁]
        exact ⟨hconv.wanted, hconv.dropped⟩
      exact .converged (c := { c with status }) hb₂.stored hlive hspec howner hchildren hreported

/-- A settled pass over stores whose calls do not fail leaves them at rest. -/
theorem atRest_of_silent_pass (hb : b.faults.AreSilent)
    (hkeyed : ∀ c, b.entities.objects.get? key = some c → c.key = key) {stamp : String}
    (hpass : pass stamp key b = (r, b')) (hr : PassError.isSettled r = true) :
    AtRest b'.entities b'.children key r := by
  cases hstored : b.entities.objects.get? key with
  | none =>
    obtain ⟨b₁, h₁, hread⟩ :=
      AtRest.pass (.absent hstored : AtRest b.entities b.children key _) hb stamp
    cases hpass.symm.trans h₁
    exact .absent (by rw [hread.entities]; exact hstored)
  | some c =>
    obtain rfl := hkeyed c hstored
    cases hdeleting : c.metadata.deletionTimestamp.isSome with
    | true =>
      obtain ⟨b₁, h₁, hread⟩ :=
        AtRest.pass (.deleting hstored hdeleting : AtRest b.entities b.children c.key _) hb stamp
      cases hpass.symm.trans h₁
      exact .deleting (by rw [hread.entities]; exact hstored) hdeleting
    | false =>
      have hlive : c.metadata.deletionTimestamp = none := by simpa using hdeleting
      obtain ⟨status, b₁, hstart, hb₁, -, hc⟩ := pass_start (b := b) ⟨hb, hstored⟩ stamp hlive
      rw [hstart] at hpass
      exact atRest_of_workOnCluster (c := { c with status }) hb₁ hc hlive hpass hr

/-- A settled pass met no failing call, and leaves the stores at rest. -/
theorem atRest_of_pass (hb : b.faults.AreHonest)
    (hkeyed : ∀ c, b.entities.objects.get? key = some c → c.key = key) {stamp : String}
    (hpass : pass stamp key b = (r, b')) (hr : PassError.isSettled r = true) :
    AtRest b'.entities b'.children key r := by
  have hcalm := pass_calm hb stamp key (by rw [hpass]; exact hr)
  rw [hpass] at hcalm
  have hsilent : b.calm.faults.AreSilent := fun call e he => by cases he
  have hrest : AtRest b'.calm.entities b'.calm.children key r :=
    atRest_of_silent_pass hsilent hkeyed hcalm hr
  exact hrest

def passes (key : Key) : List String → ClusterBench →
    List (Except PassError Requeue) × ClusterBench
  | [], b => ([], b)
  | stamp :: rest, b =>
    let (outcome, b) := pass stamp key b
    let (outcomes, b) := passes key rest b
    (outcome :: outcomes, b)

theorem passes_of_atRest (h : AtRest b.entities b.children key r) (hb : b.faults.AreSilent)
    (stamps : List String) :
    ∃ b' : ClusterBench, passes key stamps b = (stamps.map fun _ => r, b') ∧ b.OnlyRead b' := by
  induction stamps generalizing b with
  | nil => exact ⟨b, rfl, .refl hb⟩
  | cons stamp rest ih =>
    obtain ⟨b₁, h₁, hread₁⟩ := h.pass hb stamp
    -- what was only read is still at rest
    have hrest : AtRest b₁.entities b₁.children key r := by
      rw [hread₁.entities, hread₁.children]
      exact h
    obtain ⟨b₂, h₂, hread₂⟩ := ih hrest hread₁.silent
    refine ⟨b₂, ?_, hread₁.trans hread₂⟩
    simp [passes, h₁, h₂]

end ClusterBench

/-- After a pass that succeeded or refused the spec, any number of passes at any times come to the
same result and only read, as long as no call fails: they create, update, delete and publish
nothing, and both stores stay as they are. -/
theorem settled_pass_repeats {key : Key} {b b' : ClusterBench} {r : Except PassError Requeue}
    {stamp : String} (hkeyed : ∀ c, b.entities.objects.get? key = some c → c.key = key)
    (hhonest : b.faults.AreHonest) (hpass : ClusterBench.pass stamp key b = (r, b'))
    (hr : PassError.isSettled r = true) (hsilent : b'.faults.AreSilent) (stamps : List String) :
    ∃ b'' : ClusterBench, ClusterBench.passes key stamps b' = (stamps.map fun _ => r, b'') ∧
      b''.entities = b'.entities ∧ b''.children = b'.children ∧
      ∃ reads, b''.notes = b'.notes ++ reads ∧ ∀ n ∈ reads, n.isWrite = false := by
  have hrest := ClusterBench.atRest_of_pass hhonest hkeyed hpass hr
  obtain ⟨b'', hpasses, hread⟩ := ClusterBench.passes_of_atRest hrest hsilent stamps
  exact ⟨b'', hpasses, hread.entities, hread.children, hread.notes⟩

/-- The pass that removes a service and replaces a deployment is repeated twice. -/
theorem settled_pass_repeats_over_leftovers :
    ∃ b' b'' : ClusterBench,
      ClusterBench.pass "t" hiddenCluster.key leftovers = (.ok .awaitChange, b') ∧
      ClusterBench.passes hiddenCluster.key ["u", "v"] b' =
        ([.ok .awaitChange, .ok .awaitChange], b'') ∧
      b''.entities = b'.entities ∧ b''.children = b'.children ∧
      ∃ reads, b''.notes = b'.notes ++ reads ∧ ∀ n ∈ reads, n.isWrite = false := by
  have hsilent : leftovers.faults.AreSilent := fun call e he => by cases he
  have hhonest : leftovers.faults.AreHonest := fun e he => by cases he
  have hkeyed : ∀ c, leftovers.entities.objects.get? hiddenCluster.key = some c →
      c.key = hiddenCluster.key := by
    intro c hc
    cases hc
    rfl
  obtain ⟨b', hpass, -⟩ := ClusterBench.pass_run (b := leftovers) (c := hiddenCluster)
    ⟨hsilent, rfl⟩ "t" rfl rfl rfl
  have hsilent' : b'.faults.AreSilent := by
    have h := ClusterBench.silent_of_run (reconcileCluster hiddenCluster.key) hsilent "t"
    rw [show (reconcileCluster hiddenCluster.key).run _ leftovers = _ from hpass] at h
    exact h
  obtain ⟨b'', hrest⟩ := settled_pass_repeats hkeyed hhonest hpass rfl hsilent' ["u", "v"]
  exact ⟨b', b'', hpass, hrest⟩

end ClusterOperator

import ClusterOperator.Proofs.Convergence.Completion
import ClusterOperator.Proofs.Convergence.Control
import ClusterOperator.Proofs.Convergence.Pass
import Mathlib.Data.List.Induction

/-!
# Removals among other clients

A dropped child is removed in two calls: it is read, and deleted if its cluster controls it. Other
clients may write the child between the two. The delete names the child and nothing more, so it
takes whatever is there by then.

* `removal` : the removal of the dropped children of a cluster; `removal_cases`,
  `removeDropped_singleton`, its calls;
* `RemovalEvent`, `RemovalRun` : what happens to a store meanwhile; `RemovalRun.after`;
* `RemovalEvent.lastPut?` : the last object that other clients stored under an identity;
* `RemovalRun.Removes` : the next turn takes an object away;
* `HasRead` : a controlled service was read, and its delete is next;
* `removed_controlled_iff` : which objects are removed, and when the cluster controls them;
  `removed_though_foreign`, one that it does not.
-/

namespace ClusterOperator

open Dialogue

def removal (c : Cluster) : ChildDialogue (Except ChildError Unit) :=
  match ownerReference c with
  | .error e => return .error e
  | .ok owner => removeDropped owner (Children.dropped c)

inductive RemovalEvent where
  /-- The next call of the removal is answered, if there is one. -/
  | turn
  /-- Another client creates, updates or replaces an object. -/
  | put (m : Manifest)
  /-- Another client deletes an object. -/
  | drop (child : ChildRef)

def RemovalEvent.put? (child : ChildRef) : RemovalEvent → Option Manifest
  | .put m => if m.ref = child then some m else none
  | _ => none

def RemovalEvent.lastPut? (child : ChildRef) (es : List RemovalEvent) : Option Manifest :=
  (es.filterMap (put? child)).getLast?

/-- A store of child objects, with what is left of a removal. -/
structure RemovalRun where
  store : ChildStore
  rest : ChildDialogue (Except ChildError Unit)

namespace RemovalRun

def occur (w : RemovalRun) : RemovalEvent → RemovalRun
  | .turn =>
    match w.rest with
    | .finish _ => w
    | .ask q next =>
      let (reply, store) := ChildStore.answer q w.store
      ⟨store, next reply⟩
  | .put m => { w with store := (w.store.put m).2 }
  | .drop child => { w with store := w.store.drop child }

def after (w : RemovalRun) (es : List RemovalEvent) : RemovalRun :=
  es.foldl occur w

variable {w : RemovalRun} {es : List RemovalEvent} {child : ChildRef}

theorem after_append (w : RemovalRun) (es fs : List RemovalEvent) :
    w.after (es ++ fs) = (w.after es).after fs :=
  List.foldl_append

@[simp] theorem after_cons (w : RemovalRun) (e : RemovalEvent) (es : List RemovalEvent) :
    w.after (e :: es) = (w.occur e).after es :=
  rfl

theorem occur_turn_of_finish {a : Except ChildError Unit} (h : w.rest = .finish a) :
    w.occur .turn = w := by
  simp [occur, h]

theorem rest_after (h : .turn ∉ es) : (w.after es).rest = w.rest := by
  induction es generalizing w with
  | nil => rfl
  | cons e es ih =>
    rw [List.mem_cons, not_or] at h
    refine (ih h.2).trans ?_
    cases e with
    | turn => exact absurd rfl h.1
    | put m => rfl
    | drop r => rfl

theorem rest_after_of_finish {a : Except ChildError Unit} (h : w.rest = .finish a) :
    (w.after es).rest = .finish a := by
  induction es generalizing w with
  | nil => exact h
  | cons e es ih =>
    refine ih ?_
    cases e with
    | turn => rw [occur_turn_of_finish h, h]
    | put m => exact h
    | drop r => exact h

/-- What is found under an identity after a while in which the removal had no turn is what other
clients stored there last, or what was there before. -/
theorem get?_after (h : .turn ∉ es) {m : Manifest}
    (hm : (w.after es).store.objects.get? child = some m) :
    (∃ n version, RemovalEvent.lastPut? child es = some n ∧ m = n.withVersion version) ∨
      RemovalEvent.lastPut? child es = none ∧ w.store.objects.get? child = some m := by
  induction es using List.reverseRecOn generalizing m with
  | nil => exact Or.inr ⟨rfl, hm⟩
  | append_singleton es e ih =>
    rw [List.mem_append, not_or] at h
    rw [after_append] at hm
    unfold RemovalEvent.lastPut?
    rw [List.filterMap_append]
    cases e with
    | turn => exact absurd List.mem_cons_self h.2
    | put n =>
      replace hm : ((w.after es).store.put n).2.objects.get? child = some m := hm
      rw [ChildStore.get?_put] at hm
      by_cases hn : child = n.ref
      · rw [if_pos hn] at hm
        have hput : [RemovalEvent.put n].filterMap (RemovalEvent.put? child) = [n] := by
          simp [RemovalEvent.put?, hn]
        rw [hput, List.getLast?_concat]
        exact Or.inl ⟨n, _, rfl, (Option.some.inj hm).symm⟩
      · rw [if_neg hn] at hm
        have hput : [RemovalEvent.put n].filterMap (RemovalEvent.put? child) = [] := by
          simp [RemovalEvent.put?, Ne.symm hn]
        rw [hput, List.append_nil]
        exact ih h.1 hm
    | drop r =>
      replace hm : ((w.after es).store.drop r).objects.get? child = some m := hm
      rw [ChildStore.get?_drop] at hm
      by_cases hr : child = r
      · rw [if_pos hr] at hm
        cases hm
      · rw [if_neg hr] at hm
        have hput : [RemovalEvent.drop r].filterMap (RemovalEvent.put? child) = [] := rfl
        rw [hput, List.append_nil]
        exact ih h.1 hm

/-- The next turn takes an object away. -/
structure Removes (w : RemovalRun) (child : ChildRef) (m : Manifest) : Prop where
  there : w.store.objects.get? child = some m
  gone : (w.occur .turn).store.objects.get? child ≠ some m

theorem not_removes_of_finish {m : Manifest} {a : Except ChildError Unit}
    (h : w.rest = .finish a) : ¬ w.Removes child m := fun hm =>
  hm.gone (by rw [occur_turn_of_finish h, hm.there])

theorem occur_turn_of_get {next} (h : w.rest = .ask (.get child) next) :
    w.occur .turn = ⟨w.store, next (.ok (w.store.objects.get? child))⟩ := by
  simp [occur, h, ChildStore.answer]

theorem rest_occur_turn_of_ask {q : ChildRequest} {next} (h : w.rest = .ask q next) :
    ∃ reply, (w.occur .turn).rest = next reply := by
  simp [occur, h]

theorem removes_iff_of_delete {r : ChildRef} {next} {m : Manifest}
    (h : w.rest = .ask (.delete r) next) :
    w.Removes child m ↔ child = r ∧ w.store.objects.get? child = some m := by
  constructor
  · intro hm
    refine ⟨?_, hm.there⟩
    by_contra hne
    refine hm.gone ?_
    rw [← hm.there]
    cases hr : w.store.objects.get? r with
    | none => simp [occur, h, ChildStore.answer, hr]
    | some live => simp [occur, h, ChildStore.answer, hr, ChildStore.get?_drop, hne]
  · rintro ⟨rfl, hm⟩
    exact ⟨hm, by simp [occur, h, ChildStore.answer, hm, ChildStore.get?_drop]⟩

end RemovalRun

/-! ## The removal of a service -/

theorem Manifest.isControlledBy_withVersion (m : Manifest) (version uid : String) :
    (m.withVersion version).metadata.isControlledBy uid = m.metadata.isControlledBy uid := by
  simp [withVersion, Metadata.isControlledBy]

/-- A child is read, and deleted if the one that was read is controlled by the owner. Then the
removal ends. -/
theorem removeDropped_singleton (owner : OwnerReference) (child : ChildRef) :
    ∃ next, removeDropped owner [child] = .ask (.get child) next ∧
      (∀ reply, (∀ live, reply = .ok (some live) →
          live.metadata.isControlledBy owner.uid = false) → ∃ a, next reply = .finish a) ∧
      ∀ live : Manifest, live.metadata.isControlledBy owner.uid = true →
        ∃ last, next (.ok (some live)) = .ask (.delete child) last ∧
          ∀ reply, ∃ a, last reply = .finish a := by
  refine ⟨_, rfl, fun reply hforeign => ?_, fun live hcontrolled => ?_⟩
  · rcases reply with e | _ | live
    · exact ⟨_, rfl⟩
    · exact ⟨_, rfl⟩
    · exact ⟨.ok (), by simp [hforeign live rfl, removeDropped]⟩
  · refine ⟨_, by simp [hcontrolled, ChildDialogue.delete, request]; rfl, fun reply => ?_⟩
    rcases reply with e | _
    · cases hgone : e.isNotFound with
      | false => exact ⟨.error (.delete child e), by simp [hgone]⟩
      | true => exact ⟨.ok (), by simp [hgone, removeDropped]⟩
    · exact ⟨_, rfl⟩

theorem removal_of_hidden {c : Cluster} {owner : OwnerReference}
    (howner : ownerReference c = .ok owner) (hexpose : c.spec.isExposed = false) :
    removal c = removeDropped owner [Children.refOf c .service] := by
  simp [removal, howner, Children.dropped, hexpose, Children.refOf]

/-- A removal that calls the store is that of the service of a cluster that wants none. -/
theorem removal_cases (c : Cluster) :
    (∃ a, removal c = .finish a) ∨
      ∃ owner, ownerReference c = .ok owner ∧ c.spec.isExposed = false := by
  unfold removal
  cases howner : ownerReference c with
  | error e => exact Or.inl ⟨_, rfl⟩
  | ok owner =>
    cases hexpose : c.spec.isExposed with
    | true => exact Or.inl ⟨.ok (), by simp [Children.dropped, hexpose, removeDropped]⟩
    | false => exact Or.inr ⟨owner, rfl, rfl⟩

/-- A removal read a service that is controlled by an owner, and has had no turn since: others did
what happened `between`. -/
inductive HasRead (c : Cluster) (s : ChildStore) (uid : String) :
    List RemovalEvent → List RemovalEvent → Prop where
  | intro {before between : List RemovalEvent} {live : Manifest} (hbefore : .turn ∉ before)
      (hread : ((⟨s, removal c⟩ : RemovalRun).after before).store.objects.get?
        (Children.refOf c .service) = some live)
      (hcontrolled : live.metadata.isControlledBy uid = true) (hbetween : .turn ∉ between) :
    HasRead c s uid (before ++ .turn :: between) between

section

open RemovalRun

variable {c : Cluster} {s : ChildStore} {es between : List RemovalEvent} {child : ChildRef}
  {m : Manifest} {owner : OwnerReference}

theorem rest_of_unread (s : ChildStore) (howner : ownerReference c = .ok owner)
    (hexpose : c.spec.isExposed = false) (h : .turn ∉ es) :
    ((⟨s, removal c⟩ : RemovalRun).after es).rest =
      removeDropped owner [Children.refOf c .service] :=
  (rest_after h).trans (removal_of_hidden howner hexpose)

theorem HasRead.rest (h : HasRead c s owner.uid es between)
    (howner : ownerReference c = .ok owner) (hexpose : c.spec.isExposed = false) :
    ∃ last, ((⟨s, removal c⟩ : RemovalRun).after es).rest =
      .ask (.delete (Children.refOf c .service)) last := by
  obtain ⟨next, hget, -, hnext⟩ := removeDropped_singleton owner (Children.refOf c .service)
  cases h with
  | @intro before between live hbefore hread hcontrolled hbetween =>
    obtain ⟨last, hdelete, -⟩ := hnext live hcontrolled
    have hrest := (rest_of_unread s howner hexpose hbefore).trans hget
    refine ⟨last, ?_⟩
    rw [after_append, after_cons, rest_after hbetween, occur_turn_of_get hrest, hread]
    exact hdelete

/-- The service is controlled unless others stored one since that is not. -/
theorem HasRead.controlled_iff (h : HasRead c s owner.uid es between)
    (howner : ownerReference c = .ok owner) (hexpose : c.spec.isExposed = false)
    (hm : ((⟨s, removal c⟩ : RemovalRun).after es).store.objects.get?
      (Children.refOf c .service) = some m) :
    m.metadata.isControlledBy owner.uid = true ↔
      ∀ n, RemovalEvent.lastPut? (Children.refOf c .service) between = some n →
        n.metadata.isControlledBy owner.uid = true := by
  obtain ⟨next, hget, -⟩ := removeDropped_singleton owner (Children.refOf c .service)
  cases h with
  | @intro before between live hbefore hread hcontrolled hbetween =>
    have hrest := (rest_of_unread s howner hexpose hbefore).trans hget
    rw [after_append, after_cons, occur_turn_of_get hrest] at hm
    rcases get?_after hbetween hm with ⟨n, version, hn, rfl⟩ | ⟨hnone, hsame⟩
    · rw [hn, Manifest.isControlledBy_withVersion]
      exact ⟨fun hcontrol _ h => Option.some.inj h ▸ hcontrol, fun h => h n rfl⟩
    · obtain rfl : live = m := Option.some.inj (hread.symm.trans hsame)
      simp [hnone, hcontrolled]

/-- A removal takes something away only after it has read a controlled service. -/
theorem hasRead_of_removes (h : ((⟨s, removal c⟩ : RemovalRun).after es).Removes child m)
    (howner : ownerReference c = .ok owner) (hexpose : c.spec.isExposed = false) :
    ∃ between, HasRead c s owner.uid es between := by
  obtain ⟨next, hget, hforeign, hnext⟩ :=
    removeDropped_singleton owner (Children.refOf c .service)
  by_cases hturn : .turn ∈ es
  swap
  · -- the first call only reads
    have hrest := (rest_of_unread s howner hexpose hturn).trans hget
    exact absurd h.there (by simpa [occur_turn_of_get hrest] using h.gone)
  obtain ⟨before, between, rfl, hbefore⟩ := List.eq_append_cons_of_mem hturn
  have hrest := (rest_of_unread s howner hexpose hbefore).trans hget
  rw [after_append, after_cons, occur_turn_of_get hrest] at h
  by_cases hread : ∃ live, ((⟨s, removal c⟩ : RemovalRun).after before).store.objects.get?
      (Children.refOf c .service) = some live ∧ live.metadata.isControlledBy owner.uid = true
  swap
  · obtain ⟨a, ha⟩ := hforeign (.ok _) fun live hlive =>
      Bool.eq_false_iff.2 fun hcontrolled => hread ⟨live, Except.ok.inj hlive, hcontrolled⟩
    exact absurd h (not_removes_of_finish (rest_after_of_finish ha))
  obtain ⟨live, hlive, hcontrolled⟩ := hread
  obtain ⟨last, hdelete, hlast⟩ := hnext live hcontrolled
  refine ⟨between, .intro hbefore hlive hcontrolled fun hturn => ?_⟩
  -- the removal is over after the delete
  obtain ⟨during, later, rfl, hduring⟩ := List.eq_append_cons_of_mem hturn
  rw [hlive, hdelete, after_append, after_cons] at h
  generalize ((⟨s, removal c⟩ : RemovalRun).after before).store = t at h
  obtain ⟨reply, hreply⟩ := rest_occur_turn_of_ask
    (rest_after (w := ⟨t, .ask (.delete (Children.refOf c .service)) last⟩) hduring)
  obtain ⟨a, ha⟩ := hlast reply
  exact not_removes_of_finish (rest_after_of_finish (hreply.trans ha)) h

end

/-- A removal takes away what is stored as the service of a cluster that wants none, once it has
read one that the cluster controls, and nothing else. The cluster controls what is taken away
exactly if it controls what other clients stored there since the read, if anything. -/
theorem removed_controlled_iff (c : Cluster) (s : ChildStore) (es : List RemovalEvent)
    (child : ChildRef) (m : Manifest) :
    (((⟨s, removal c⟩ : RemovalRun).after es).Removes child m ↔
      c.spec.isExposed = false ∧ c.metadata.name.isSome ∧ child = Children.refOf c .service ∧
      ((⟨s, removal c⟩ : RemovalRun).after es).store.objects.get? child = some m ∧
      ∃ uid between, c.metadata.uid = some uid ∧ HasRead c s uid es between) ∧
    ∀ uid between, c.metadata.uid = some uid → HasRead c s uid es between →
      ((⟨s, removal c⟩ : RemovalRun).after es).Removes child m →
      (m.metadata.isControlledBy uid = true ↔
        ∀ n, RemovalEvent.lastPut? child between = some n →
          n.metadata.isControlledBy uid = true) := by
  have hremoves : ∀ {owner between}, ownerReference c = .ok owner → c.spec.isExposed = false →
      HasRead c s owner.uid es between →
      (((⟨s, removal c⟩ : RemovalRun).after es).Removes child m ↔
        child = Children.refOf c .service ∧
        ((⟨s, removal c⟩ : RemovalRun).after es).store.objects.get? child = some m) := by
    intro owner between howner hexpose hread
    obtain ⟨last, hrest⟩ := hread.rest howner hexpose
    exact RemovalRun.removes_iff_of_delete hrest
  have hcalls : ((⟨s, removal c⟩ : RemovalRun).after es).Removes child m →
      ∃ owner, ownerReference c = .ok owner ∧ c.spec.isExposed = false := fun h =>
    (removal_cases c).resolve_left fun ⟨a, ha⟩ =>
      RemovalRun.not_removes_of_finish (RemovalRun.rest_after_of_finish ha) h
  refine ⟨⟨fun h => ?_, ?_⟩, fun uid between huid hread h => ?_⟩
  · obtain ⟨owner, howner, hexpose⟩ := hcalls h
    obtain ⟨between, hread⟩ := hasRead_of_removes h howner hexpose
    obtain ⟨hchild, hm⟩ := (hremoves howner hexpose hread).1 h
    exact ⟨hexpose, name_of_ownerReference howner, hchild, hm, owner.uid, between,
      uid_of_ownerReference howner, hread⟩
  · rintro ⟨hexpose, hname, hchild, hm, uid, between, huid, hread⟩
    obtain ⟨owner, howner, rfl⟩ := exists_ownerReference hname huid
    exact (hremoves howner hexpose hread).2 ⟨hchild, hm⟩
  · obtain ⟨owner, howner, hexpose⟩ := hcalls h
    obtain rfl : owner.uid = uid :=
      Option.some.inj ((uid_of_ownerReference howner).symm.trans huid)
    obtain ⟨rfl, hm⟩ := (hremoves howner hexpose hread).1 h
    exact hread.controlled_iff howner hexpose hm

/-- A service that its cluster controls is removed, and is the one that was read if other clients
write other objects only. -/
theorem removed_controlled_over_leftovers :
    ∃ m, leftovers.children.objects.get? ⟨.service, "ns", "demo"⟩ = some m ∧
      HasRead hiddenCluster leftovers.children "u" [.turn, .drop ⟨.deployment, "ns", "demo"⟩]
        [.drop ⟨.deployment, "ns", "demo"⟩] ∧
      ((⟨leftovers.children, removal hiddenCluster⟩ : RemovalRun).after
        [.turn, .drop ⟨.deployment, "ns", "demo"⟩]).Removes ⟨.service, "ns", "demo"⟩ m ∧
      m.metadata.isControlledBy "u" = true := by
  have hread : HasRead hiddenCluster leftovers.children "u"
      ([] ++ [.turn, .drop ⟨.deployment, "ns", "demo"⟩]) [.drop ⟨.deployment, "ns", "demo"⟩] :=
    .intro List.not_mem_nil rfl (by decide) (by simp)
  obtain ⟨hiff, hcontrolled⟩ := removed_controlled_iff hiddenCluster leftovers.children
    [.turn, .drop ⟨.deployment, "ns", "demo"⟩] ⟨.service, "ns", "demo"⟩ _
  have hremoves := hiff.2 ⟨rfl, rfl, rfl, rfl, "u", _, rfl, hread⟩
  refine ⟨_, rfl, hread, hremoves, ?_⟩
  exact (hcontrolled "u" _ rfl hread hremoves).2 fun n hn => by cases hn

/-- A service that another client puts in the place of the one that was read is removed, though
another object controls it. -/
theorem removed_though_foreign :
    ¬ ∀ (c : Cluster) (uid : String) (s : ChildStore) (es : List RemovalEvent) (child : ChildRef)
      (m : Manifest), c.spec.isExposed = false → c.metadata.uid = some uid →
        ((⟨s, removal c⟩ : RemovalRun).after es).Removes child m →
        m.metadata.isControlledBy uid = true := by
  intro h
  have hremoves : ((⟨leftovers.children, removal hiddenCluster⟩ : RemovalRun).after
      [.turn, .put (ownedService true)]).Removes ⟨.service, "ns", "demo"⟩ _ := ⟨rfl, by decide⟩
  have hcontrol := h hiddenCluster "u" _ _ _ _ rfl rfl hremoves
  exact absurd hcontrol (by decide)

end ClusterOperator

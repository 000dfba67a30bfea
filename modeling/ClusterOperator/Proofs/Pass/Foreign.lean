import ClusterOperator.Proofs.Pass.LastResult
import ClusterOperator.Proofs.Pass.Patched
import ClusterOperator.Proofs.Pass.Phases
import ClusterOperator.Proofs.Status.Foreign

/-!
# Conditions that others have set, over passes

The status of a stored object may list conditions of types that passes do not know. However often
passes run over the object and whatever they publish, these conditions stay, in their order and with
all that they say; only the names of their types are lost with the first status that is published.

* `Entity.readConditions_of_decode?` : an entity is read with the conditions that its object holds;
* `EntityCall.Brings` : what a call brings back;
* `LeavesForeign` : first conditions and reports leave the conditions of the type unknown alone;
* `FramedStatus` : a status is the first one, or one that was published over it;
  `EntityCall.Served.framed`, `ObjectWorld.IsFramed.step`, `ObjectWorld.IsFramed.run`;
* `ForeignKept` : what becomes of the conditions of types that passes do not know;
  `foreign_conditions_kept`, for clusters and queries.
-/

namespace ClusterOperator

open Dialogue Json

section

variable {σ τ : Type} [Managed σ τ] {place : Nat} {cs : List Condition} {first : Json}

theorem Entity.readConditions_of_decode? (hholds : Managed.HoldsConditions σ place)
    {j status : Json} {e : Entity σ τ} (hj : j.statuses = some [status]) (h : decode? j = some e) :
    status.conditions? place = some e.conditions := by
  obtain ⟨members, rfl, hold⟩ := statuses_eq_some.1 hj
  unfold decode? at h
  rw [slots?_of_single_status (by rw [hold]; exact Nat.le_refl 1), hold] at h
  split_ifs at h
  simp only [Option.bind_eq_bind, Option.bind_eq_some_iff] at h
  obtain ⟨metadata, -, spec, -, held, hheld, he⟩ := h
  cases he
  change (Slot.given status).optional (Managed.decodeStatus? σ) = some held at hheld
  unfold Slot.optional at hheld
  split at hheld
  · next hnull =>
    cases hnull
    cases hheld
    rfl
  · next hgiven =>
    cases hgiven
    obtain ⟨s, hs, rfl⟩ := Option.map_eq_some_iff.1 hheld
    exact hholds.read hs
  · next hslot => cases hslot
  · next hslot => cases hslot

/-! ## Calls -/

/-- If a call brings an entity back, it is one of these. -/
def EntityCall.Brings (P : Entity σ τ → Prop) : EntityCall σ τ → Prop
  | .fetched _ (.ok (some e)) => P e
  | .published _ (.ok e) => P e
  | _ => True

theorem Starts.brings {key : Key} {seed : Entity σ τ → String → τ} {calls : List (EntityCall σ τ)}
    {copy : Entity σ τ} (h : Starts key seed calls copy) {P : Entity σ τ → Prop}
    (hcalls : ∀ call ∈ calls, call.Brings P) : P copy := by
  cases h with
  | known => exact hcalls _ List.mem_cons_self
  | seeded => exact hcalls _ (List.mem_cons_of_mem _ List.mem_cons_self)

/-- A status is the first one, or one that lists conditions which leave those of the type unknown
as they were. -/
inductive FramedStatus (place : Nat) (cs : List Condition) (first : Json) : Json → Prop where
  | same : FramedStatus place cs first first
  | published {status : Json} {ds : List Condition} (h : Condition.Frame cs ds)
      (hslot : status.conditionSlot place = .given (.arr (ds.map Condition.encode))) :
    FramedStatus place cs first status

/-- The conditions that are read from such a status leave those of the type unknown as they
were. -/
theorem FramedStatus.read {status : Json} (h : FramedStatus place cs first status)
    (hfirst : first.conditions? place = some cs) :
    ∃ ds, status.conditions? place = some ds ∧ Condition.Frame cs ds := by
  cases h with
  | same => exact ⟨cs, hfirst, .refl cs⟩
  | published h hslot => exact ⟨_, conditions?_encode hslot, h⟩

def Json.HoldsFramed (j : Json) (place : Nat) (cs : List Condition) (first : Json) : Prop :=
  ∃ status, j.statuses = some [status] ∧ FramedStatus place cs first status

theorem Json.HoldsFramed.frame (hholds : Managed.HoldsConditions σ place)
    (hfirst : first.conditions? place = some cs)
    {j : Json} (hj : j.HoldsFramed place cs first) {e : Entity σ τ} (h : Entity.decode? j = some e) :
    Condition.Frame cs e.conditions := by
  obtain ⟨status, hstatus, hframed⟩ := hj
  obtain ⟨ds, hds, hframe⟩ := hframed.read hfirst
  rw [Entity.readConditions_of_decode? hholds hstatus h] at hds
  cases hds
  exact hframe

theorem Json.HoldsFramed.mergeStatus (hholds : Managed.HoldsConditions σ place)
    (hreads : Managed.ReadsStatus σ) {j : Json} (hj : j.HoldsFramed place cs first) {s : τ}
    (hs : Condition.Frame cs (Managed.conditions σ s)) (hne : Managed.conditions σ s ≠ []) :
    (j.mergeStatus (Managed.encodeStatus σ s)).HoldsFramed place cs first := by
  obtain ⟨status, hstatus, -⟩ := hj
  have hold : j.statuses = some (some status).toList := hstatus
  rw [mergeStatus_eq hold (hreads.encode_ne_null s)]
  exact ⟨_, statuses_replaceStatus hstatus, .published hs (hholds.merge _ hne)⟩

/-- A call brings back conditions that leave those of the type unknown as they were, if what is
stored and what is published do. -/
theorem EntityCall.Served.framed (hholds : Managed.HoldsConditions σ place)
    (hreads : Managed.ReadsStatus σ)
    (hfirst : first.conditions? place = some cs)
    {before after : Option Json} {call : EntityCall σ τ} (h : call.Served mergeStatus before after)
    (hbefore : ∀ j ∈ before, j.HoldsFramed place cs first)
    (hpublished : ∀ p reply, call = .published p reply → ∃ s, p.status = some s ∧
      Condition.Frame cs (Managed.conditions σ s) ∧ Managed.conditions σ s ≠ []) :
    call.Brings (fun e => Condition.Frame cs e.conditions) ∧
      ∀ j ∈ after, j.HoldsFramed place cs first := by
  have hwritten : ∀ {j p reply}, before = some j → call = .published p reply →
      (j.mergeStatus p.sentStatus).HoldsFramed place cs first := by
    intro j p reply hj hcall
    obtain ⟨s, hs, hframe, hne⟩ := hpublished p reply hcall
    unfold Entity.sentStatus
    rw [hs]
    exact (hbefore j hj).mergeStatus hholds hreads hframe hne
  cases h with
  | absent | unfetched | refused => exact ⟨trivial, hbefore⟩
  | found key h => exact ⟨(hbefore _ rfl).frame hholds hfirst h, hbefore⟩
  | stored h =>
    have hnew := hwritten rfl rfl
    exact ⟨hnew.frame hholds hfirst h, fun j hj => by cases hj; exact hnew⟩
  | lost j p error =>
    exact ⟨trivial, fun j hj => by cases hj; exact hwritten rfl rfl⟩

end

/-! ## Passes -/

/-- First conditions and reports leave the conditions of the type unknown as they were, and there
are always conditions. -/
structure LeavesForeign {σ τ T : Type} [Managed σ τ] (seed : Entity σ τ → String → τ)
    (Reports : T → Entity σ τ → τ → Except PassError Requeue → Prop) : Prop where
  seed : ∀ found stamp, Condition.Frame found.conditions (Managed.conditions σ (seed found stamp)) ∧
    Managed.conditions σ (seed found stamp) ≠ []
  report : ∀ {t copy s result}, Reports t copy s result →
    Condition.Frame copy.conditions (Managed.conditions σ s) ∧ Managed.conditions σ s ≠ []

namespace ObjectWorld

variable {σ τ Q : Type} {A : Q → Type} [Managed σ τ]
  {call? : Exchange Q A → Option (EntityCall σ τ)}
  {pass : Dialogue Q A (Except PassError Requeue)} {key : Key} {seed : Entity σ τ → String → τ}
  {Reports : List (Exchange Q A) → Entity σ τ → τ → Except PassError Requeue → Prop}
  {Keeps : List (Exchange Q A) → Entity σ τ → Except PassError Requeue → Prop}
  {place : Nat} {cs : List Condition} {first : Json} {o o' : ObjectWorld Q A}

/-- The stored object holds a status that leaves the conditions of the type unknown as they were,
and so does all that the pass under way was brought. -/
structure IsFramed (call? : Exchange Q A → Option (EntityCall σ τ))
    (pass : Dialogue Q A (Except PassError Requeue)) (place : Nat) (cs : List Condition)
    (first : Json) (o : ObjectWorld Q A) : Prop where
  stored : ∀ j ∈ o.stored, j.HoldsFramed place cs first
  running : ∀ t rest, o.running = some (t, rest) → pass.Reaches t rest ∧
    ∀ call ∈ t.filterMap call?, call.Brings fun e => Condition.Frame cs e.conditions

/-- What the pass under way publishes leaves the conditions of the type unknown as they were. -/
theorem IsFramed.published (haccount : IsAccounted call? pass key seed Reports Keeps)
    (hleaves : LeavesForeign seed Reports) (ho : o.IsFramed call? pass place cs first)
    {t : List (Exchange Q A)} {q : Q} {next : A q → Dialogue Q A (Except PassError Requeue)}
    (hrunning : o.running = some (t, .ask q next)) {reply : A q} {p : Entity σ τ}
    {written : Except StoreError (Entity σ τ)}
    (hcall : call? ⟨q, reply⟩ = some (.published p written)) :
    ∃ s, p.status = some s ∧ Condition.Frame cs (Managed.conditions σ s) ∧
      Managed.conditions σ s ≠ [] := by
  obtain ⟨hcourse, hbrings⟩ := ho.running t _ hrunning
  have hreached := haccount _ _ (hcourse.snoc reply)
  rw [List.filterMap_append, List.filterMap_cons_some hcall, List.filterMap_nil] at hreached
  rcases hreached.published_cases with
    ⟨found, stamp, hcalls, -, rfl⟩ | ⟨copy, s, result, hstarts, hreport, rfl⟩
  · rw [hcalls] at hbrings
    have hfound := hbrings _ List.mem_cons_self
    obtain ⟨hframe, hne⟩ := hleaves.seed found stamp
    exact ⟨_, rfl, Condition.Frame.trans hfound hframe, hne⟩
  · obtain ⟨hframe, hne⟩ := hleaves.report hreport
    exact ⟨_, rfl, (hstarts.brings hbrings).trans hframe, hne⟩

theorem IsFramed.step (hholds : Managed.HoldsConditions σ place) (hreads : Managed.ReadsStatus σ)
    (haccount : IsAccounted call? pass key seed Reports Keeps)
    (hleaves : LeavesForeign seed Reports)
    (hfirst : first.conditions? place = some cs)
    (ho : o.IsFramed call? pass place cs first) (h : Step mergeStatus call? pass o o') :
    o'.IsFramed call? pass place cs first := by
  cases h with
  | edit running hj =>
    refine ⟨fun j hj' => ?_, ho.running⟩
    cases hj'
    obtain ⟨status, hstatus, hframed⟩ := ho.stored _ rfl
    exact ⟨status, hj.trans hstatus, hframed⟩
  | remove j running => exact ⟨fun _ hj => (by cases hj), ho.running⟩
  | start stored =>
    refine ⟨ho.stored, fun t rest hrun => ?_⟩
    cases hrun
    exact ⟨.refl pass, fun call hcall => by cases hcall⟩
  | @exchange before after t q next reply hserves =>
    obtain ⟨hcourse, hbrings⟩ := ho.running t _ rfl
    unfold Serves at hserves
    cases hcall : call? ⟨q, reply⟩ with
    | none =>
      rw [hcall] at hserves
      subst hserves
      refine ⟨ho.stored, fun t' rest hrun => ?_⟩
      cases hrun
      refine ⟨hcourse.snoc reply, ?_⟩
      rw [List.filterMap_append, List.filterMap_cons_none hcall, List.filterMap_nil,
        List.append_nil]
      exact hbrings
    | some call =>
      rw [hcall] at hserves
      obtain ⟨hbrought, hafter⟩ := hserves.framed hholds hreads hfirst ho.stored
        fun p written heq => ho.published haccount hleaves rfl (hcall.trans (congrArg some heq))
      refine ⟨hafter, fun t' rest hrun => ?_⟩
      cases hrun
      refine ⟨hcourse.snoc reply, fun call' hcall' => ?_⟩
      rw [List.filterMap_append, List.filterMap_cons_some hcall, List.filterMap_nil,
        List.mem_append, List.mem_singleton] at hcall'
      rcases hcall' with hcall' | rfl
      · exact hbrings _ hcall'
      · exact hbrought
  | leave stored under => exact ⟨ho.stored, fun t rest hrun => by cases hrun⟩

theorem IsFramed.run (hholds : Managed.HoldsConditions σ place) (hreads : Managed.ReadsStatus σ)
    (haccount : IsAccounted call? pass key seed Reports Keeps)
    (hleaves : LeavesForeign seed Reports)
    (hfirst : first.conditions? place = some cs)
    (ho : o.IsFramed call? pass place cs first) (h : Run mergeStatus call? pass o o') :
    o'.IsFramed call? pass place cs first := by
  induction h with
  | refl => exact ho
  | tail _ hstep ih => exact ih.step hholds hreads haccount hleaves hfirst hstep

end ObjectWorld

/-! ## Clusters and queries -/

theorem reconcileCluster_leavesForeign : LeavesForeign Cluster.seed
    fun t : List ClusterExchange => ClusterReport (t.filterMap ClusterExchange.child?) where
  seed found stamp := by
    rw [← Cluster.conditions_statusOrEmpty]
    exact ⟨ClusterStatus.frame_started .., Condition.set_ne_nil⟩
  report {t copy s result} h := by
    rw [← Cluster.conditions_statusOrEmpty]
    cases h with
    | refused | failed => exact ⟨ClusterStatus.frame_failed .., Condition.set_ne_nil⟩
    | ready => exact ⟨ClusterStatus.frame_ready .., Condition.set_ne_nil⟩

theorem reconcileQuery_leavesForeign (settings : RefreshSettings) : LeavesForeign Query.seed
    fun t : List QueryExchange => QueryReport settings (t.filterMap QueryExchange.lookup?) where
  seed found stamp := by
    rw [← Query.conditions_statusOrEmpty]
    exact ⟨QueryStatus.frame_started .., Condition.set_ne_nil⟩
  report {t copy s result} h := by
    rw [← Query.conditions_statusOrEmpty]
    cases h with
    | refused | failed => exact ⟨QueryStatus.frame_failed .., Condition.set_ne_nil⟩
    | answered => exact ⟨QueryStatus.frame_answered .., Condition.set_ne_nil⟩

open ToldCondition

section

variable {σ τ Q : Type} {A : Q → Type} [Managed σ τ]

/-- Passes over an object that holds a status with conditions, however many there are and whatever
happens to them. The object holds that status until one is published. From then on the conditions of
types that passes do not know are told in their order and as they were, but for the type, which is
`Unknown`; if the types were all different, they still are exactly if passes do not know more than
one of them. -/
def ForeignKept (place : Nat) (call? : Exchange Q A → Option (EntityCall σ τ))
    (pass : Dialogue Q A (Except PassError Requeue)) : Prop :=
  ∀ first status ts, first.statuses = some [status] → told? place status = some ts →
    ∀ o, ObjectWorld.Run mergeStatus call? pass ⟨some first, none⟩ o → ∀ j ∈ o.stored,
      j.statuses = some [status] ∨
      ∃ status' ts', j.statuses = some [status'] ∧ told? place status' = some ts' ∧
        foreign ts' = (foreign ts).map unnamed ∧
        ((ts.map (·.type)).Nodup → ((ts'.map (·.type)).Nodup ↔ (foreign ts).length ≤ 1))

theorem foreignKept_of_account {call? : Exchange Q A → Option (EntityCall σ τ)}
    {pass : Dialogue Q A (Except PassError Requeue)} {key : Key} {seed : Entity σ τ → String → τ}
    {Reports : List (Exchange Q A) → Entity σ τ → τ → Except PassError Requeue → Prop}
    {Keeps : List (Exchange Q A) → Entity σ τ → Except PassError Requeue → Prop} {place : Nat}
    (hholds : Managed.HoldsConditions σ place) (hreads : Managed.ReadsStatus σ)
    (haccount : IsAccounted call? pass key seed Reports Keeps)
    (hleaves : LeavesForeign seed Reports) : ForeignKept place call? pass := by
  intro first status ts hstatus hts o h j hj
  have hread : status.conditions? place = some (ts.map known) := by
    rw [conditions?_eq, hts]
    rfl
  have hstart : ObjectWorld.IsFramed call? pass place (ts.map known) status ⟨some first, none⟩ :=
    ⟨fun j hj => by cases hj; exact ⟨status, hstatus, .same⟩, fun _ _ hrun => by cases hrun⟩
  obtain ⟨status', hstatus', hframed⟩ :=
    (hstart.run hholds hreads haccount hleaves hread h).stored j hj
  cases hframed with
  | same => exact Or.inl hstatus'
  | published hframe hslot =>
    exact Or.inr ⟨status', _, hstatus', told?_encode hslot, foreign_told hframe,
      nodup_told_iff hframe⟩

end

/-- Conditions of types that passes do not know stay with a cluster and with a query as
`ForeignKept` says. -/
theorem foreign_conditions_kept :
    (∀ key, ForeignKept ClusterStatus.conditionPlace ClusterExchange.call?
      (reconcileCluster key)) ∧
    ∀ settings key, ForeignKept QueryStatus.conditionPlace QueryExchange.call?
      (reconcileQuery settings key) :=
  ⟨fun key => foreignKept_of_account ClusterSpec.holdsConditions ClusterSpec.readsStatus
      (reconcileCluster_isAccounted key) reconcileCluster_leavesForeign,
    fun settings key => foreignKept_of_account QuerySpec.holdsConditions QuerySpec.readsStatus
      (reconcileQuery_isAccounted settings key) (reconcileQuery_leavesForeign settings)⟩

def conditionsHolding (types : List String) : Json :=
  .arr (types.map fun t => .obj [("type", .str t), ("status", .str "True")])

/-- A cluster that names no image, with a status that lists conditions of some types. -/
def vagueClusterTelling (types : List String) : Json :=
  .obj [("metadata", vagueCluster.metadata.encode), ("spec", .obj []),
    ("status", .obj [("conditions", conditionsHolding types)])]

/-- What is read from it if passes know none of the types. -/
def vagueClusterTold (types : List String) : Cluster :=
  vagueCluster.withStatus { conditions := types.map fun _ => ⟨.unknown, .yes, none, none, none⟩ }

def refusedTelling (types : List String) : ClusterStatus :=
  (vagueClusterTold types).statusOrEmpty.failed Reason.invalidConfig
    (Invalid.message .imageMissing) "t"

open ObjectWorld in
/-- A condition of one such type stays when the cluster is refused, and bears the name `Unknown`
then. -/
theorem foreign_conditions_kept_when_refused :
    ∃ j t status' ts', Run mergeStatus ClusterExchange.call? (reconcileCluster vagueCluster.key)
        ⟨some (vagueClusterTelling ["Paused"]), none⟩ ⟨some j, some t⟩ ∧
      j.statuses = some [status'] ∧ told? ClusterStatus.conditionPlace status' = some ts' ∧
      foreign ts' = [⟨"Unknown", .yes, none, none, none⟩] ∧ (ts'.map (·.type)).Nodup := by
  have h₁ : Run mergeStatus ClusterExchange.call? (reconcileCluster vagueCluster.key)
      ⟨some (vagueClusterTelling ["Paused"]), none⟩ _ := .single (.start _)
  have h₂ := h₁.tail (.exchange (.ok (some (vagueClusterTold ["Paused"])))
    (by exact .found _ (by decide +kernel)))
  have h₃ := h₂.tail (.exchange "t" (by exact rfl))
  have h₄ := h₃.tail (.exchange (.ok (vagueCluster.withStatus (refusedTelling ["Paused"])))
    (by exact .stored (by decide +kernel)))
  have hkept := foreign_conditions_kept.1 vagueCluster.key _ _ [⟨"Paused", .yes, none, none, none⟩]
    (by exact rfl) (by decide +kernel) _ h₄ _ rfl
  rcases hkept with hsame | ⟨status', ts', hstatus, hts, hforeign, hnodup⟩
  · exact absurd hsame (by decide +kernel)
  · exact ⟨_, _, status', ts', h₄, hstatus, hts, hforeign.trans (by decide),
      (hnodup (by decide)).2 (by decide)⟩

open ObjectWorld in
/-- Two conditions of different types bear one name when the cluster has been refused. -/
theorem foreign_conditions_renamed :
    ∃ j t ts ts', Run mergeStatus ClusterExchange.call? (reconcileCluster vagueCluster.key)
        ⟨some (vagueClusterTelling ["Progressing", "Paused"]), none⟩
        ⟨some j, some (t, .finish (.error (.validation .imageMissing)))⟩ ∧
      (vagueClusterTelling ["Progressing", "Paused"]).find? "status" =
        some (.obj [("conditions", conditionsHolding ["Progressing", "Paused"])]) ∧
      told? ClusterStatus.conditionPlace
        (.obj [("conditions", conditionsHolding ["Progressing", "Paused"])]) = some ts ∧
      ts.map (·.type) = ["Progressing", "Paused"] ∧
      (j.find? "status").bind (told? ClusterStatus.conditionPlace) = some ts' ∧
      ts'.map (·.type) = ["Available", "Degraded", "Unknown", "Unknown"] := by
  have h₁ : Run mergeStatus ClusterExchange.call? (reconcileCluster vagueCluster.key)
      ⟨some (vagueClusterTelling ["Progressing", "Paused"]), none⟩ _ := .single (.start _)
  have h₂ := h₁.tail (.exchange (.ok (some (vagueClusterTold ["Progressing", "Paused"])))
    (by exact .found _ (by decide +kernel)))
  have h₃ := h₂.tail (.exchange "t" (by exact rfl))
  have h₄ := h₃.tail (.exchange
    (.ok (vagueCluster.withStatus (refusedTelling ["Progressing", "Paused"])))
    (by exact .stored (by decide +kernel)))
  exact ⟨_, _, _, _, h₄, rfl, rfl, by decide, rfl, by decide +kernel⟩

end ClusterOperator

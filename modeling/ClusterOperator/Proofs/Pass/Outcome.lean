import ClusterOperator.Proofs.Pass.Stored
import ClusterOperator.Proofs.Status.Encoding

/-!
# The status tells the outcome

When a pass has ended, the stored status says how, unless the pass could not read the entity or
write its status.

* `publishes` : the entities that a pass publishes;
* `Account.told` : what is stored when a pass has ended; `Untold`, the results that nothing tells;
* `PublishesSparingly` : how often a pass publishes, and what a failure to do so means;
  `publishesSparingly_of_account`;
* `ClusterStatus.Tells`, `QueryStatus.Tells` : a status tells the result of a pass;
* `status_tells_outcome` : of clusters and of queries.
-/

namespace ClusterOperator

open Dialogue

/-! ## What is published -/

section

variable {σ τ : Type}

def EntityCall.published? : EntityCall σ τ → Option (Entity σ τ)
  | .published e _ => some e
  | .fetched _ _ => none

def publishes (calls : List (EntityCall σ τ)) : List (Entity σ τ) :=
  calls.filterMap EntityCall.published?

theorem publishes_concat (calls : List (EntityCall σ τ)) (e : Entity σ τ)
    (reply : Except StoreError (Entity σ τ)) :
    publishes (calls ++ [.published e reply]) = publishes calls ++ [e] :=
  List.filterMap_append

end

section

variable {σ τ : Type} [Managed σ τ] {key : Key} {seed : Entity σ τ → String → τ}
  {calls : List (EntityCall σ τ)} {copy : Entity σ τ}

/-- The first condition of an entity that was read without conditions is what the call publishes. -/
def IsSeed (key : Key) (seed : Entity σ τ → String → τ) (calls : List (EntityCall σ τ))
    (e : Entity σ τ) : Prop :=
  ∃ (found : Entity σ τ) (stamp : String),
    calls.head? = some (.fetched key (.ok (some found))) ∧ found.conditions = [] ∧
      e = { found with status := some (seed found stamp) }

theorem Starts.publishes (h : Starts key seed calls copy) :
    publishes calls = [] ∨ ∃ e, publishes calls = [e] ∧ ∀ rest, IsSeed key seed (calls ++ rest) e := by
  cases h with
  | known => exact Or.inl rfl
  | @seeded found _ stamp _ hc => exact Or.inr ⟨_, rfl, fun _ => ⟨found, stamp, rfl, hc, rfl⟩⟩

theorem Starts.not_failed (h : Starts key seed calls copy) (e : Entity σ τ) (error : StoreError) :
    EntityCall.published e (.error error) ∉ calls := by
  cases h <;> simp

/-- The results that no status tells: the entity could not be read, its status could not be written,
or it was left alone. -/
inductive Untold (key : Key) (calls : List (EntityCall σ τ)) : Except PassError Requeue → Prop where
  | unfetched (error : StoreError) : Untold key calls (.error (.fetch key error))
  | unwritten (error : StoreError) : Untold key calls (.error (.statusWrite error))
  | leftAlone (h : ∀ found : Entity σ τ,
      calls.head? = some (.fetched key (.ok (some found))) →
      found.metadata.deletionTimestamp ≠ none) : Untold key calls (.ok .awaitChange)

namespace Account

variable {Reports : Entity σ τ → τ → Except PassError Requeue → Prop}
  {Keeps : Entity σ τ → Except PassError Requeue → Prop}
  {result? : Option (Except PassError Requeue)}

/-- A status is published twice at most, and the first of two is a first condition. -/
theorem publishes_eq (h : Account key seed Reports Keeps calls result?) :
    (publishes calls).length ≤ 1 ∨
      ∃ first last, publishes calls = [first, last] ∧ IsSeed key seed calls first := by
  have hreport : ∀ {start : List (EntityCall σ τ)} {copy e : Entity σ τ}
      {reply : Except StoreError (Entity σ τ)}, Starts key seed start copy →
      (publishes (start ++ [.published e reply])).length ≤ 1 ∨
        ∃ first last, publishes (start ++ [.published e reply]) = [first, last] ∧
          IsSeed key seed (start ++ [.published e reply]) first := by
    intro start copy e reply hstarts
    rw [publishes_concat]
    rcases hstarts.publishes with hnone | ⟨first, hfirst, hseed⟩
    · exact Or.inl (by simp [hnone])
    · exact Or.inr ⟨first, e, by simp [hfirst], hseed _⟩
  cases h with
  | unread | unfetched | leftAlone | fetched => exact Or.inl (Nat.zero_le 1)
  | unseeded => exact Or.inl (Nat.le_refl 1)
  | working hstarts | kept hstarts _ =>
    rcases hstarts.publishes with hnone | ⟨first, hfirst, -⟩
    · exact Or.inl (by simp [hnone])
    · exact Or.inl (by simp [hfirst])
  | reported hstarts _ | unreported _ hstarts _ => exact hreport hstarts

/-- A pass fails to write the status exactly if one of its publishing calls failed. -/
theorem statusWrite_iff (h : Account key seed Reports Keeps calls result?)
    (hreports : ∀ copy status result error, Reports copy status result →
      result ≠ .error (.statusWrite error))
    (hkeeps : ∀ copy result error, Keeps copy result → result ≠ .error (.statusWrite error))
    (error : StoreError) :
    result? = some (.error (.statusWrite error)) ↔
      ∃ e, EntityCall.published e (.error error) ∈ calls := by
  cases h with
  | unread | unfetched | leftAlone | fetched => simp
  | unseeded stamp error' => simp [eq_comm]
  | working hstarts => simp [hstarts.not_failed]
  | kept hstarts hkeep => simp [hstarts.not_failed, hkeeps _ _ error hkeep]
  | reported hstarts hreport => simp [hstarts.not_failed, hreports _ _ _ error hreport]
  | unreported error' hstarts hreport => simp [hstarts.not_failed, eq_comm]

/-- When a pass has ended, what is stored tells the result if what it reports and what it keeps
does. -/
theorem told {Tells : τ → Except PassError Requeue → Prop} {result : Except PassError Requeue}
    {status : Option τ} (h : Account key seed Reports Keeps calls (some result))
    (hreports : ∀ copy s, Reports copy s result → Tells s result)
    (hkeeps : ∀ copy, Keeps copy result → ∃ s, copy.status = some s ∧ Tells s result)
    (htells : ∀ call ∈ calls.getLast?, call.Tells status) :
    (∃ s, status = some s ∧ Tells s result) ∨ Untold key calls result := by
  cases h with
  | unfetched error => exact Or.inr (.unfetched error)
  | leftAlone hgone =>
    refine Or.inr (.leftAlone fun found hfound => ?_)
    cases hfound
    exact Option.isSome_iff_ne_none.1 (hgone found rfl)
  | unseeded _ error | unreported error => exact Or.inr (.unwritten error)
  | reported hstarts hreport =>
    rw [List.getLast?_concat] at htells
    exact Or.inl ⟨_, (htells _ rfl).1.symm, hreports _ _ hreport⟩
  | kept hstarts hkeep =>
    obtain ⟨s, hs, htold⟩ := hkeeps _ hkeep
    exact Or.inl ⟨s, (hstarts.status htells).symm.trans hs, htold⟩

end Account

end

/-- How a pass writes the status: twice at most, and first of two a first condition of an entity that
had none. It reports a failure to do so exactly if a call of it failed, and asks nothing after
that. -/
structure PublishesSparingly {σ τ Q : Type} {A : Q → Type} [Managed σ τ]
    (call? : Exchange Q A → Option (EntityCall σ τ)) (key : Key) (seed : Entity σ τ → String → τ)
    (t : List (Exchange Q A)) (result : Except PassError Requeue) : Prop where
  atMostTwo : (publishes (t.filterMap call?)).length ≤ 2
  seeded : ∀ first last, publishes (t.filterMap call?) = [first, last] →
    IsSeed key seed (t.filterMap call?) first
  failed : ∀ error, result = .error (.statusWrite error) ↔
    ∃ e, EntityCall.published e (.error error) ∈ t.filterMap call?
  stops : ∀ t₁ x t₂ e error, t = t₁ ++ x :: t₂ →
    call? x = some (.published e (.error error)) → t₂ = []

section

variable {σ τ Q : Type} {A : Q → Type} [Managed σ τ] {call? : Exchange Q A → Option (EntityCall σ τ)}
  {pass : Dialogue Q A (Except PassError Requeue)} {key : Key} {seed : Entity σ τ → String → τ}
  {Reports : List (Exchange Q A) → Entity σ τ → τ → Except PassError Requeue → Prop}
  {Keeps : List (Exchange Q A) → Entity σ τ → Except PassError Requeue → Prop}

theorem publishesSparingly_of_account
    (haccount : IsAccounted call? pass key seed Reports Keeps)
    (hreports : ∀ t copy status result error, Reports t copy status result →
      result ≠ .error (.statusWrite error))
    (hkeeps : ∀ t copy result error, Keeps t copy result → result ≠ .error (.statusWrite error))
    {t : List (Exchange Q A)} {result : Except PassError Requeue}
    (h : pass.Reaches t (.finish result)) : PublishesSparingly call? key seed t result where
  atMostTwo := by
    rcases (haccount _ _ h).publishes_eq with hone | ⟨first, last, htwo, -⟩
    · exact Nat.le_succ_of_le hone
    · exact Nat.le_of_eq (congrArg List.length htwo)
  seeded first last hpublishes := by
    rcases (haccount _ _ h).publishes_eq with hone | ⟨first', last', htwo, hseed⟩
    · rw [hpublishes] at hone
      exact absurd hone (by simp)
    · rw [hpublishes] at htwo
      cases htwo
      exact hseed
  failed error := by
    rw [← (haccount _ _ h).statusWrite_iff (hreports t) (hkeeps t) error]
    simp
  stops t₁ x t₂ e error ht hx := by
    subst ht
    rw [List.append_cons] at h
    obtain ⟨mid, hmid, hrest⟩ := h.split
    -- the failing call ends the pass
    have hmem : EntityCall.published e (.error error) ∈ (t₁ ++ [x]).filterMap call? :=
      List.mem_filterMap.2 ⟨x, by simp, hx⟩
    have hended := ((haccount _ _ hmid).statusWrite_iff (hreports _) (hkeeps _) error).2 ⟨e, hmem⟩
    obtain rfl := result?_eq_some.1 hended
    exact hrest.of_finish.1

end

/-! ## What a status says -/

namespace ClusterStatus

/-- The cluster is not available and degraded, for a reason and with a message. -/
structure IsFailed (s : ClusterStatus) (reason text : String) : Prop where
  phase : s.phase = some Phase.failed.name
  message : s.message = some text
  available : Condition.IsSet .available .no reason text s.conditions
  degraded : Condition.IsSet .degraded .yes reason text s.conditions

structure IsReady (s : ClusterStatus) : Prop where
  phase : s.phase = some Phase.ready.name
  available : Condition.IsSet .available .yes Reason.reconcileSuccess readyMessage s.conditions
  degraded : Condition.IsSet .degraded .no Reason.reconcileSuccess readyMessage s.conditions

variable {s u : ClusterStatus} {reason text : String}

theorem isFailed_failed (s : ClusterStatus) (reason text stamp : String) :
    (s.failed reason text stamp).IsFailed reason text where
  phase := rfl
  message := rfl
  available := Condition.isSet_set.set (by decide)
  degraded := Condition.isSet_set

theorem isReady_ready (s : ClusterStatus) (generation : Option Int64) (present : List ResourceRef)
    (stamp : String) : (s.ready generation present stamp).IsReady where
  phase := rfl
  available := Condition.isSet_set.set (by decide)
  degraded := Condition.isSet_set

theorem IsFailed.of_timeless (h : s.IsFailed reason text) (hs : s.timeless = u.timeless) :
    u.IsFailed reason text where
  phase := (congrArg ClusterStatus.phase hs).symm.trans h.phase
  message := (congrArg ClusterStatus.message hs).symm.trans h.message
  available := h.available.of_timeless (congrArg conditions hs)
  degraded := h.degraded.of_timeless (congrArg conditions hs)

theorem IsReady.of_timeless (h : s.IsReady) (hs : s.timeless = u.timeless) : u.IsReady where
  phase := (congrArg ClusterStatus.phase hs).symm.trans h.phase
  available := h.available.of_timeless (congrArg conditions hs)
  degraded := h.degraded.of_timeless (congrArg conditions hs)

end ClusterStatus

namespace QueryStatus

def IsFailed (s : QueryStatus) (reason text : String) : Prop :=
  Condition.IsSet .degraded .yes reason text s.conditions

structure IsAnswered (s : QueryStatus) : Prop where
  available : Condition.IsSet .available .yes Reason.querySuccess answeredMessage s.conditions
  degraded : Condition.IsSet .degraded .no Reason.querySuccess answeredMessage s.conditions

theorem isFailed_failed (s : QueryStatus) (reason text stamp : String) :
    (s.failed reason text stamp).IsFailed reason text :=
  Condition.isSet_set

theorem isAnswered_answered (s : QueryStatus) (generation : Option Int64) (result : String)
    (count : Nat) (stamp : String) : (s.answered generation result count stamp).IsAnswered where
  available := Condition.isSet_set.set (by decide)
  degraded := Condition.isSet_set

end QueryStatus

/-! ## Passes that have ended -/

inductive ClusterStatus.Tells (s : ClusterStatus) : Except PassError Requeue → Prop where
  | refused {reason : Invalid} (h : s.IsFailed Reason.invalidConfig reason.message) :
    Tells s (.error (.validation reason))
  | failed {error : ChildError} (h : s.IsFailed Reason.reconcileFailed error.message) :
    Tells s (.error (.children error))
  | ready (h : s.IsReady) : Tells s (.ok .awaitChange)

inductive QueryStatus.Tells (s : QueryStatus) : Except PassError Requeue → Prop where
  | refused {reason : Invalid} (h : s.IsFailed Reason.invalidConfig reason.message) :
    Tells s (.error (.validation reason))
  | failed {error : QueryError} (delay : Duration)
      (h : s.IsFailed Reason.queryFailed ("Query failed: " ++ error.message)) :
    Tells s (.error (.query error delay))
  | answered (delay : Duration) (h : s.IsAnswered) : Tells s (.ok (.after delay))

theorem ClusterReport.tells {calls : List ChildExchange} {c : Cluster} {s : ClusterStatus}
    {result : Except PassError Requeue} (h : ClusterReport calls c s result) : s.Tells result := by
  cases h with
  | refused => exact .refused (ClusterStatus.isFailed_failed _ _ _ _)
  | failed => exact .failed (ClusterStatus.isFailed_failed _ _ _ _)
  | ready => exact .ready (ClusterStatus.isReady_ready _ _ _ _)

theorem QueryReport.tells {settings : RefreshSettings} {calls : List LookupExchange} {q : Query}
    {s : QueryStatus} {result : Except PassError Requeue}
    (h : QueryReport settings calls q s result) : s.Tells result := by
  cases h with
  | refused => exact .refused (QueryStatus.isFailed_failed _ _ _ _)
  | failed => exact .failed _ (QueryStatus.isFailed_failed _ _ _ _)
  | answered => exact .answered _ (QueryStatus.isAnswered_answered _ _ _ _ _)

theorem ClusterStatus.Tells.of_timeless {s u : ClusterStatus} {result : Except PassError Requeue}
    (h : s.Tells result) (hs : s.timeless = u.timeless) : u.Tells result := by
  cases h with
  | refused h => exact .refused (h.of_timeless hs)
  | failed h => exact .failed (h.of_timeless hs)
  | ready h => exact .ready (h.of_timeless hs)

/-- A status that is kept tells the result as the report would. -/
theorem ClusterKeep.tells {calls : List ChildExchange} {c : Cluster}
    {result : Except PassError Requeue} (h : ClusterKeep calls c result) :
    ∃ s, c.status = some s ∧ s.Tells result := by
  obtain ⟨s, hreport, hsame⟩ := h
  cases hstatus : c.status with
  | none =>
    rw [hstatus] at hsame
    cases hsame
  | some u =>
    rw [hstatus] at hsame
    exact ⟨u, rfl, hreport.tells.of_timeless
      (ClusterStatus.timeless_eq_of_not_shouldPublish hsame).symm⟩

theorem ClusterReport.ne_statusWrite {calls : List ChildExchange} {c : Cluster} {s : ClusterStatus}
    {result : Except PassError Requeue} (h : ClusterReport calls c s result) (error : StoreError) :
    result ≠ .error (.statusWrite error) := by
  cases h <;> simp

theorem ClusterKeep.ne_statusWrite {calls : List ChildExchange} {c : Cluster}
    {result : Except PassError Requeue} (h : ClusterKeep calls c result) (error : StoreError) :
    result ≠ .error (.statusWrite error) := by
  obtain ⟨_, hreport, -⟩ := h
  exact hreport.ne_statusWrite error

theorem QueryReport.ne_statusWrite {settings : RefreshSettings} {calls : List LookupExchange}
    {q : Query} {s : QueryStatus} {result : Except PassError Requeue}
    (h : QueryReport settings calls q s result) (error : StoreError) :
    result ≠ .error (.statusWrite error) := by
  cases h <;> simp

open PassWorld

/-- When a pass over a stored entity has ended, whatever the stores and services replied and however
the entity was edited meanwhile, it has published twice at most, first the first condition of an
entity that had none, and its result is a failure to write the status exactly if a publishing call
failed, which was its last. Then the stored status tells the result: a cluster whose spec was
refused or whose children failed has the phase `Failed` and both conditions, with the text of the
failure, a query the condition `Degraded`; and one that was found, was not being deleted and was
reconciled is available and not degraded. -/
theorem status_tells_outcome :
    (∀ (key : Key) (first stored : Option Cluster) (t : List ClusterExchange)
      (result : Except PassError Requeue),
      Run ClusterExchange.call? (reconcileCluster key) ⟨first, none⟩
        ⟨stored, some (t, .finish result)⟩ →
      PublishesSparingly ClusterExchange.call? key Cluster.seed t result ∧
      ∀ c ∈ stored,
        (∀ reason, result = .error (.validation reason) →
          ∃ s, c.status = some s ∧ s.IsFailed Reason.invalidConfig reason.message) ∧
        (∀ error, result = .error (.children error) →
          ∃ s, c.status = some s ∧ s.IsFailed Reason.reconcileFailed error.message) ∧
        ∀ requeue found, result = .ok requeue →
          (t.filterMap ClusterExchange.call?).head? = some (.fetched key (.ok (some found))) →
          found.metadata.deletionTimestamp = none → ∃ s, c.status = some s ∧ s.IsReady) ∧
    ∀ (settings : RefreshSettings) (key : Key) (first stored : Option Query)
      (t : List QueryExchange) (result : Except PassError Requeue),
      Run QueryExchange.call? (reconcileQuery settings key) ⟨first, none⟩
        ⟨stored, some (t, .finish result)⟩ →
      PublishesSparingly QueryExchange.call? key Query.seed t result ∧
      ∀ q ∈ stored,
        (∀ reason, result = .error (.validation reason) →
          ∃ s, q.status = some s ∧ s.IsFailed Reason.invalidConfig reason.message) ∧
        (∀ error delay, result = .error (.query error delay) →
          ∃ s, q.status = some s ∧
            s.IsFailed Reason.queryFailed ("Query failed: " ++ error.message)) ∧
        ∀ requeue found, result = .ok requeue →
          (t.filterMap QueryExchange.call?).head? = some (.fetched key (.ok (some found))) →
          found.metadata.deletionTimestamp = none → ∃ s, q.status = some s ∧ s.IsAnswered := by
  constructor
  · intro key first stored t result hrun
    obtain ⟨hcourse, hlast⟩ := (IsSound.idle first).run hrun t _ rfl
    have haccount := reconcileCluster_account hcourse
    refine ⟨publishesSparingly_of_account (reconcileCluster_isAccounted key)
      (fun _ _ _ _ error h => h.ne_statusWrite error)
      (fun _ _ _ error h => h.ne_statusWrite error) hcourse, fun c hc => ?_⟩
    have htold := haccount.told (fun _ _ => ClusterReport.tells) (fun _ => ClusterKeep.tells)
      fun call hcall => hlast call hcall c hc
    refine ⟨?_, ?_, ?_⟩
    · rintro reason rfl
      rcases htold with ⟨s, hs, htells⟩ | hnone
      · cases htells with
        | refused h => exact ⟨s, hs, h⟩
      · cases hnone
    · rintro error rfl
      rcases htold with ⟨s, hs, htells⟩ | hnone
      · cases htells with
        | failed h => exact ⟨s, hs, h⟩
      · cases hnone
    · rintro requeue found rfl hfound hlive
      rcases htold with ⟨s, hs, htells⟩ | hnone
      · cases htells with
        | ready h => exact ⟨s, hs, h⟩
      · cases hnone with
        | leftAlone hgone => exact absurd hlive (hgone found hfound)
  · intro settings key first stored t result hrun
    obtain ⟨hcourse, hlast⟩ := (IsSound.idle first).run hrun t _ rfl
    have haccount := reconcileQuery_account hcourse
    refine ⟨publishesSparingly_of_account (reconcileQuery_isAccounted settings key)
      (fun _ _ _ _ error h => h.ne_statusWrite error) (fun _ _ _ _ h => h.elim) hcourse,
      fun q hq => ?_⟩
    have htold := haccount.told (fun _ _ => QueryReport.tells) (fun _ h => h.elim)
      fun call hcall => hlast call hcall q hq
    refine ⟨?_, ?_, ?_⟩
    · rintro reason rfl
      rcases htold with ⟨s, hs, htells⟩ | hnone
      · cases htells with
        | refused h => exact ⟨s, hs, h⟩
      · cases hnone
    · rintro error delay rfl
      rcases htold with ⟨s, hs, htells⟩ | hnone
      · cases htells with
        | failed _ h => exact ⟨s, hs, h⟩
      · cases hnone
    · rintro requeue found rfl hfound hlive
      rcases htold with ⟨s, hs, htells⟩ | hnone
      · cases htells with
        | answered _ h => exact ⟨s, hs, h⟩
      · cases hnone with
        | leftAlone hgone => exact absurd hlive (hgone found hfound)

def vagueCluster : Cluster where
  metadata := { name := some "demo", namespaceName := some "ns" }
  spec := {}

def vagueQuery : Query where
  metadata := { name := some "demo", namespaceName := some "ns" }
  spec := { query := .clusters }

theorem status_tells_outcome_of_refused :
    (∃ c t s, Run ClusterExchange.call? (reconcileCluster vagueCluster.key)
        ⟨some vagueCluster, none⟩ ⟨some c, some (t, .finish (.error (.validation .imageMissing)))⟩ ∧
      PublishesSparingly ClusterExchange.call? vagueCluster.key Cluster.seed t
        (.error (.validation .imageMissing)) ∧
      c.status = some s ∧ s.IsFailed Reason.invalidConfig "spec.image is required") ∧
    ∃ q t s, Run QueryExchange.call? (reconcileQuery {} vagueQuery.key)
        ⟨some vagueQuery, none⟩ ⟨some q, some (t, .finish (.error (.validation .endpointMissing)))⟩ ∧
      PublishesSparingly QueryExchange.call? vagueQuery.key Query.seed t
        (.error (.validation .endpointMissing)) ∧
      q.status = some s ∧ s.IsFailed Reason.invalidConfig "APIEndpoint required" := by
  constructor
  · have h₀ : Run ClusterExchange.call? (reconcileCluster vagueCluster.key)
        ⟨some vagueCluster, none⟩ _ := .single (.start _)
    have h₁ := h₀.tail (.exchange (.ok (some vagueCluster)) (by exact .found _ _))
    have h₂ := h₁.tail (.exchange "t" (by exact rfl))
    have h₃ := h₂.tail (.exchange (.ok _) (by exact .stored _ vagueCluster))
    have h₄ := h₃.tail (.exchange (.ok _) (by exact .stored _ _))
    obtain ⟨hsparing, htold⟩ := status_tells_outcome.1 _ _ _ _
      (.error (.validation .imageMissing)) h₄
    obtain ⟨s, hs, hfailed⟩ := (htold _ rfl).1 _ rfl
    exact ⟨_, _, s, h₄, hsparing, hs, hfailed⟩
  · have h₀ : Run QueryExchange.call? (reconcileQuery {} vagueQuery.key)
        ⟨some vagueQuery, none⟩ _ := .single (.start _)
    have h₁ := h₀.tail (.exchange (.ok (some vagueQuery)) (by exact .found _ _))
    have h₂ := h₁.tail (.exchange "t" (by exact rfl))
    have h₃ := h₂.tail (.exchange (.ok _) (by exact .stored _ vagueQuery))
    have h₄ := h₃.tail (.exchange "t" (by exact rfl))
    have h₅ := h₄.tail (.exchange (.ok _) (by exact .stored _ _))
    obtain ⟨hsparing, htold⟩ := status_tells_outcome.2 _ _ _ _ _
      (.error (.validation .endpointMissing)) h₅
    obtain ⟨s, hs, hfailed⟩ := (htold _ rfl).1 _ rfl
    exact ⟨_, _, s, h₅, hsparing, hs, hfailed⟩

end ClusterOperator

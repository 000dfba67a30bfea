import ClusterOperator.Proofs.Convergence.Completion
import ClusterOperator.Proofs.Pass.Published

/-!
# Observed generations are earned

The generation that the stored status of an entity tells never gets lower, however its spec is
edited and whatever fails. Only the report of a pass that has done all its work changes it, to the
generation of the copy that the pass worked on.

* `IsNoLater` : the order of generations, with a missing one the least;
* `Answered` : the calls to the inventory service that answer a query;
* `ObservesEarned` : the stored generation never gets lower and is earned;
  `observesEarned_of_account`, for passes whose reports earn what they tell;
* `observed_generation_earned` : for clusters and queries.
-/

namespace ClusterOperator

open Dialogue

/-! ## Generations -/

/-- A generation is not later than another one. A missing one is the least. -/
def IsNoLater (a b : Option Int64) : Prop :=
  ∀ n ∈ a, ∃ m ∈ b, n ≤ m

theorem IsNoLater.refl (a : Option Int64) : IsNoLater a a :=
  fun n hn => ⟨n, hn, Int64.le_refl n⟩

theorem IsNoLater.trans {a b c : Option Int64} (h : IsNoLater a b) (h' : IsNoLater b c) :
    IsNoLater a c := by
  intro n hn
  obtain ⟨m, hm, hnm⟩ := h n hn
  obtain ⟨k, hk, hmk⟩ := h' m hm
  exact ⟨k, hk, Int64.le_trans hnm hmk⟩

theorem isNoLater_laterGeneration (a b : Option Int64) : IsNoLater a (laterGeneration a b) := by
  intro n hn
  cases hn
  cases b with
  | none => exact ⟨n, rfl, Int64.le_refl n⟩
  | some m =>
    by_cases h : n < m
    · exact ⟨m, if_pos h, Int64.le_of_lt h⟩
    · exact ⟨n, if_neg h, Int64.le_refl n⟩

theorem laterGeneration_eq_of_ne {a b : Option Int64} (h : laterGeneration a b ≠ a) :
    laterGeneration a b = b := by
  cases a with
  | none => cases b <;> rfl
  | some n =>
    cases b with
    | none => exact absurd rfl h
    | some m =>
      by_cases hnm : n < m
      · exact if_pos hnm
      · exact absurd (if_neg hnm) h

/-! ## Passes -/

section

variable {σ τ Q : Type} {A : Q → Type} [Managed σ τ]

def Entity.observed (observed : τ → Option Int64) (e : Entity σ τ) : Option Int64 :=
  e.status.bind observed

/-- The generation that is stored with an entity never gets lower. When it changes, a pass has just
published it: it is the generation of the copy that the pass worked on, and the pass had earned it
by then. -/
structure ObservesEarned (call? : Exchange Q A → Option (EntityCall σ τ))
    (pass : Dialogue Q A (Except PassError Requeue)) (key : Key) (seed : Entity σ τ → String → τ)
    (observed : τ → Option Int64) (Earns : List (Exchange Q A) → Entity σ τ → Prop) : Prop where
  monotone : ∀ first w w', PassWorld.Run call? pass ⟨first, none⟩ w → PassWorld.Run call? pass w w' →
    ∀ e ∈ w.stored, ∀ e' ∈ w'.stored, IsNoLater (e.observed observed) (e'.observed observed)
  earned : ∀ first w w', PassWorld.Run call? pass ⟨first, none⟩ w → PassWorld.Step call? pass w w' →
    ∀ e ∈ w.stored, ∀ e' ∈ w'.stored, e'.observed observed ≠ e.observed observed →
    ∃ t x rest copy p reply, w'.running = some (t ++ [x], rest) ∧
      call? x = some (.published p reply) ∧ Starts key seed (t.filterMap call?) copy ∧
      e'.observed observed = copy.metadata.generation ∧ Earns (t ++ [x]) copy

variable {call? : Exchange Q A → Option (EntityCall σ τ)}
  {pass : Dialogue Q A (Except PassError Requeue)} {key : Key} {seed : Entity σ τ → String → τ}
  {Reports : List (Exchange Q A) → Entity σ τ → τ → Except PassError Requeue → Prop}
  {Keeps : List (Exchange Q A) → Entity σ τ → Except PassError Requeue → Prop}
  {observed : τ → Option Int64} {Earns : List (Exchange Q A) → Entity σ τ → Prop}
  {w w' : PassWorld Q A σ τ} {e e' : Entity σ τ}

/-- A step leaves the generation that is stored, or publishes the report of a pass that earned it. -/
theorem PassWorld.Step.observed_cases
    (haccount : IsAccounted call? pass key seed Reports Keeps)
    (hreports : ∀ {t copy s result}, Reports t copy s result →
      observed s = copy.observed observed ∨
        observed s = laterGeneration (copy.observed observed) copy.metadata.generation ∧
          Earns t copy)
    (hseed : ∀ (e : Entity σ τ) stamp, observed (seed e stamp) = e.observed observed)
    (hw : IsSound call? pass w) (h : Step call? pass w w') (he : e ∈ w.stored)
    (he' : e' ∈ w'.stored) :
    e'.observed observed = e.observed observed ∨
    ∃ t x rest copy p reply, w'.running = some (t ++ [x], rest) ∧
      call? x = some (.published p reply) ∧ Starts key seed (t.filterMap call?) copy ∧
      e'.observed observed =
        laterGeneration (e.observed observed) copy.metadata.generation ∧
      Earns (t ++ [x]) copy := by
  obtain ⟨d, hd, hsame | ⟨t, x, rest, p, reply, hrunning, hcall, hp, hstored⟩⟩ :=
    h.status_cases haccount hw he'
  · cases Option.mem_unique he hd
    exact Or.inl (congrArg (Option.bind · observed) hsame)
  cases Option.mem_unique he hd
  have hnew : e'.observed observed = p.observed observed :=
    congrArg (Option.bind · observed) hstored
  cases hp with
  | @seeded found stamp hfound _ =>
    -- a first condition keeps the generation that was read
    have hold := hseed found stamp
    exact Or.inl (hnew.trans (hold.trans (congrArg (Option.bind · observed) hfound)))
  | @reported copy s result hstarts hcopy hreport =>
    have hobserved : copy.observed observed = e.observed observed :=
      congrArg (Option.bind · observed) hcopy
    rcases hreports hreport with hkept | ⟨hlater, hearns⟩
    · exact Or.inl (hnew.trans (hkept.trans hobserved))
    · rw [hobserved] at hlater
      exact Or.inr ⟨t, x, rest, copy, _, reply, hrunning, hcall, hstarts, hnew.trans hlater, hearns⟩

theorem observesEarned_of_account
    (haccount : IsAccounted call? pass key seed Reports Keeps)
    (hreports : ∀ {t copy s result}, Reports t copy s result →
      observed s = copy.observed observed ∨
        observed s = laterGeneration (copy.observed observed) copy.metadata.generation ∧
          Earns t copy)
    (hseed : ∀ (e : Entity σ τ) stamp, observed (seed e stamp) = e.observed observed) :
    ObservesEarned call? pass key seed observed Earns where
  monotone first w w' hrun hlater := by
    have hw : w.IsSound call? pass := (PassWorld.IsSound.idle first).run hrun
    induction hlater with
    | refl =>
      intro e he e' he'
      cases Option.mem_unique he he'
      exact .refl _
    | @tail v v' hsteps hstep ih =>
      intro e he e' he'
      obtain ⟨d, hd⟩ := hstep.stored_before he'
      refine (ih e he d hd).trans ?_
      rcases hstep.observed_cases haccount hreports hseed (hw.run hsteps) hd he' with
        hsame | ⟨_, _, _, copy, _, _, _, _, _, hlater, _⟩
      · rw [hsame]
        exact .refl _
      · rw [hlater]
        exact isNoLater_laterGeneration _ _
  earned first w w' hrun hstep e he e' he' hne := by
    have hw := (PassWorld.IsSound.idle first).run hrun
    rcases hstep.observed_cases haccount hreports hseed hw he he' with
      hsame | ⟨t, x, rest, copy, p, reply, hrunning, hcall, hstarts, hlater, hearns⟩
    · exact absurd hsame hne
    · rw [hlater] at hne
      exact ⟨t, x, rest, copy, p, reply, hrunning, hcall, hstarts,
        hlater.trans (laterGeneration_eq_of_ne hne), hearns⟩

end

/-! ## Clusters and queries -/

inductive Answered (calls : List LookupExchange) (q : Query) : Prop where
  | found {id : String} {record : ClusterRecord} (hplan : q.spec.plan = .single id)
      (hcalls : calls = [⟨.connect q.spec.apiEndpoint, .ok ()⟩,
        ⟨.find q.spec.apiEndpoint id, .ok (some record)⟩])
  | listed {records : List ClusterRecord} (hplan : q.spec.plan = .all)
      (hcalls : calls = [⟨.connect q.spec.apiEndpoint, .ok ()⟩,
        ⟨.list q.spec.apiEndpoint, .ok records⟩])

theorem answered_of_lookUp {q : Query} {calls : List LookupExchange} {answer : Answer}
    (h : (q.spec.plan.lookUp q.spec.apiEndpoint).Reaches calls (.finish (.ok answer))) :
    Answered calls q := by
  rcases h.of_request_bind with ⟨-, hnone⟩ | ⟨connected, t, rfl, h₁⟩
  · cases hnone
  cases connected with
  | error e => cases h₁.of_finish.2
  | ok _ =>
    replace h₁ : (q.spec.plan.execute q.spec.apiEndpoint).Reaches t (.finish (.ok answer)) := h₁
    cases hplan : q.spec.plan with
    | single id =>
      rw [hplan] at h₁
      rcases h₁.of_request_bind with ⟨-, hnone⟩ | ⟨reply, t', rfl, h₂⟩
      · cases hnone
      obtain e | _ | record := reply
      · cases h₂.of_finish.2
      · cases h₂.of_finish.2
      · obtain ⟨rfl, -⟩ := h₂.of_finish
        exact .found hplan rfl
    | all =>
      rw [hplan] at h₁
      rcases h₁.of_request_bind with ⟨-, hnone⟩ | ⟨reply, t', rfl, h₂⟩
      · cases hnone
      cases reply with
      | error e => cases h₂.of_finish.2
      | ok records =>
        obtain ⟨rfl, -⟩ := h₂.of_finish
        exact .listed hplan rfl

theorem Cluster.observed_statusOrEmpty (c : Cluster) :
    c.statusOrEmpty.observedGeneration = c.observed ClusterStatus.observedGeneration := by
  unfold statusOrEmpty Entity.observed
  cases c.status <;> rfl

theorem Query.observed_statusOrEmpty (q : Query) :
    q.statusOrEmpty.observedGeneration = q.observed QueryStatus.observedGeneration := by
  unfold statusOrEmpty Entity.observed
  cases q.status <;> rfl

theorem ClusterReport.observed {calls : List ChildExchange} {c : Cluster} {s : ClusterStatus}
    {result : Except PassError Requeue} (h : ClusterReport calls c s result) :
    s.observedGeneration = c.observed ClusterStatus.observedGeneration ∨
      s.observedGeneration =
        laterGeneration (c.observed ClusterStatus.observedGeneration) c.metadata.generation ∧
      c.spec.validate = .ok () ∧ ∃ uid, ChildrenConverged calls c uid := by
  rw [← c.observed_statusOrEmpty]
  cases h with
  | refused | failed => exact Or.inl rfl
  | ready _ hspec hcalls =>
    exact Or.inr ⟨rfl, hspec, childrenConverged_of_convergeChildren hcalls⟩

theorem QueryReport.observed {settings : RefreshSettings} {calls : List LookupExchange} {q : Query}
    {s : QueryStatus} {result : Except PassError Requeue}
    (h : QueryReport settings calls q s result) :
    s.observedGeneration = q.observed QueryStatus.observedGeneration ∨
      s.observedGeneration =
        laterGeneration (q.observed QueryStatus.observedGeneration) q.metadata.generation ∧
      q.spec.validate = .ok () ∧ Answered calls q := by
  rw [← q.observed_statusOrEmpty]
  cases h with
  | refused | failed => exact Or.inl rfl
  | answered _ hspec hcalls => exact Or.inr ⟨rfl, hspec, answered_of_lookUp hcalls⟩

/-- However the spec of an entity is edited and whatever fails, the generation that its stored status
tells never gets lower, and is the generation of a copy whose work a pass has done: every child of
the copy's spec was converged, or the query of the copy's spec was answered. -/
theorem observed_generation_earned :
    (∀ key, ObservesEarned ClusterExchange.call? (reconcileCluster key) key Cluster.seed
      ClusterStatus.observedGeneration fun t c => c.spec.validate = .ok () ∧
        ∃ uid, ChildrenConverged (t.filterMap ClusterExchange.child?) c uid) ∧
    ∀ settings key, ObservesEarned QueryExchange.call? (reconcileQuery settings key) key Query.seed
      QueryStatus.observedGeneration fun t q => q.spec.validate = .ok () ∧
        Answered (t.filterMap QueryExchange.lookup?) q := by
  refine ⟨fun key => ?_, fun settings key => ?_⟩
  · exact observesEarned_of_account (reconcileCluster_isAccounted key) (fun h => h.observed)
      fun c _ => Cluster.observed_statusOrEmpty c
  · exact observesEarned_of_account (reconcileQuery_isAccounted settings key) (fun h => h.observed)
      fun q _ => Query.observed_statusOrEmpty q

def listingQuery : Query where
  metadata := { name := some "demo", namespaceName := some "ns", generation := some 3 }
  spec := { apiEndpoint := "http://a", query := .clusters }

open PassWorld in
theorem observed_generation_earned_by_listing :
    ∃ (w w' : PassWorld QueryRequest QueryRequest.Reply QuerySpec QueryStatus) (q q' : Query),
      Run QueryExchange.call? (reconcileQuery {} listingQuery.key) ⟨some listingQuery, none⟩ w ∧
      Step QueryExchange.call? (reconcileQuery {} listingQuery.key) w w' ∧
      w.stored = some q ∧ q.observed QueryStatus.observedGeneration = none ∧
      w'.stored = some q' ∧ q'.observed QueryStatus.observedGeneration = some 3 ∧
      ∃ t x rest copy, w'.running = some (t ++ [x], rest) ∧ copy.metadata.generation = some 3 ∧
        Answered ((t ++ [x]).filterMap QueryExchange.lookup?) copy := by
  have h₀ : Run QueryExchange.call? (reconcileQuery {} listingQuery.key)
      ⟨some listingQuery, none⟩ _ := .single (.start _)
  have h₁ := h₀.tail (.exchange (.ok (some listingQuery)) (by exact .found _ _))
  have h₂ := h₁.tail (.exchange "t" (by exact rfl))
  have h₃ := h₂.tail (.exchange (.ok _) (by exact .stored _ listingQuery))
  have h₄ := h₃.tail (.exchange (.ok ()) (by exact rfl))
  have h₅ := h₄.tail (.exchange (.ok []) (by exact rfl))
  have h₆ := h₅.tail (.exchange "t" (by exact rfl))
  have hearned := fun hne => (observed_generation_earned.2 {} listingQuery.key).earned _ _ _ h₆
    (.exchange (.ok _) (by exact .stored _ _)) _ rfl _ rfl hne
  obtain ⟨t, x, rest, copy, _, _, hrunning, -, -, hgeneration, -, hanswered⟩ :=
    hearned (by decide +kernel)
  exact ⟨_, _, _, _, h₆, .exchange (.ok _) (by exact .stored _ _), rfl, rfl, rfl, rfl,
    t, x, rest, copy, hrunning, hgeneration.symm, hanswered⟩

end ClusterOperator

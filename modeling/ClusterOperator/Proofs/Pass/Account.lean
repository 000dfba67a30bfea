import ClusterOperator.Pass.Query
import ClusterOperator.Proofs.Convergence.Calls

/-!
# The account of a pass

What a pass over a cluster or a query asks of the store of entities, at any point of it and
whatever is replied: the entity is read, its first condition is published if it has none, and in the
end a report is.

* `EntityCall` : a call to the store of entities, with its reply;
* `Starts` : the calls by which a pass comes to the copy that it works on;
* `Account` : all calls of a pass so far, and its result when it has one; `IsAccounted`, every point
  of a pass has its account;
* `ClusterReport`, `QueryReport` : what a pass reports after its calls to the children, or to the
  inventory service;
* `reconcileCluster_reaches`, `reconcileQuery_reaches` : how a pass comes to the copy that it works
  on;
* `reconcileCluster_account`, `reconcileQuery_account` : the accounts of both passes;
  `reconcileCluster_isAccounted`, `reconcileQuery_isAccounted`.
-/

namespace ClusterOperator

open Dialogue

/-! ## Calls to the store of entities -/

inductive EntityCall (σ τ : Type) where
  | fetched (key : Key) (reply : Except StoreError (Option (Entity σ τ)))
  | published (e : Entity σ τ) (reply : Except StoreError (Entity σ τ))

/-- The call that a request with its reply is. The time is not asked of the store. -/
def EntityRequest.call? {σ τ : Type} :
    (q : EntityRequest (Entity σ τ)) → q.Reply → Option (EntityCall σ τ)
  | .clock, _ => none
  | .fetch key, reply => some (.fetched key reply)
  | .publish e, reply => some (.published e reply)

section

variable {σ τ : Type} [Managed σ τ] (key : Key) (seed : Entity σ τ → String → τ)

/-- The calls by which a pass comes to the copy that it works on. The entity is read, and if it has
no condition its first one is published and the stored copy adopted. -/
inductive Starts : List (EntityCall σ τ) → Entity σ τ → Prop where
  | known {e : Entity σ τ} (hlive : e.metadata.deletionTimestamp = none) (h : e.conditions ≠ []) :
    Starts [.fetched key (.ok (some e))] e
  | seeded {e copy : Entity σ τ} (stamp : String) (hlive : e.metadata.deletionTimestamp = none)
      (h : e.conditions = []) :
    Starts [.fetched key (.ok (some e)),
      .published { e with status := some (seed e stamp) } (.ok copy)] copy

/-- The calls of a pass so far, and its result when it has one. `Reports` says which report of a
copy goes with which result, and `Keeps` when the report is published already. -/
inductive Account (Reports : Entity σ τ → τ → Except PassError Requeue → Prop)
    (Keeps : Entity σ τ → Except PassError Requeue → Prop) :
    List (EntityCall σ τ) → Option (Except PassError Requeue) → Prop where
  | unread : Account Reports Keeps [] none
  | unfetched (error : StoreError) :
    Account Reports Keeps [.fetched key (.error error)] (some (.error (.fetch key error)))
  | leftAlone {found : Option (Entity σ τ)}
      (h : ∀ e ∈ found, e.metadata.deletionTimestamp.isSome) :
    Account Reports Keeps [.fetched key (.ok found)] (some (.ok .awaitChange))
  | fetched {e : Entity σ τ} (hlive : e.metadata.deletionTimestamp = none) :
    Account Reports Keeps [.fetched key (.ok (some e))] none
  | unseeded {e : Entity σ τ} (stamp : String) (error : StoreError)
      (hlive : e.metadata.deletionTimestamp = none) (h : e.conditions = []) :
    Account Reports Keeps [.fetched key (.ok (some e)),
      .published { e with status := some (seed e stamp) } (.error error)]
      (some (.error (.statusWrite error)))
  | working {calls : List (EntityCall σ τ)} {copy : Entity σ τ} (h : Starts key seed calls copy) :
    Account Reports Keeps calls none
  | reported {calls : List (EntityCall σ τ)} {copy stored : Entity σ τ} {status : τ}
      {result : Except PassError Requeue} (h : Starts key seed calls copy)
      (hreport : Reports copy status result) :
    Account Reports Keeps
      (calls ++ [.published { copy with status := some status } (.ok stored)]) (some result)
  | unreported {calls : List (EntityCall σ τ)} {copy : Entity σ τ} {status : τ}
      {result : Except PassError Requeue} (error : StoreError) (h : Starts key seed calls copy)
      (hreport : Reports copy status result) :
    Account Reports Keeps
      (calls ++ [.published { copy with status := some status } (.error error)])
      (some (.error (.statusWrite error)))
  | kept {calls : List (EntityCall σ τ)} {copy : Entity σ τ} {result : Except PassError Requeue}
      (h : Starts key seed calls copy) (hkeep : Keeps copy result) :
    Account Reports Keeps calls (some result)

end

section

variable {σ τ : Type} [Managed σ τ] {key : Key} {seed : Entity σ τ → String → τ}
  {calls : List (EntityCall σ τ)} {copy : Entity σ τ}

theorem Starts.head (h : Starts key seed calls copy) :
    ∃ e : Entity σ τ, e.metadata.deletionTimestamp = none ∧
      calls.head? = some (.fetched key (.ok (some e))) := by
  cases h with
  | known hlive _ => exact ⟨copy, hlive, rfl⟩
  | seeded _ hlive _ => exact ⟨_, hlive, rfl⟩

/-- The calls say which copy it is. -/
theorem Starts.unique {calls' all : List (EntityCall σ τ)} {copy' : Entity σ τ}
    (h : Starts key seed calls copy) (h' : Starts key seed calls' copy') (hcalls : calls <+: all)
    (hcalls' : calls' <+: all) : copy = copy' := by
  obtain ⟨rest, rfl⟩ := hcalls
  obtain ⟨rest', hrest⟩ := hcalls'
  cases h <;> cases h' <;> simp_all

theorem Starts.not_gone (h : Starts key seed calls copy) {found : Option (Entity σ τ)}
    {calls' : List (EntityCall σ τ)}
    (hfound : (calls ++ calls').head? = some (.fetched key (.ok found)))
    (hgone : ∀ e ∈ found, e.metadata.deletionTimestamp.isSome) : False := by
  obtain ⟨e, hlive, hhead⟩ := h.head
  rw [List.head?_append, hhead] at hfound
  cases hfound
  have hdeleted := hgone e rfl
  rw [hlive] at hdeleted
  cases hdeleted

theorem Account.leftAlone_of_gone {Reports : Entity σ τ → τ → Except PassError Requeue → Prop}
    {Keeps : Entity σ τ → Except PassError Requeue → Prop}
    {result? : Option (Except PassError Requeue)}
    (h : Account key seed Reports Keeps calls result?) {found : Option (Entity σ τ)}
    (hfound : calls.head? = some (.fetched key (.ok found)))
    (hgone : ∀ e ∈ found, e.metadata.deletionTimestamp.isSome) :
    calls = [.fetched key (.ok found)] ∧ result? = some (.ok .awaitChange) := by
  have hlive : ∀ e : Entity σ τ, e.metadata.deletionTimestamp = none → found ≠ some e := by
    rintro e he rfl
    have hdeleted := hgone e rfl
    rw [he] at hdeleted
    cases hdeleted
  cases h with
  | unread => cases hfound
  | unfetched error => cases hfound
  | leftAlone _ =>
    cases hfound
    exact ⟨rfl, rfl⟩
  | fetched he =>
    cases hfound
    exact absurd rfl (hlive _ he)
  | unseeded _ _ he _ =>
    cases hfound
    exact absurd rfl (hlive _ he)
  | working hstarts | kept hstarts _ =>
    rw [← List.append_nil calls] at hfound
    exact (hstarts.not_gone hfound hgone).elim
  | reported hstarts _ | unreported _ hstarts _ => exact (hstarts.not_gone hfound hgone).elim

theorem Starts.published {e : Entity σ τ} {reply : Except StoreError (Entity σ τ)}
    (h : Starts key seed (calls ++ [.published e reply]) copy) :
    ∃ (found : Entity σ τ) (stamp : String), calls = [.fetched key (.ok (some found))] ∧
      found.conditions = [] ∧ e = { found with status := some (seed found stamp) } := by
  generalize hall : calls ++ [EntityCall.published e reply] = all at h
  cases h with
  | known => cases (List.append_singleton_inj.1 (show _ = [] ++ [_] from hall)).2
  | @seeded found _ stamp _ hc =>
    obtain ⟨rfl, hlast⟩ := List.append_singleton_inj.1 (show _ = [_] ++ [_] from hall)
    cases hlast
    exact ⟨found, stamp, rfl, hc, rfl⟩

/-- A pass publishes the first condition of what it read, or a report of the copy that it works
on. -/
theorem Account.published_cases {Reports : Entity σ τ → τ → Except PassError Requeue → Prop}
    {Keeps : Entity σ τ → Except PassError Requeue → Prop}
    {result? : Option (Except PassError Requeue)} {e : Entity σ τ}
    {reply : Except StoreError (Entity σ τ)}
    (h : Account key seed Reports Keeps (calls ++ [.published e reply]) result?) :
    (∃ (found : Entity σ τ) (stamp : String), calls = [.fetched key (.ok (some found))] ∧
      found.conditions = [] ∧ e = { found with status := some (seed found stamp) }) ∨
    ∃ (copy : Entity σ τ) (status : τ) (result : Except PassError Requeue),
      Starts key seed calls copy ∧ Reports copy status result ∧
        e = { copy with status := some status } := by
  generalize hall : calls ++ [EntityCall.published e reply] = all at h
  cases h with
  | unread => simp at hall
  | unfetched | leftAlone | fetched =>
    cases (List.append_singleton_inj.1 (show _ = [] ++ [_] from hall)).2
  | @unseeded found stamp _ _ hc =>
    obtain ⟨rfl, hlast⟩ := List.append_singleton_inj.1 (show _ = [_] ++ [_] from hall)
    cases hlast
    exact Or.inl ⟨found, stamp, rfl, hc, rfl⟩
  | working hstarts | kept hstarts _ =>
    subst hall
    exact Or.inl hstarts.published
  | reported hstarts hreport | unreported _ hstarts hreport =>
    obtain ⟨rfl, hlast⟩ := List.append_singleton_inj.1 hall
    cases hlast
    exact Or.inr ⟨_, _, _, hstarts, hreport, rfl⟩

end

/-- Whatever is replied, a pass has an account at every point. -/
def IsAccounted {σ τ Q : Type} {A : Q → Type} [Managed σ τ]
    (call? : Exchange Q A → Option (EntityCall σ τ))
    (pass : Dialogue Q A (Except PassError Requeue)) (key : Key) (seed : Entity σ τ → String → τ)
    (Reports : List (Exchange Q A) → Entity σ τ → τ → Except PassError Requeue → Prop)
    (Keeps : List (Exchange Q A) → Entity σ τ → Except PassError Requeue → Prop) : Prop :=
  ∀ t rest, pass.Reaches t rest →
    Account key seed (Reports t) (Keeps t) (t.filterMap call?) rest.result?

/-! ## Passes over clusters -/

abbrev ClusterExchange := Exchange ClusterRequest ClusterRequest.Reply

namespace ClusterExchange

def call? : ClusterExchange → Option (EntityCall ClusterSpec ClusterStatus)
  | ⟨.entity q, reply⟩ => q.call? reply
  | ⟨.child _, _⟩ => none

def child? : ClusterExchange → Option ChildExchange
  | ⟨.child q, reply⟩ => some ⟨q, reply⟩
  | ⟨.entity _, _⟩ => none

def ofChild (x : ChildExchange) : ClusterExchange :=
  ⟨.child x.1, x.2⟩

theorem filterMap_call?_ofChild (ts : List ChildExchange) :
    (ts.map ofChild).filterMap call? = [] := by
  simp [List.filterMap_map, ofChild, call?]

theorem filterMap_child?_ofChild (ts : List ChildExchange) :
    (ts.map ofChild).filterMap child? = ts := by
  rw [List.filterMap_map]
  exact List.filterMap_some

theorem ofChild_injective : Function.Injective ofChild := by
  rintro ⟨q, reply⟩ ⟨q', reply'⟩ h
  cases h
  rfl

theorem filterMap_child?_ne_nil {t : List ClusterExchange} {x : ChildExchange}
    (h : ofChild x ∈ t) : t.filterMap child? ≠ [] :=
  List.ne_nil_of_mem (List.mem_filterMap.2 ⟨_, h, rfl⟩)

/-- An exchange with the store of child objects is among those that are passed on, when there are
no others. -/
theorem split_ofChild {start last t₁ t₂ : List ClusterExchange} {ts : List ChildExchange}
    {x : ChildExchange} (hstart : start.filterMap child? = []) (hlast : last.filterMap child? = [])
    (h : start ++ (ts.map ofChild ++ last) = t₁ ++ ofChild x :: t₂) :
    ∃ ts₁ ts₂, ts = ts₁ ++ x :: ts₂ ∧ t₁ = start ++ ts₁.map ofChild ∧
      t₂ = ts₂.map ofChild ++ last := by
  obtain ⟨mid, rfl, hmid⟩ : ∃ mid, t₁ = start ++ mid ∧
      ts.map ofChild ++ last = mid ++ ofChild x :: t₂ := by
    rcases List.append_eq_append_iff.1 h with ⟨mid, h₁, h₂⟩ | ⟨mid, h₁, h₂⟩
    · exact ⟨mid, h₁, h₂⟩
    · -- a child's exchange does not come as early as that
      cases mid with
      | nil => exact ⟨[], by simpa using h₁.symm, h₂.symm⟩
      | cons y mid =>
        obtain ⟨rfl, -⟩ := List.cons.inj h₂
        have hmem : ofChild x ∈ start := by simp [h₁]
        exact absurd hstart (filterMap_child?_ne_nil hmem)
  obtain ⟨mid', hmap, hrest⟩ : ∃ mid', ts.map ofChild = mid ++ ofChild x :: mid' ∧
      t₂ = mid' ++ last := by
    rcases List.append_eq_append_iff.1 hmid with ⟨mid', h₁, h₂⟩ | ⟨mid', h₁, h₂⟩
    · have hmem : ofChild x ∈ last := by simp [h₂]
      exact absurd hlast (filterMap_child?_ne_nil hmem)
    · cases mid' with
      | nil =>
        rw [List.nil_append] at h₂
        have hmem : ofChild x ∈ last := by simp [← h₂]
        exact absurd hlast (filterMap_child?_ne_nil hmem)
      | cons y mid' =>
        obtain ⟨rfl, hrest⟩ := List.cons.inj h₂
        exact ⟨mid', h₁, hrest⟩
  obtain ⟨ts₁, ts', rfl, rfl, hts'⟩ := List.map_eq_append_iff.1 hmap
  obtain ⟨y, ts₂, rfl, hy, rfl⟩ := List.map_eq_cons_iff.1 hts'
  rw [ofChild_injective hy]
  exact ⟨ts₁, ts₂, rfl, rfl, hrest⟩

end ClusterExchange

/-- The status that a pass publishes of a cluster without conditions. -/
def Cluster.seed (c : Cluster) (stamp : String) : ClusterStatus :=
  c.statusOrEmpty.started stamp

/-- What a pass reports of a cluster after its calls to the store of child objects, and its
result. -/
inductive ClusterReport (calls : List ChildExchange) (c : Cluster) :
    ClusterStatus → Except PassError Requeue → Prop where
  | refused {reason : Invalid} (stamp : String) (hspec : c.spec.validate = .error reason)
      (hcalls : calls = []) :
    ClusterReport calls c (c.statusOrEmpty.failed Reason.invalidConfig reason.message stamp)
      (.error (.validation reason))
  | failed {error : ChildError} (stamp : String) (hspec : c.spec.validate = .ok ())
      (hcalls : (convergeChildren c).Reaches calls (.finish (.error error))) :
    ClusterReport calls c (c.statusOrEmpty.failed Reason.reconcileFailed error.message stamp)
      (.error (.children error))
  | ready {refs : List ChildRef} (stamp : String) (hspec : c.spec.validate = .ok ())
      (hcalls : (convergeChildren c).Reaches calls (.finish (.ok refs))) :
    ClusterReport calls c
      (c.statusOrEmpty.ready c.metadata.generation (refs.map fun r => ⟨r.kind.name, r.name⟩) stamp)
      (.ok .awaitChange)

/-- What a pass would report of a cluster is published but for times. -/
def ClusterKeep (calls : List ChildExchange) (c : Cluster) (result : Except PassError Requeue) :
    Prop :=
  ∃ status, ClusterReport calls c status result ∧
    shouldPublish ClusterStatus.encode c.status status = false

section

open ClusterExchange

variable {key : Key} {stamp : String} {c : Cluster} {t : List ClusterExchange}

theorem startCluster_reaches {rest : ClusterDialogue (Except StoreError Cluster)}
    (h : (startCluster stamp c).Reaches t rest) :
    c.conditions ≠ [] ∧ t = [] ∧ rest = .finish (.ok c) ∨
      c.conditions = [] ∧ (t = [] ∧ rest.result? = none ∨
        ∃ reply, t = [⟨.entity (.publish (c.withStatus (c.seed stamp))), reply⟩] ∧
          rest = .finish reply) := by
  unfold startCluster at h
  split at h
  · next hc => exact Or.inr ⟨by simpa using hc, h.of_request⟩
  · next hc => exact Or.inl ⟨by simpa using hc, h.of_finish⟩

theorem reportCluster_reaches {status : ClusterStatus}
    {outcome : Except PassError Requeue} {rest : ClusterDialogue (Except PassError Requeue)}
    (h : (reportCluster c status outcome).Reaches t rest) :
    t = [] ∧ rest.result? = none ∨
      t = [] ∧ rest = .finish outcome ∧
        shouldPublish ClusterStatus.encode c.status status = false ∨
      ∃ reply, t = [⟨.entity (.publish (c.withStatus status)), reply⟩] ∧
        rest = .finish (match reply with
          | .error e => .error (.statusWrite e)
          | .ok _ => outcome) := by
  unfold reportCluster at h
  split at h
  · rcases h.of_request_bind with ⟨rfl, hrest⟩ | ⟨reply, t', rfl, h'⟩
    · exact Or.inl ⟨rfl, hrest⟩
    · refine Or.inr (Or.inr ⟨reply, ?_⟩)
      cases reply <;>
      · obtain ⟨rfl, rfl⟩ := h'.of_finish
        exact ⟨rfl, rfl⟩
  · next hsame =>
    obtain ⟨rfl, rfl⟩ := h.of_finish
    exact Or.inr (Or.inl ⟨rfl, rfl, Bool.eq_false_iff.2 hsame⟩)

/-- The work on a copy is the convergence of its children, if its spec is not refused, and then a
report. -/
theorem workOnCluster_reaches {rest : ClusterDialogue (Except PassError Requeue)}
    (h : (workOnCluster stamp c).Reaches t rest) :
    (∃ ts left, t = ts.map ofChild ∧ rest.result? = none ∧ c.spec.validate = .ok () ∧
      (convergeChildren c).Reaches ts left) ∨
    ∃ ts t' status outcome, t = ts.map ofChild ++ t' ∧ ClusterReport ts c status outcome ∧
      (reportCluster c status outcome).Reaches t' rest := by
  unfold workOnCluster at h
  split at h
  · next reason hspec =>
    exact Or.inr ⟨[], t, _, _, rfl, .refused stamp hspec rfl, h⟩
  · next hspec =>
    rcases h.of_bind with ⟨hrest, left, hleft, -⟩ | ⟨children, t₁, t₂, rfl, h₁, h₂⟩
    · obtain ⟨ts, left, hts, rfl, -⟩ := hleft.of_interpret
      exact Or.inl ⟨ts, left, rfl, hrest, hspec, hts⟩
    · obtain ⟨ts, left, hts, rfl, hleft⟩ := h₁.of_interpret
      obtain rfl := result?_eq_some.1 hleft.symm
      cases children with
      | error e => exact Or.inr ⟨ts, t₂, _, _, rfl, .failed stamp hspec hts, h₂⟩
      | ok refs => exact Or.inr ⟨ts, t₂, _, _, rfl, .ready stamp hspec hts, h₂⟩

theorem reconcileCluster_reaches {rest : ClusterDialogue (Except PassError Requeue)}
    (h : (reconcileCluster key).Reaches t rest) :
    (t.filterMap child? = [] ∧
      ∀ Reports Keeps, Account key Cluster.seed Reports Keeps (t.filterMap call?) rest.result?) ∨
    ∃ stamp copy t₁ t₂, t = t₁ ++ t₂ ∧ t₁.filterMap child? = [] ∧
      Starts key Cluster.seed (t₁.filterMap call?) copy ∧
      (workOnCluster stamp copy).Reaches t₂ rest := by
  unfold reconcileCluster at h
  rcases h.of_request_bind with ⟨rfl, hrest⟩ | ⟨found, t₁, rfl, h₁⟩
  · exact Or.inl ⟨rfl, fun _ _ => hrest ▸ .unread⟩
  obtain error | _ | e := found
  · obtain ⟨rfl, rfl⟩ := h₁.of_finish
    exact Or.inl ⟨rfl, fun _ _ => .unfetched error⟩
  · obtain ⟨rfl, rfl⟩ := h₁.of_finish
    exact Or.inl ⟨rfl, fun _ _ => .leftAlone fun _ he => by cases he⟩
  dsimp only at h₁
  split at h₁
  · next hdeleted =>
    obtain ⟨rfl, rfl⟩ := h₁.of_finish
    exact Or.inl ⟨rfl, fun _ _ => .leftAlone fun _ he => by cases he; exact hdeleted⟩
  next hdeleted =>
  have hlive : e.metadata.deletionTimestamp = none := by simpa using hdeleted
  rcases h₁.of_request_bind with ⟨rfl, hrest⟩ | ⟨stamp, t₂, rfl, h₂⟩
  · exact Or.inl ⟨rfl, fun _ _ => hrest ▸ .fetched hlive⟩
  rcases h₂.of_bind with ⟨hrest, left, hleft, hnone⟩ | ⟨started, t₃, t₄, rfl, hstart, h₃⟩
  · rcases startCluster_reaches hleft with ⟨-, -, rfl⟩ | ⟨-, ⟨rfl, -⟩ | ⟨_, -, rfl⟩⟩
    · cases hnone
    · exact Or.inl ⟨rfl, fun _ _ => hrest ▸ .fetched hlive⟩
    · cases hnone
  rcases startCluster_reaches hstart with ⟨hc, rfl, hcopy⟩ | ⟨hc, ⟨-, hnone⟩ | ⟨_, rfl, hcopy⟩⟩
  · cases hcopy
    exact Or.inr ⟨stamp, e, [_, _], t₄, rfl, rfl, .known hlive hc, h₃⟩
  · cases hnone
  · cases hcopy
    cases started with
    | error error =>
      obtain ⟨rfl, rfl⟩ := h₃.of_finish
      exact Or.inl ⟨rfl, fun _ _ => .unseeded stamp error hlive hc⟩
    | ok copy => exact Or.inr ⟨stamp, copy, [_, _, _], t₄, rfl, rfl, .seeded stamp hlive hc, h₃⟩

/-- The work on a copy, after the calls that came to it. -/
theorem account_of_workOnCluster {s : List ClusterExchange}
    {rest : ClusterDialogue (Except PassError Requeue)} (hchild : s.filterMap child? = [])
    (hstarts : Starts key Cluster.seed (s.filterMap call?) c)
    (h : (workOnCluster stamp c).Reaches t rest) :
    Account key Cluster.seed (ClusterReport ((s ++ t).filterMap child?))
      (ClusterKeep ((s ++ t).filterMap child?)) ((s ++ t).filterMap call?) rest.result? := by
  rcases workOnCluster_reaches h with
    ⟨ts, left, rfl, hrest, -, -⟩ | ⟨ts, t', status, outcome, rfl, hreport, h'⟩
  · simp only [List.filterMap_append, filterMap_call?_ofChild, List.append_nil, hrest]
    exact .working hstarts
  simp only [List.filterMap_append, hchild, List.nil_append, filterMap_call?_ofChild,
    filterMap_child?_ofChild]
  rcases reportCluster_reaches h' with ⟨rfl, hrest⟩ | ⟨rfl, rfl, hsame⟩ | ⟨reply, rfl, rfl⟩
  · simp only [List.filterMap_nil, List.append_nil, hrest]
    exact .working hstarts
  · simp only [List.filterMap_nil, List.append_nil]
    exact .kept hstarts ⟨status, hreport, hsame⟩
  · have hnone : [(⟨.entity (.publish (c.withStatus status)), reply⟩ :
        ClusterExchange)].filterMap child? = [] := rfl
    rw [hnone, List.append_nil]
    cases reply with
    | error error => exact .unreported error hstarts hreport
    | ok stored => exact .reported hstarts hreport

theorem reconcileCluster_account {rest : ClusterDialogue (Except PassError Requeue)}
    (h : (reconcileCluster key).Reaches t rest) :
    Account key Cluster.seed (ClusterReport (t.filterMap child?)) (ClusterKeep (t.filterMap child?))
      (t.filterMap call?) rest.result? := by
  rcases reconcileCluster_reaches h with ⟨-, hshort⟩ | ⟨stamp, copy, t₁, t₂, rfl, h₁, hstarts, h₂⟩
  · exact hshort _ _
  · exact account_of_workOnCluster h₁ hstarts h₂

theorem reconcileCluster_isAccounted (key : Key) :
    IsAccounted call? (reconcileCluster key) key Cluster.seed
      (fun t => ClusterReport (t.filterMap child?)) (fun t => ClusterKeep (t.filterMap child?)) :=
  fun _ _ h => reconcileCluster_account h

end

/-! ## Passes over queries -/

abbrev QueryExchange := Exchange QueryRequest QueryRequest.Reply

abbrev LookupExchange := Exchange LookupRequest LookupRequest.Reply

namespace QueryExchange

def call? : QueryExchange → Option (EntityCall QuerySpec QueryStatus)
  | ⟨.entity q, reply⟩ => q.call? reply
  | ⟨.lookup _, _⟩ => none

def lookup? : QueryExchange → Option LookupExchange
  | ⟨.lookup q, reply⟩ => some ⟨q, reply⟩
  | ⟨.entity _, _⟩ => none

def ofLookup (x : LookupExchange) : QueryExchange :=
  ⟨.lookup x.1, x.2⟩

theorem filterMap_call?_ofLookup (ts : List LookupExchange) :
    (ts.map ofLookup).filterMap call? = [] := by
  simp [List.filterMap_map, ofLookup, call?]

theorem filterMap_lookup?_ofLookup (ts : List LookupExchange) :
    (ts.map ofLookup).filterMap lookup? = ts := by
  rw [List.filterMap_map]
  exact List.filterMap_some

end QueryExchange

/-- The status that a pass publishes of a query without conditions. -/
def Query.seed (q : Query) (stamp : String) : QueryStatus :=
  q.statusOrEmpty.started stamp

/-- What a pass reports of a query after its calls to the inventory service, and its result. -/
inductive QueryReport (settings : RefreshSettings) (calls : List LookupExchange) (q : Query) :
    QueryStatus → Except PassError Requeue → Prop where
  | refused {reason : Invalid} (stamp : String) (hspec : q.spec.validate = .error reason)
      (hcalls : calls = []) :
    QueryReport settings calls q
      (q.statusOrEmpty.failed Reason.invalidConfig reason.message stamp)
      (.error (.validation reason))
  | failed {error : QueryError} (stamp : String) (hspec : q.spec.validate = .ok ())
      (hcalls : (q.spec.plan.lookUp q.spec.apiEndpoint).Reaches calls (.finish (.error error))) :
    QueryReport settings calls q
      (q.statusOrEmpty.failed Reason.queryFailed ("Query failed: " ++ error.message) stamp)
      (.error (.query error (q.spec.interval settings)))
  | answered {answer : Answer} (stamp : String) (hspec : q.spec.validate = .ok ())
      (hcalls : (q.spec.plan.lookUp q.spec.apiEndpoint).Reaches calls (.finish (.ok answer))) :
    QueryReport settings calls q
      (q.statusOrEmpty.answered q.metadata.generation answer.json answer.count stamp)
      (.ok (.after (q.spec.interval settings)))

section

open QueryExchange

variable {settings : RefreshSettings} {key : Key} {q : Query} {t : List QueryExchange}

theorem startQuery_reaches {rest : QueryDialogue (Except StoreError Query)}
    (h : (startQuery q).Reaches t rest) :
    q.conditions ≠ [] ∧ t = [] ∧ rest = .finish (.ok q) ∨
      q.conditions = [] ∧ (t.filterMap call? = [] ∧ t.filterMap lookup? = [] ∧ rest.result? = none ∨
        ∃ stamp reply, t = [⟨.entity .clock, stamp⟩,
            ⟨.entity (.publish (q.withStatus (q.seed stamp))), reply⟩] ∧
          rest = .finish reply) := by
  unfold startQuery at h
  split at h
  · next hc =>
    refine Or.inr ⟨by simpa using hc, ?_⟩
    rcases h.of_request_bind with ⟨rfl, hrest⟩ | ⟨stamp, t', rfl, h'⟩
    · exact Or.inl ⟨rfl, rfl, hrest⟩
    · rcases h'.of_request with ⟨rfl, hrest⟩ | ⟨reply, rfl, rfl⟩
      · exact Or.inl ⟨rfl, rfl, hrest⟩
      · exact Or.inr ⟨stamp, reply, rfl, rfl⟩
  · next hc => exact Or.inl ⟨by simpa using hc, h.of_finish⟩

theorem reportQuery_reaches {status : QueryStatus} {outcome : Except PassError Requeue}
    {rest : QueryDialogue (Except PassError Requeue)}
    (h : (reportQuery q status outcome).Reaches t rest) :
    t = [] ∧ rest.result? = none ∨
      ∃ reply, t = [⟨.entity (.publish (q.withStatus status)), reply⟩] ∧
        rest = .finish (match reply with
          | .error e => .error (.statusWrite e)
          | .ok _ => outcome) := by
  rcases h.of_request_bind with ⟨rfl, hrest⟩ | ⟨reply, t', rfl, h'⟩
  · exact Or.inl ⟨rfl, hrest⟩
  · refine Or.inr ⟨reply, ?_⟩
    cases reply <;>
    · obtain ⟨rfl, rfl⟩ := h'.of_finish
      exact ⟨rfl, rfl⟩

theorem workOnQuery_reaches {rest : QueryDialogue (Except PassError Requeue)}
    (h : (workOnQuery settings q).Reaches t rest) :
    t.filterMap call? = [] ∧ rest.result? = none ∨
    ∃ t₁ t₂ status outcome, t = t₁ ++ t₂ ∧ t₁.filterMap call? = [] ∧
      QueryReport settings (t₁.filterMap lookup?) q status outcome ∧
      (reportQuery q status outcome).Reaches t₂ rest := by
  unfold workOnQuery at h
  split at h
  · next reason hspec =>
    rcases h.of_request_bind with ⟨rfl, hrest⟩ | ⟨stamp, t', rfl, h'⟩
    · exact Or.inl ⟨rfl, hrest⟩
    · exact Or.inr ⟨[_], t', _, _, rfl, rfl, .refused stamp hspec rfl, h'⟩
  · next hspec =>
    rcases h.of_bind with ⟨hrest, left, hleft, -⟩ | ⟨answer, t₁, t₂, rfl, h₁, h₂⟩
    · obtain ⟨ts, left, -, rfl, -⟩ := hleft.of_interpret
      exact Or.inl ⟨filterMap_call?_ofLookup ts, hrest⟩
    obtain ⟨ts, left, hts, rfl, hleft⟩ := h₁.of_interpret
    obtain rfl := result?_eq_some.1 hleft.symm
    rcases h₂.of_request_bind with ⟨rfl, hrest⟩ | ⟨stamp, t', rfl, h'⟩
    · refine Or.inl ⟨?_, hrest⟩
      rw [List.append_nil]
      exact filterMap_call?_ofLookup ts
    refine Or.inr ⟨ts.map ofLookup ++ [⟨.entity .clock, stamp⟩], t', ?_⟩
    have hclock : [(⟨.entity .clock, stamp⟩ : QueryExchange)].filterMap lookup? = [] := rfl
    rw [List.filterMap_append, List.filterMap_append, filterMap_call?_ofLookup,
      filterMap_lookup?_ofLookup, hclock, List.append_nil]
    cases answer with
    | error e => exact ⟨_, _, by simp [ofLookup], rfl, .failed stamp hspec hts, h'⟩
    | ok a => exact ⟨_, _, by simp [ofLookup], rfl, .answered stamp hspec hts, h'⟩

theorem reconcileQuery_reaches {rest : QueryDialogue (Except PassError Requeue)}
    (h : (reconcileQuery settings key).Reaches t rest) :
    (t.filterMap lookup? = [] ∧
      ∀ Reports Keeps, Account key Query.seed Reports Keeps (t.filterMap call?) rest.result?) ∨
    ∃ copy t₁ t₂, t = t₁ ++ t₂ ∧ t₁.filterMap lookup? = [] ∧
      Starts key Query.seed (t₁.filterMap call?) copy ∧
      (workOnQuery settings copy).Reaches t₂ rest := by
  unfold reconcileQuery at h
  rcases h.of_request_bind with ⟨rfl, hrest⟩ | ⟨found, t₁, rfl, h₁⟩
  · exact Or.inl ⟨rfl, fun _ _ => hrest ▸ .unread⟩
  obtain error | _ | e := found
  · obtain ⟨rfl, rfl⟩ := h₁.of_finish
    exact Or.inl ⟨rfl, fun _ _ => .unfetched error⟩
  · obtain ⟨rfl, rfl⟩ := h₁.of_finish
    exact Or.inl ⟨rfl, fun _ _ => .leftAlone fun _ he => by cases he⟩
  dsimp only at h₁
  split at h₁
  · next hdeleted =>
    obtain ⟨rfl, rfl⟩ := h₁.of_finish
    exact Or.inl ⟨rfl, fun _ _ => .leftAlone fun _ he => by cases he; exact hdeleted⟩
  next hdeleted =>
  have hlive : e.metadata.deletionTimestamp = none := by simpa using hdeleted
  rcases Reaches.of_bind h₁ with ⟨hrest, left, hleft, hnone⟩ | ⟨started, t₂, t₃, rfl, hstart, h₂⟩
  · rcases startQuery_reaches hleft with
      ⟨-, -, rfl⟩ | ⟨-, ⟨hcalls, hlookups, -⟩ | ⟨_, _, -, rfl⟩⟩
    · cases hnone
    · refine Or.inl ⟨hlookups, fun _ _ => ?_⟩
      have hcall : (⟨.entity (.fetch key), .ok (some e)⟩ :: t₁ : List QueryExchange).filterMap
          call? = [.fetched key (.ok (some e))] := congrArg (_ :: ·) hcalls
      rw [hcall, hrest]
      exact .fetched hlive
    · cases hnone
  rcases startQuery_reaches hstart with
    ⟨hc, rfl, hcopy⟩ | ⟨hc, ⟨-, -, hnone⟩ | ⟨stamp, _, rfl, hcopy⟩⟩
  · cases hcopy
    exact Or.inr ⟨e, [_], t₃, rfl, rfl, .known hlive hc, h₂⟩
  · cases hnone
  · cases hcopy
    cases started with
    | error error =>
      obtain ⟨rfl, rfl⟩ := Reaches.of_finish h₂
      exact Or.inl ⟨rfl, fun _ _ => .unseeded stamp error hlive hc⟩
    | ok copy => exact Or.inr ⟨copy, [_, _, _], t₃, rfl, rfl, .seeded stamp hlive hc, h₂⟩

theorem account_of_workOnQuery {s : List QueryExchange} {copy : Query}
    {rest : QueryDialogue (Except PassError Requeue)} (hlookup : s.filterMap lookup? = [])
    (hstarts : Starts key Query.seed (s.filterMap call?) copy)
    (h : (workOnQuery settings copy).Reaches t rest) :
    Account key Query.seed (QueryReport settings ((s ++ t).filterMap lookup?)) (fun _ _ => False)
      ((s ++ t).filterMap call?) rest.result? := by
  rcases workOnQuery_reaches h with
    ⟨hcalls, hrest⟩ | ⟨t₁, t₂, status, outcome, rfl, hcalls, hreport, h'⟩
  · simp only [List.filterMap_append, hcalls, List.append_nil, hrest]
    exact .working hstarts
  simp only [List.filterMap_append, hlookup, hcalls, List.nil_append]
  rcases reportQuery_reaches h' with ⟨rfl, hrest⟩ | ⟨reply, rfl, rfl⟩
  · simp only [List.filterMap_nil, List.append_nil, hrest]
    exact .working hstarts
  · have hnone : [(⟨.entity (.publish (Query.withStatus copy status)), reply⟩ :
        QueryExchange)].filterMap lookup? = [] := rfl
    rw [hnone, List.append_nil]
    cases reply with
    | error error => exact .unreported error hstarts hreport
    | ok stored => exact .reported hstarts hreport

/-- All calls of a pass over a query to the store of entities. What it reports is never left
out. -/
theorem reconcileQuery_account {rest : QueryDialogue (Except PassError Requeue)}
    (h : (reconcileQuery settings key).Reaches t rest) :
    Account key Query.seed (QueryReport settings (t.filterMap lookup?)) (fun _ _ => False)
      (t.filterMap call?) rest.result? := by
  rcases reconcileQuery_reaches h with ⟨-, hshort⟩ | ⟨copy, t₁, t₂, rfl, h₁, hstarts, h₂⟩
  · exact hshort _ _
  · exact account_of_workOnQuery h₁ hstarts h₂

theorem reconcileQuery_isAccounted (settings : RefreshSettings) (key : Key) :
    IsAccounted call? (reconcileQuery settings key) key Query.seed
      (fun t => QueryReport settings (t.filterMap lookup?)) (fun _ _ _ => False) :=
  fun _ _ h => reconcileQuery_account h

end

end ClusterOperator

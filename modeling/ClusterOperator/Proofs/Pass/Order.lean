import ClusterOperator.Proofs.Convergence.Pass
import ClusterOperator.Proofs.Pass.Account

/-!
# The order of the calls of a pass

Whatever the stores reply to a pass over a cluster, it calls the children in one order, and no
further than the first call that fails. It calls none of a cluster that is gone or being deleted, or
whose spec is refused.

* `InForce` : the copy of a cluster that a pass works on; `InForce.unique`;
* `workOnCluster_split`, `workOnCluster_children` : the calls to the children are those of one
  convergence; `child_call_reaches`, what came before any one of them;
  `child_write_reaches`, what is written over what;
* `reconcileCluster_calls` : a course that comes to a copy and its children;
* `child_calls_in_order` : their order, what stops them, and what they write;
  `child_calls_in_order_over_leftovers`, a pass that writes and deletes.
-/

namespace ClusterOperator

open Dialogue ClusterExchange

/-- The copy of a cluster that a pass works on: the one read, or the one that the store returned
when the first condition was published. No child was called before. -/
def InForce (key : Key) (t : List ClusterExchange) (copy : Cluster) : Prop :=
  ∃ t₁ t₂, t = t₁ ++ t₂ ∧ t₁.filterMap child? = [] ∧
    Starts key Cluster.seed (t₁.filterMap call?) copy

section

variable {key : Key} {t : List ClusterExchange} {copy copy' : Cluster}

theorem InForce.unique (h : InForce key t copy) (h' : InForce key t copy') : copy = copy' := by
  obtain ⟨t₁, t₂, rfl, -, hstarts⟩ := h
  obtain ⟨t₃, t₄, ht, -, hstarts'⟩ := h'
  have hcalls : t₁.filterMap call? <+: (t₁ ++ t₂).filterMap call? :=
    (List.prefix_append t₁ t₂).filterMap call?
  refine hstarts.unique hstarts' hcalls ?_
  rw [ht]
  exact (List.prefix_append t₃ t₄).filterMap call?

theorem reportCluster_children {c : Cluster} {status : ClusterStatus}
    {outcome : Except PassError Requeue} {rest : ClusterDialogue (Except PassError Requeue)}
    (h : (reportCluster c status outcome).Reaches t rest) : t.filterMap child? = [] := by
  rcases reportCluster_reaches h with ⟨rfl, -⟩ | ⟨rfl, -, -⟩ | ⟨reply, rfl, -⟩ <;> rfl

/-- The work on a copy calls no child, or the copy is valid and the work starts with the calls of
one convergence and calls no child later. -/
theorem workOnCluster_split {stamp : String} {c : Cluster}
    {rest : ClusterDialogue (Except PassError Requeue)}
    (h : (workOnCluster stamp c).Reaches t rest) :
    t.filterMap child? = [] ∨ ∃ ts last left, t = ts.map ofChild ++ last ∧
      last.filterMap child? = [] ∧ c.spec.validate = .ok () ∧
      (convergeChildren c).Reaches ts left := by
  rcases workOnCluster_reaches h with
    ⟨ts, left, rfl, -, hspec, hleft⟩ | ⟨ts, last, status, outcome, rfl, hreport, hlast⟩
  · exact Or.inr ⟨ts, [], left, (List.append_nil _).symm, rfl, hspec, hleft⟩
  have hnone := reportCluster_children hlast
  cases hreport with
  | refused _ _ hcalls =>
    subst hcalls
    exact Or.inl hnone
  | failed _ hspec hcalls | ready _ hspec hcalls =>
    exact Or.inr ⟨ts, last, _, rfl, hnone, hspec, hcalls⟩

/-- The calls of the work on a copy to its children: none if its spec is refused, and else those of
one convergence, which the result tells of unless the status could not be written. -/
theorem workOnCluster_children {stamp : String} {c : Cluster}
    {rest : ClusterDialogue (Except PassError Requeue)}
    (h : (workOnCluster stamp c).Reaches t rest) :
    t.filterMap child? = [] ∧ c.spec.validate ≠ .ok () ∨
    c.spec.validate = .ok () ∧ ∃ left, (convergeChildren c).Reaches (t.filterMap child?) left ∧
      ∀ result, rest.result? = some result →
        (∃ e, result = .error (.statusWrite e)) ∨
        (∃ e, result = .error (.children e) ∧ left = .finish (.error e)) ∨
        ∃ refs, result = .ok .awaitChange ∧ left = .finish (.ok refs) := by
  rcases workOnCluster_reaches h with
    ⟨ts, left, rfl, hrest, hspec, hleft⟩ | ⟨ts, t', status, outcome, rfl, hreport, h'⟩
  · rw [filterMap_child?_ofChild]
    exact Or.inr ⟨hspec, left, hleft, by simp [hrest]⟩
  have hchild : (ts.map ofChild ++ t').filterMap child? = ts := by
    rw [List.filterMap_append, filterMap_child?_ofChild, reportCluster_children h',
      List.append_nil]
  have hresult : ∀ result, rest.result? = some result →
      (∃ e, result = .error (.statusWrite e)) ∨ result = outcome := by
    intro result hresult
    rcases reportCluster_reaches h' with ⟨-, hrest⟩ | ⟨-, rfl, -⟩ | ⟨reply, -, rfl⟩
    · rw [hrest] at hresult
      cases hresult
    · exact Or.inr (Option.some.inj hresult).symm
    · cases reply with
      | error e => exact Or.inl ⟨e, (Option.some.inj hresult).symm⟩
      | ok _ => exact Or.inr (Option.some.inj hresult).symm
  rw [hchild]
  cases hreport with
  | refused _ hspec hcalls => exact Or.inl ⟨hcalls, by simp [hspec]⟩
  | failed _ hspec hcalls =>
    refine Or.inr ⟨hspec, _, hcalls, fun result hr => ?_⟩
    exact (hresult result hr).imp_right fun h => Or.inl ⟨_, h, rfl⟩
  | ready _ hspec hcalls =>
    refine Or.inr ⟨hspec, _, hcalls, fun result hr => ?_⟩
    exact (hresult result hr).imp_right fun h => Or.inr ⟨_, h, rfl⟩

/-- A pass works on a copy that is valid before it calls any child. -/
theorem exists_inForce {rest : ClusterDialogue (Except PassError Requeue)}
    (h : (reconcileCluster key).Reaches t rest) (hcalls : t.filterMap child? ≠ []) :
    ∃ copy, InForce key t copy ∧ copy.spec.validate = .ok () := by
  rcases reconcileCluster_reaches h with
    ⟨hnone, -⟩ | ⟨stamp, copy, t₁, t₂, rfl, h₁, hstarts, h₂⟩
  · exact absurd hnone hcalls
  rw [List.filterMap_append, h₁, List.nil_append] at hcalls
  refine ⟨copy, ⟨t₁, t₂, rfl, h₁, hstarts⟩, ?_⟩
  rcases workOnCluster_children h₂ with ⟨hnone, -⟩ | ⟨hspec, -⟩
  · exact absurd hnone hcalls
  · exact hspec

theorem leftAlone {rest : ClusterDialogue (Except PassError Requeue)}
    (h : (reconcileCluster key).Reaches t rest) {found : Option Cluster}
    (hfound : (t.filterMap call?).head? = some (.fetched key (.ok found)))
    (hgone : ∀ c ∈ found, c.metadata.deletionTimestamp.isSome) :
    t.filterMap child? = [] ∧ t.filterMap call? = [.fetched key (.ok found)] := by
  refine ⟨?_, ((reconcileCluster_account h).leftAlone_of_gone hfound hgone).1⟩
  rcases reconcileCluster_reaches h with ⟨hnone, -⟩ | ⟨stamp, copy, t₁, t₂, rfl, -, hstarts, -⟩
  · exact hnone
  · rw [List.filterMap_append] at hfound
    exact (hstarts.not_gone hfound hgone).elim

/-- A pass that calls a child has come to a valid copy before, and has called nothing else since
but the children of that copy. -/
theorem child_call_reaches {t₁ t₂ : List ClusterExchange} {x : ChildExchange}
    {rest : ClusterDialogue (Except PassError Requeue)}
    (h : (reconcileCluster key).Reaches (t₁ ++ ofChild x :: t₂) rest) :
    ∃ copy start ts left, t₁ = start ++ ts.map ofChild ∧ start.filterMap child? = [] ∧
      Starts key Cluster.seed (start.filterMap call?) copy ∧ copy.spec.validate = .ok () ∧
      (convergeChildren copy).Reaches (ts ++ x :: t₂.filterMap child?) left := by
  have hx : (t₁ ++ ofChild x :: t₂).filterMap child? ≠ [] :=
    filterMap_child?_ne_nil (x := x) (by simp)
  rcases reconcileCluster_reaches h with
    ⟨hnone, -⟩ | ⟨stamp, copy, start, work, ht, hstart, hstarts, hwork⟩
  · exact absurd hnone hx
  rw [ht, List.filterMap_append, hstart, List.nil_append] at hx
  obtain ⟨ts, last, left, rfl, hlast, hspec, hleft⟩ := (workOnCluster_split hwork).resolve_left hx
  obtain ⟨ts₁, ts₂, rfl, rfl, rfl⟩ := split_ofChild hstart hlast ht.symm
  refine ⟨copy, start, ts₁, left, rfl, hstart, hstarts, hspec, ?_⟩
  rwa [List.filterMap_append, filterMap_child?_ofChild, hlast, List.append_nil]

/-- A pass that writes a child writes one that the copy in force wants, over what the call right
before has found of it. If the write fails, no child is called any more. -/
theorem child_write_reaches {t₁ t₂ : List ClusterExchange} {x : ChildExchange} {m : Manifest}
    {rest : ClusterDialogue (Except PassError Requeue)}
    (h : (reconcileCluster key).Reaches (t₁ ++ ofChild x :: t₂) rest) (hm : x.1.written? = some m) :
    ∃ copy owner, InForce key t₁ copy ∧ ownerReference copy = .ok owner ∧
      ∃ wanted ∈ Children.wanted copy, ∃ found : Option Manifest,
        t₁.getLast? = some ⟨.child (.get wanted.ref), .ok found⟩ ∧
        x.1 = writeOver owner wanted found ∧ (x.1.Fails x.2 → t₂.filterMap child? = []) := by
  obtain ⟨copy, start, ts, left, rfl, hstart, hstarts, -, hleft⟩ := child_call_reaches h
  obtain ⟨owner, howner, wanted, hwanted, found, hlast, hx⟩ := written_over hleft hm
  refine ⟨copy, owner, ⟨start, _, rfl, hstart, hstarts⟩, howner, wanted, hwanted, found, ?_, hx,
    convergeChildren_ends hleft⟩
  rw [List.getLast?_append, List.getLast?_map, hlast]
  rfl

theorem calls_of_inForce {rest : ClusterDialogue (Except PassError Requeue)}
    (h : (reconcileCluster key).Reaches t rest) (hcopy : InForce key t copy) :
    t.filterMap child? = [] ∨
    copy.spec.validate = .ok () ∧ ∃ left, (convergeChildren copy).Reaches (t.filterMap child?) left ∧
      ∀ result, rest.result? = some result →
        (∃ e, result = .error (.statusWrite e)) ∨
        (∃ e, result = .error (.children e) ∧ left = .finish (.error e)) ∨
        ∃ refs, result = .ok .awaitChange ∧ left = .finish (.ok refs) := by
  rcases reconcileCluster_reaches h with ⟨hnone, -⟩ | ⟨stamp, copy', t₁, t₂, rfl, h₁, hstarts, h₂⟩
  · exact Or.inl hnone
  · obtain rfl := hcopy.unique ⟨t₁, t₂, rfl, h₁, hstarts⟩
    rw [List.filterMap_append, h₁, List.nil_append]
    exact (workOnCluster_children h₂).imp_left And.left

end

/-! ## The way to a copy and its children -/

/-- A pass over a cluster without conditions comes to the copy that the store returned, whatever
that is. -/
theorem reconcileCluster_seeded (key : Key) {c : Cluster}
    (hlive : c.metadata.deletionTimestamp = none) (hc : c.conditions = []) (stamp : String)
    (copy : Cluster) :
    (reconcileCluster key).Reaches
      [⟨.entity (.fetch key), .ok (some c)⟩, ⟨.entity .clock, stamp⟩,
        ⟨.entity (.publish (c.withStatus (c.seed stamp))), .ok copy⟩]
      (workOnCluster stamp copy) := by
  unfold reconcileCluster
  apply Reaches.request_bind
  dsimp only
  rw [hlive, Option.isSome_none, if_neg Bool.false_ne_true]
  apply Reaches.request_bind
  unfold startCluster
  rw [hc, List.isEmpty_nil, if_pos rfl]
  apply Reaches.request_bind
  exact .refl _

theorem workOnCluster_calls {copy : Cluster} {ts : List ChildExchange}
    {left : ChildDialogue (Except ChildError (List ChildRef))}
    (hspec : copy.spec.validate = .ok ()) (h : (convergeChildren copy).Reaches ts left)
    (stamp : String) :
    ∃ rest, (workOnCluster stamp copy).Reaches (ts.map ofChild) rest := by
  have hchild : (ClusterDialogue.ofChild (convergeChildren copy)).Reaches (ts.map ofChild)
      (ClusterDialogue.ofChild left) :=
    Reaches.interpret (B := ClusterRequest.Reply) (g := ClusterRequest.child) h
  unfold workOnCluster
  rw [hspec]
  exact ⟨_, hchild.bind _⟩

/-- A pass over a cluster without conditions calls the children of the copy that the store returned,
if that is valid. -/
theorem reconcileCluster_calls (key : Key) {c copy : Cluster} {ts : List ChildExchange}
    {left : ChildDialogue (Except ChildError (List ChildRef))}
    (hlive : c.metadata.deletionTimestamp = none) (hc : c.conditions = [])
    (hspec : copy.spec.validate = .ok ()) (h : (convergeChildren copy).Reaches ts left)
    (stamp : String) :
    ∃ rest, (reconcileCluster key).Reaches
      ([⟨.entity (.fetch key), .ok (some c)⟩, ⟨.entity .clock, stamp⟩,
        ⟨.entity (.publish (c.withStatus (c.seed stamp))), .ok copy⟩] ++ ts.map ofChild) rest := by
  obtain ⟨rest, hwork⟩ := workOnCluster_calls hspec h stamp
  exact ⟨rest, (reconcileCluster_seeded key hlive hc stamp copy).trans hwork⟩

/-! ## Every pass -/

/-- Whatever is replied to a pass over a cluster, and as far as it has come: nothing is called or
published beyond the first read if that finds no cluster, or one that is being deleted. No child is
called unless the copy of the spec in force is valid. The calls to the children read each child and
write it once at most, in the order of `stages`; they stop at the first that fails, where a delete
that finds nothing does not; a child is created after it was not found, and updated or deleted after
it was. What is written is sound. A pass that succeeds had no call fail, one that reports failing
children had, and one whose delete found nothing succeeds unless the status cannot be written. -/
theorem child_calls_in_order {key : Key} {t : List ClusterExchange}
    {rest : ClusterDialogue (Except PassError Requeue)}
    (h : (reconcileCluster key).Reaches t rest) :
    (∀ found, (t.filterMap call?).head? = some (.fetched key (.ok found)) →
      (∀ c ∈ found, c.metadata.deletionTimestamp.isSome) →
      t.filterMap child? = [] ∧ t.filterMap call? = [.fetched key (.ok found)]) ∧
    (t.filterMap child? ≠ [] → ∃ copy, InForce key t copy ∧ copy.spec.validate = .ok ()) ∧
    ∀ copy, InForce key t copy →
      (copy.spec.validate ≠ .ok () → t.filterMap child? = []) ∧
      (∃ calls, Round (stages copy) calls ∧ callNames (t.filterMap child?) <+: calls) ∧
      (t.filterMap child?).IsChain Follows ∧
      (∀ x ∈ t.filterMap child?, x.1.WritesSound) ∧
      (∀ requeue, rest.result? = some (.ok requeue) →
        ∀ x ∈ t.filterMap child?, ¬ x.1.Fails x.2) ∧
      (∀ e, rest.result? = some (.error (.children e)) → t.filterMap child? ≠ [] →
        ∃ x ∈ t.filterMap child?, x.1.Fails x.2) ∧
      ∀ r error, (⟨.delete r, .error error⟩ : ChildExchange) ∈ t.filterMap child? →
        error.isNotFound = true → ∀ result, rest.result? = some result →
          result = .ok .awaitChange ∨ ∃ e, result = .error (.statusWrite e) := by
  refine ⟨fun found => leftAlone h, exists_inForce h, fun copy hcopy => ?_⟩
  have hinvalid : copy.spec.validate ≠ .ok () → t.filterMap child? = [] := by
    intro hspec
    by_contra hcalls
    obtain ⟨copy', hcopy', hvalid⟩ := exists_inForce h hcalls
    rw [hcopy.unique hcopy'] at hspec
    exact hspec hvalid
  refine ⟨hinvalid, ?_⟩
  by_cases hcalls : t.filterMap child? = []
  · rw [hcalls]
    have horder := InOrder.unread (ε := ChildError) (α := List ChildRef) (stages copy)
    exact ⟨horder.ordered, horder.follows, by simp, by simp, fun _ _ h => absurd rfl h, by simp⟩
  obtain ⟨hspec, left, hleft, hresult⟩ := (calls_of_inForce h hcopy).resolve_left hcalls
  have horder := (convergeChildren_inOrder hleft).resolve_right fun hnone => hcalls hnone.1
  have hasks := (convergeChildren_asks hspec).of_reaches hleft
  refine ⟨horder.ordered, horder.follows, hasks, fun requeue hok => ?_, fun e he _ => ?_,
    fun r error hx hgone result hr => ?_⟩
  · rcases hresult _ hok with ⟨_, h⟩ | ⟨_, h, -⟩ | ⟨refs, -, rfl⟩
    · cases h
    · cases h
    · exact (horder.completed refs rfl).2
  · rcases hresult _ he with ⟨_, h⟩ | ⟨e, -, rfl⟩ | ⟨_, h, -⟩
    · cases h
    · exact horder.failed e rfl
    · cases h
  · obtain ⟨refs, rfl⟩ := convergeChildren_gone hleft hx hgone
    rcases hresult _ hr with h | ⟨_, -, h⟩ | ⟨_, h, -⟩
    · exact Or.inr h
    · cases h
    · exact Or.inl h

theorem child_calls_in_order_over_leftovers :
    ∃ t : List ClusterExchange,
      (reconcileCluster hiddenCluster.key).Reaches t (.finish (.ok .awaitChange)) ∧
      callNames (t.filterMap child?) =
        [(.get, ⟨.deployment, "ns", "demo"⟩), (.update, ⟨.deployment, "ns", "demo"⟩),
          (.get, ⟨.service, "ns", "demo"⟩), (.delete, ⟨.service, "ns", "demo"⟩)] ∧
      ∃ copy, InForce hiddenCluster.key t copy ∧ copy.spec.validate = .ok () ∧
        (t.filterMap child?).IsChain Follows := by
  have h := Reaches.transcript (ClusterBench.answer "t") (reconcileCluster hiddenCluster.key)
    leftovers
  have hresult : ((reconcileCluster hiddenCluster.key).run (ClusterBench.answer "t")
      leftovers).1 = .ok .awaitChange := by decide +kernel
  rw [hresult] at h
  have hnames : callNames (((reconcileCluster hiddenCluster.key).transcript
      (ClusterBench.answer "t") leftovers).filterMap child?) =
        [(.get, ⟨.deployment, "ns", "demo"⟩), (.update, ⟨.deployment, "ns", "demo"⟩),
          (.get, ⟨.service, "ns", "demo"⟩), (.delete, ⟨.service, "ns", "demo"⟩)] := by
    decide +kernel
  obtain ⟨-, hforce, horder⟩ := child_calls_in_order h
  have hcalls : ((reconcileCluster hiddenCluster.key).transcript
      (ClusterBench.answer "t") leftovers).filterMap child? ≠ [] := by
    intro hnone
    rw [hnone] at hnames
    cases hnames
  obtain ⟨copy, hcopy, hspec⟩ := hforce hcalls
  exact ⟨_, h, hnames, copy, hcopy, hspec, (horder copy hcopy).2.2.1⟩

end ClusterOperator

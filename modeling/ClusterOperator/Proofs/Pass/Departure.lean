import ClusterOperator.Proofs.Pass.Order

/-!
# Clusters that are going away

A pass looks once whether its cluster is being deleted: at the copy that it read. The copy that the
store returned when the first condition was published is worked on without another look.

* `EntityCall.copy?`, `lastCopy?` : the copy that a call brings, and the last one of several;
* `Cluster.withDeletion` : a cluster with another time of deletion, which its convergence does not
  look at; `convergeChildren_withDeletion`;
* `child_called_for_copy` : what a pass that calls a child knows of its cluster;
  `child_called_for_copy_exposed`, one that does;
* `child_written_though_deleted` : a child is written for a cluster that is being deleted.
-/

namespace ClusterOperator

open Dialogue ClusterExchange

/-! ## Copies -/

def EntityCall.copy? {σ τ : Type} : EntityCall σ τ → Option (Entity σ τ)
  | .fetched _ (.ok found) => found
  | .published _ (.ok stored) => some stored
  | .fetched _ (.error _) | .published _ (.error _) => none

def lastCopy? {σ τ : Type} (calls : List (EntityCall σ τ)) : Option (Entity σ τ) :=
  (calls.filterMap EntityCall.copy?).getLast?

theorem Starts.lastCopy?_eq {σ τ : Type} [Managed σ τ] {key : Key} {seed : Entity σ τ → String → τ}
    {calls : List (EntityCall σ τ)} {copy : Entity σ τ} (h : Starts key seed calls copy) :
    lastCopy? calls = some copy := by
  cases h <;> rfl

def Cluster.withDeletion (c : Cluster) (time : Option Instant) : Cluster :=
  { c with metadata := { c.metadata with deletionTimestamp := time } }

theorem convergeChildren_withDeletion (c : Cluster) (time : Option Instant) :
    convergeChildren (c.withDeletion time) = convergeChildren c :=
  rfl

/-! ## Every pass -/

/-- A pass that calls a child has read its cluster and found it not to be deleted. If the cluster
had conditions, that copy is the last one that the pass got. Else the last one is what the store
returned when the first condition was published, and whether that is being deleted plays no part:
the pass makes the same calls to the children whatever the time of deletion in it. -/
theorem child_called_for_copy {key : Key} {t₁ t₂ : List ClusterExchange} {q : ChildRequest}
    {reply : q.Reply} {rest : ClusterDialogue (Except PassError Requeue)}
    (h : (reconcileCluster key).Reaches (t₁ ++ ⟨.child q, reply⟩ :: t₂) rest) :
    ∃ found copy : Cluster, found.metadata.deletionTimestamp = none ∧
      lastCopy? (t₁.filterMap call?) = some copy ∧
      (found.conditions ≠ [] ∧ copy = found ∧
          t₁.filterMap call? = [.fetched key (.ok (some found))] ∨
        found.conditions = [] ∧ ∃ stamp,
          t₁.filterMap call? = [.fetched key (.ok (some found)),
            .published (found.withStatus (found.seed stamp)) (.ok copy)] ∧
          ∀ time, ∃ t rest', (reconcileCluster key).Reaches (t ++ [⟨.child q, reply⟩]) rest' ∧
            t.filterMap child? = t₁.filterMap child? ∧
            t.filterMap call? = [.fetched key (.ok (some found)),
              .published (found.withStatus (found.seed stamp))
                (.ok (Cluster.withDeletion copy time))]) := by
  obtain ⟨copy, start, ts, left, rfl, hstart, hstarts, hspec, hleft⟩ :=
    child_call_reaches (x := ⟨q, reply⟩) h
  have hcalls : (start ++ ts.map ofChild).filterMap call? = start.filterMap call? := by
    rw [List.filterMap_append, filterMap_call?_ofChild, List.append_nil]
  have hchildren : (start ++ ts.map ofChild).filterMap child? = ts := by
    rw [List.filterMap_append, hstart, filterMap_child?_ofChild, List.nil_append]
  rw [hcalls, hchildren, hstarts.lastCopy?_eq]
  generalize start.filterMap call? = calls at hstarts
  cases hstarts with
  | known hlive hc => exact ⟨copy, copy, hlive, rfl, Or.inl ⟨hc, rfl, rfl⟩⟩
  | @seeded found _ stamp hlive hc =>
    refine ⟨found, copy, hlive, rfl, Or.inr ⟨hc, stamp, rfl, fun time => ?_⟩⟩
    -- the convergence of the other copy is the same dialogue
    rw [← convergeChildren_withDeletion copy time] at hleft
    obtain ⟨mid, hmid, -⟩ := Reaches.split (t := ts ++ [⟨q, reply⟩]) (by simpa using hleft)
    have hvalid : (Cluster.withDeletion copy time).spec.validate = .ok () := hspec
    obtain ⟨rest', hpass⟩ := reconcileCluster_calls key hlive hc hvalid hmid stamp
    rw [List.map_append, ← List.append_assoc] at hpass
    refine ⟨_, rest', hpass, ?_, ?_⟩
    · rw [List.filterMap_append, filterMap_child?_ofChild]
      rfl
    · rw [List.filterMap_append, filterMap_call?_ofChild]
      rfl

/-- A cluster that wants a service, with its first condition and a time of deletion. -/
def startedCluster (time : Option Instant) : Cluster :=
  (exposedCluster.withStatus (exposedCluster.seed "t")).withDeletion time

/-- A pass over that cluster, up to the read that does not find its service. -/
def startedCalls (time : Option Instant) : List ClusterExchange :=
  [⟨.entity (.fetch exposedCluster.key), .ok (some exposedCluster)⟩, ⟨.entity .clock, "t"⟩,
    ⟨.entity (.publish (exposedCluster.withStatus (exposedCluster.seed "t"))),
      .ok (startedCluster time)⟩,
    ⟨.child (.get ⟨.service, "ns", "demo"⟩), .ok none⟩]

theorem startedCalls_reaches (time : Option Instant) :
    ∃ (m : Manifest) (rest : ClusterDialogue (Except PassError Requeue)),
      (reconcileCluster exposedCluster.key).Reaches
        (startedCalls time ++ ⟨.child (.create m), .ok m⟩ :: []) rest := by
  obtain ⟨owner, howner, -⟩ := exists_ownerReference (c := startedCluster time) rfl rfl
  have hspec : (startedCluster time).spec.validate = .ok () := by
    show exposedCluster.spec.validate = .ok ()
    decide
  obtain ⟨_, hchild⟩ := convergeChild_creates owner (.service (Children.service exposedCluster))
    (.ok ((Manifest.service (Children.service exposedCluster)).owned owner))
  obtain ⟨left, hleft⟩ := convergeChildren_first howner rfl hchild
  obtain ⟨rest, hpass⟩ := reconcileCluster_calls exposedCluster.key (c := exposedCluster) rfl rfl
    hspec hleft "t"
  exact ⟨_, rest, hpass⟩

/-- What a pass over a cluster that is not being deleted creates is created as well when the copy
that the store returned is. -/
theorem child_called_for_copy_exposed :
    ∃ (m : Manifest) (t : List ClusterExchange)
      (rest : ClusterDialogue (Except PassError Requeue)),
      (reconcileCluster exposedCluster.key).Reaches (t ++ [⟨.child (.create m), .ok m⟩]) rest ∧
      lastCopy? (t.filterMap call?) = some (startedCluster (some ⟨0, 0, by decide⟩)) := by
  obtain ⟨m, rest, h⟩ := startedCalls_reaches none
  obtain ⟨found, copy, -, hlast, ⟨-, -, hcalls⟩ | ⟨-, stamp, -, hany⟩⟩ := child_called_for_copy h
  · -- two calls were made, since the cluster that was read has no conditions
    have hlength := congrArg List.length hcalls
    cases hlength
  · obtain rfl : startedCluster none = copy := Option.some.inj hlast
    obtain ⟨t, rest', ht, -, hcalls⟩ := hany (some ⟨0, 0, by decide⟩)
    refine ⟨m, t, rest', ht, ?_⟩
    rw [hcalls]
    rfl

/-- The store returns a copy that is being deleted when the first condition is published, and the
service is created nevertheless. -/
theorem child_written_though_deleted :
    ¬ ∀ (key : Key) (t₁ t₂ : List ClusterExchange) (q : ChildRequest) (reply : q.Reply)
      (rest : ClusterDialogue (Except PassError Requeue)) (copy : Cluster),
      (reconcileCluster key).Reaches (t₁ ++ ⟨.child q, reply⟩ :: t₂) rest → q.callName ≠ .get →
      lastCopy? (t₁.filterMap call?) = some copy → copy.metadata.deletionTimestamp = none := by
  intro h
  obtain ⟨m, rest, hreaches⟩ := startedCalls_reaches (some ⟨0, 0, by decide⟩)
  have hwrite : (ChildRequest.create m).callName ≠ .get := fun hget => by cases hget
  have hnone := h _ _ _ _ _ rest _ hreaches hwrite rfl
  cases hnone

end ClusterOperator

import ClusterOperator.Proofs.Convergence.Replacement
import ClusterOperator.Proofs.Pass.Order

/-!
# Passes beside other clients

While a pass converges the children of its cluster, other clients may write to the store of child
objects at any time. The store replaces a child only when it is given the version that it holds, and
creates only what it does not hold. So a pass never overwrites what it did not read: when the child
has moved since it was read, the write is refused and the pass is to be retried.

* `VersionedStore` : such a store; `VersionedStore.HasMoved`, a child is not what was found any
  more; `VersionedStore.refuses_writeOver`, it is not written then; `ChildStore.versioned`, the one
  in memory;
* `ClusterTurn` : an exchange of a pass, with the store before and after it;
* `written_as_read` : what a pass writes, and what becomes of it when the child has moved;
  `written_as_read_contended`, a service that another client has written in between.
-/

namespace ClusterOperator

open Dialogue ClusterExchange

/-! ## Stores of versions -/

/-- A store of child objects in the states `σ`. It tells what there is, does not create what is
there, and replaces only the version that is given. A call that it refuses changes nothing; it may
refuse for other reasons as well. -/
structure VersionedStore (σ : Type) where
  answer : (q : ChildRequest) → σ → q.Reply × σ
  /-- The children that there are. -/
  live : σ → ChildRef → Option Manifest
  read {r : ChildRef} {s : σ} {found : Option Manifest} (h : (answer (.get r) s).1 = .ok found) :
    found = live s r
  present {m : Manifest} {s : σ} (h : live s m.ref ≠ none) :
    (ChildRequest.create m).Fails (answer (.create m) s).1 ∧ live (answer (.create m) s).2 = live s
  stale {m : Manifest} {s : σ}
    (h : (live s m.ref).map (·.metadata.resourceVersion) ≠ some m.metadata.resourceVersion) :
    (ChildRequest.update m).Fails (answer (.update m) s).1 ∧ live (answer (.update m) s).2 = live s

namespace VersionedStore

variable {σ : Type} (store : VersionedStore σ)

/-- A child is not what was found any more: it has another version, is gone, or has come. -/
def HasMoved (found : Option Manifest) (s : σ) (r : ChildRef) : Prop :=
  (store.live s r).map (·.metadata.resourceVersion) ≠ found.map (·.metadata.resourceVersion)

theorem refuses_writeOver (owner : OwnerReference) {wanted : Manifest} {found : Option Manifest}
    {s : σ} (h : store.HasMoved found s wanted.ref) :
    (writeOver owner wanted found).Fails (store.answer (writeOver owner wanted found) s).1 ∧
      store.live (store.answer (writeOver owner wanted found) s).2 = store.live s := by
  cases found with
  | none =>
    apply store.present
    intro hnone
    rw [Manifest.ref_owned] at hnone
    apply h
    rw [hnone, Option.map_none]
  | some live =>
    apply store.stale
    rw [Manifest.ref_owned, Manifest.ref_carryForward,
      Manifest.resourceVersion_carryForward_owned]
    exact h

end VersionedStore

namespace ChildStore

variable {s : ChildStore} {m : Manifest}

theorem create_refused (h : s.objects.get? m.ref ≠ none) :
    ∃ e, ChildStore.answer (.create m) s = (.error e, s) := by
  obtain ⟨live, hlive⟩ := Option.ne_none_iff_exists'.1 h
  simp [ChildStore.answer, hlive]

theorem update_refused (h : (s.objects.get? m.ref).map (·.metadata.resourceVersion) ≠
      some m.metadata.resourceVersion) :
    ∃ e, ChildStore.answer (.update m) s = (.error e, s) := by
  cases hlive : s.objects.get? m.ref with
  | none => simp [ChildStore.answer, hlive]
  | some live =>
    have hversion : m.metadata.resourceVersion ≠ live.metadata.resourceVersion := by
      intro heq
      apply h
      rw [hlive, heq, Option.map_some]
    simp [ChildStore.answer, hlive, hversion]

def versioned : VersionedStore ChildStore where
  answer := ChildStore.answer
  live s r := s.objects.get? r
  read h := (Except.ok.inj h).symm
  present h := by
    obtain ⟨e, he⟩ := create_refused h
    rw [he]
    exact ⟨⟨e, rfl⟩, rfl⟩
  stale h := by
    obtain ⟨e, he⟩ := update_refused h
    rw [he]
    exact ⟨⟨e, rfl⟩, rfl⟩

end ChildStore

/-! ## Passes -/

/-- An exchange of a pass, with the store of child objects right before it and right after it. From
one to the next, other clients may have written anything to the store. -/
structure ClusterTurn (σ : Type) where
  before : σ
  exchange : ClusterExchange
  after : σ

def ClusterTurn.IsServed {σ : Type} (store : VersionedStore σ) (x : ClusterTurn σ) : Prop :=
  ∀ (q : ChildRequest) (reply : q.Reply), x.exchange = ⟨.child q, reply⟩ →
    store.answer q x.before = (reply, x.after)

/-- Whatever other clients write at any time during a pass over a cluster, what the pass writes of a
child is what it wants in place of what it read of that child right before. If the child has moved
since then, the write fails, what is there stays as it is, no child is called any more, and the pass
fails and is to be retried with back-off. A child that is made and taken away again in between, or
gets the version back that it had, has not moved. -/
theorem written_as_read {σ : Type} (store : VersionedStore σ) {key : Key}
    {earlier later : List (ClusterTurn σ)} {x : ClusterTurn σ}
    {rest : ClusterDialogue (Except PassError Requeue)}
    (h : (reconcileCluster key).Reaches ((earlier ++ x :: later).map (·.exchange)) rest)
    (hserved : ∀ y ∈ earlier ++ x :: later, y.IsServed store) {q : ChildRequest} {reply : q.Reply}
    (hx : x.exchange = ⟨.child q, reply⟩) {m : Manifest} (hm : q.written? = some m) :
    ∃ copy owner read, ∃ wanted ∈ Children.wanted copy, ∃ found : Option Manifest,
      InForce key (earlier.map (·.exchange)) copy ∧ ownerReference copy = .ok owner ∧
      earlier.getLast? = some read ∧ read.exchange = ⟨.child (.get wanted.ref), .ok found⟩ ∧
      found = store.live read.before wanted.ref ∧
      m.ref = wanted.ref ∧ m.IsReplacement found wanted owner ∧
      q = (if found.isSome then .update m else .create m) ∧
      (store.HasMoved found x.before wanted.ref →
        q.Fails reply ∧ store.live x.after = store.live x.before ∧
        (later.map (·.exchange)).filterMap child? = [] ∧
        ∀ (ρ : Type) (answer : (q : ClusterRequest) → ρ → q.Reply × ρ) (s : ρ),
          PassError.BacksOff (rest.run answer s).1) := by
  rw [List.map_append, List.map_cons, hx] at h
  obtain ⟨copy, owner, hcopy, howner, wanted, hwanted, found, hlast, hq, hends⟩ :=
    child_write_reaches (x := ⟨q, reply⟩) h hm
  rw [List.getLast?_map] at hlast
  obtain ⟨read, hread, hexchange⟩ := Option.map_eq_some_iff.1 hlast
  have hfound : found = store.live read.before wanted.ref := by
    have hmem : read ∈ earlier ++ x :: later :=
      List.mem_append_left _ (List.mem_of_getLast? hread)
    apply store.read
    rw [hserved read hmem _ _ hexchange]
  have hanswer : store.answer q x.before = (reply, x.after) :=
    hserved x (List.mem_append_right _ List.mem_cons_self) q reply hx
  dsimp only at hq
  subst hq
  obtain ⟨href, hreplaces, hwrite⟩ := isReplacement_of_writeOver hwanted hm
  refine ⟨copy, owner, read, wanted, hwanted, found, hcopy, howner, hread, hexchange, hfound, href,
    hreplaces, hwrite, fun hmoved => ?_⟩
  have hrefused := store.refuses_writeOver owner hmoved
  rw [hanswer] at hrefused
  obtain ⟨hfails, hkept⟩ := hrefused
  refine ⟨hfails, hkept, hends hfails, fun ρ answer s => ?_⟩
  have halways := (reconcileCluster_showsFailure key).of_reaches h hfails
  exact halways.run answer s

/-- The store of the service, after another client has written the service again. -/
def rewrittenStore : ChildStore :=
  ((ownedStore false).put (ownedService false)).2

def turnsToRead : List (ClusterTurn ChildStore) :=
  [⟨.entity (.fetch exposedCluster.key), .ok (some exposedCluster)⟩, ⟨.entity .clock, "t"⟩,
    ⟨.entity (.publish (exposedCluster.withStatus (exposedCluster.seed "t"))),
      .ok (exposedCluster.withStatus (exposedCluster.seed "t"))⟩,
    ⟨.child (.get ⟨.service, "ns", "demo"⟩), .ok (some (ownedService false))⟩].map
      fun x => ⟨ownedStore false, x, ownedStore false⟩

theorem turnsToRead_isServed : ∀ y ∈ turnsToRead, y.IsServed ChildStore.versioned := by
  intro y hy
  obtain ⟨x, hx, rfl⟩ := List.mem_map.1 hy
  rintro q reply rfl
  rcases List.mem_cons.1 hx with h | hx
  · cases h
  rcases List.mem_cons.1 hx with h | hx
  · cases h
  rcases List.mem_cons.1 hx with h | hx
  · cases h
  · cases List.mem_singleton.1 hx
    rfl

/-- An update of the service after that other client, which is refused. -/
def refusedTurn (m : Manifest) (e : StoreError) : ClusterTurn ChildStore :=
  ⟨rewrittenStore, ⟨.child (.update m), .error e⟩, rewrittenStore⟩

theorem refusedTurn_isServed {m : Manifest} {e : StoreError}
    (h : ChildStore.answer (.update m) rewrittenStore = (.error e, rewrittenStore)) :
    (refusedTurn m e).IsServed ChildStore.versioned := by
  intro q reply hx
  cases hx
  exact h

theorem rewrittenStore_hasMoved :
    ChildStore.versioned.HasMoved (some (ownedService false)) rewrittenStore
      ⟨.service, "ns", "demo"⟩ := by
  show (rewrittenStore.objects.get? ⟨.service, "ns", "demo"⟩).map (·.metadata.resourceVersion) ≠
    some (ownedService false).metadata.resourceVersion
  decide +kernel

theorem refusedTurn_reaches :
    ∃ (m : Manifest) (e : StoreError) (rest : ClusterDialogue (Except PassError Requeue)),
      m.ref = ⟨.service, "ns", "demo"⟩ ∧ (refusedTurn m e).IsServed ChildStore.versioned ∧
      (reconcileCluster exposedCluster.key).Reaches
        ((turnsToRead ++ refusedTurn m e :: []).map ClusterTurn.exchange) rest := by
  obtain ⟨owner, howner, huid⟩ :=
    exists_ownerReference (c := exposedCluster.withStatus (exposedCluster.seed "t")) rfl rfl
  obtain ⟨e, he⟩ := ChildStore.update_refused (s := rewrittenStore)
    (m := ((ownedService false).carryForward
      (.service (Children.service exposedCluster))).owned owner) rewrittenStore_hasMoved
  obtain ⟨_, hchild⟩ := convergeChild_updates (needsUpdate_ownedService false huid _) (.error e)
  obtain ⟨left, hleft⟩ := convergeChildren_first howner rfl hchild
  have hspec : (exposedCluster.withStatus (exposedCluster.seed "t")).spec.validate = .ok () := by
    show exposedCluster.spec.validate = .ok ()
    decide
  obtain ⟨rest, hpass⟩ := reconcileCluster_calls exposedCluster.key (c := exposedCluster) rfl rfl
    hspec hleft "t"
  exact ⟨_, e, rest, rfl, refusedTurn_isServed he, hpass⟩

/-- Another client writes the service between its read and its update: the update carries the
version that was read, the service stays as the other client wrote it, and the pass is retried. -/
theorem written_as_read_contended :
    ∃ (m : Manifest) (e : StoreError) (rest : ClusterDialogue (Except PassError Requeue)),
      (reconcileCluster exposedCluster.key).Reaches
        ((turnsToRead ++ refusedTurn m e :: []).map ClusterTurn.exchange) rest ∧
      m.metadata.resourceVersion = some "1" ∧
      ∀ (ρ : Type) (answer : (q : ClusterRequest) → ρ → q.Reply × ρ) (s : ρ),
        PassError.BacksOff (rest.run answer s).1 := by
  obtain ⟨m, e, rest, href, hserved, h⟩ := refusedTurn_reaches
  have hall : ∀ y ∈ turnsToRead ++ refusedTurn m e :: [], y.IsServed ChildStore.versioned := by
    intro y hy
    rcases List.mem_append.1 hy with hy | hy
    · exact turnsToRead_isServed y hy
    · rwa [List.mem_singleton.1 hy]
  obtain ⟨copy, owner, read, wanted, -, found, -, -, hread, -, hfound, hwanted, hreplaces, -,
    hrefused⟩ := written_as_read ChildStore.versioned h hall rfl rfl
  obtain rfl := Option.some.inj hread
  rw [← hwanted, href] at hfound hrefused
  obtain rfl : found = some (ownedService false) := hfound
  exact ⟨m, e, rest, h, hreplaces.version, (hrefused rewrittenStore_hasMoved).2.2.2⟩

end ClusterOperator

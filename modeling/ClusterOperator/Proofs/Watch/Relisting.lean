import ClusterOperator.Controller.Basic
import ClusterOperator.Proofs.Queue.Delivery
import ClusterOperator.Proofs.Watch.Filter

/-!
# Children that a new listing leaves out

A watch that was interrupted lists the objects anew. It tells of those that exist now, and of no
deletion. What is left out of a listing is told by its absence only, and the children's watch
remembers nothing that it could miss.

* `WatchEvent.relisting` : the events of a complete listing; `Follower.list_eq`, a follower that
  lists brings those, or fails;
* `WatchEvent.Knows` : a child was told of, and not its deletion since;
* `WatchStep`, `WatchStep.queueEvents` : the children's watch among the users of a queue;
  `Controller.after?_told`, the queue of a controller that hears of children;
* `vanished_child_noticed_iff` : when a listing that leaves a child out adds the key of its owner;
  `vanished_child_noticed_by_sibling`, one that does;
* `vanished_child_missed` : one that does not.
-/

namespace ClusterOperator

/-! ## Listings -/

namespace WatchEvent

def relisting (objects : List Metadata) : List WatchEvent :=
  .listing :: objects.map .listed ++ [.listingDone]

/-- A child was told of, and its deletion was not told of since. -/
def Knows (es : List WatchEvent) (child : Metadata) : Prop :=
  ∃ before e after, es = before ++ e :: after ∧ (e = .listed child ∨ e = .applied child) ∧
    ∀ o, .deleted o ∈ after → o.key ≠ child.key

theorem mem_relisting {objects : List Metadata} {e : WatchEvent} :
    e ∈ relisting objects ↔
      e = .listing ∨ (∃ o ∈ objects, e = .listed o) ∨ e = .listingDone := by
  unfold relisting
  simp [eq_comm]

end WatchEvent

/-- A follower that lists brings the events of a complete listing, or starts one and fails. -/
theorem Follower.list_eq (f : Follower) (now : Nat) (api : ApiServer) :
    (∃ objects, (f.list now api).1 = WatchEvent.relisting objects) ∨
      (f.list now api).1 = [.listing] := by
  unfold Follower.list
  dsimp only
  split
  · next objects _ _ => exact Or.inl ⟨objects, rfl⟩
  · exact Or.inr rfl

/-! ## The children's watch and the queue -/

inductive WatchStep where
  /-- The watch tells of an event, and its key is added. -/
  | told (e : WatchEvent)
  /-- Something else happens to the queue. -/
  | other (f : QueueEvent Key)

namespace WatchStep

def queueEvents : WatchStep → List (QueueEvent Key)
  | .told e => (ownedSignals e).map .add
  | .other f => [f]

def told? : WatchStep → Option WatchEvent
  | .told e => some e
  | .other _ => none

theorem told_mem {steps : List WatchStep} {e : WatchEvent} (h : e ∈ steps.filterMap told?) :
    .told e ∈ steps := by
  obtain ⟨x, hx, he⟩ := List.mem_filterMap.1 h
  cases x with
  | told f =>
    rw [told?, Option.some.injEq] at he
    rwa [← he]
  | other f => cases he

/-- A step that adds a key tells of a child that the key owns, or is somebody else's. -/
theorem signal_queueEvents {x : WatchStep} {f : QueueEvent Key} {k : Key} (hf : f ∈ x.queueEvents)
    (hk : f.signal? = some k) :
    (∃ e o, x = .told e ∧ e.object? = some o ∧ ownerKey o = some k) ∨ x = .other f := by
  cases x with
  | other g => exact Or.inr (congrArg other (List.mem_singleton.1 hf).symm)
  | told e =>
    obtain ⟨l, hl, rfl⟩ := List.mem_map.1 hf
    obtain rfl : l = k := Option.some.inj hk
    refine Or.inl ?_
    cases e with
    | listing | listingDone => cases hl
    | listed o | applied o | deleted o => exact ⟨_, o, rfl, rfl, Option.mem_toList.1 hl⟩

end WatchStep

namespace QueueRun

variable {κ : Type} [DecidableEq κ] {s t : QueueRun κ} {es : List (QueueEvent κ)} {k : κ}

theorem after?_add (s : QueueRun κ) (keys : List κ) :
    s.after? (keys.map .add) = some { s with queue := keys.foldl WorkQueue.add s.queue } := by
  induction keys generalizing s with
  | nil => rfl
  | cons k keys ih =>
    rw [List.map_cons, after?_cons]
    exact ⟨_, rfl, ih _⟩

theorem not_mem_dirty_of_after? (h : s.after? es = some t) (hes : ∀ e ∈ es, e.signal? ≠ some k)
    (hk : k ∉ s.queue.dirty) : k ∉ t.queue.dirty := by
  induction es generalizing s with
  | nil => cases h; exact hk
  | cons e es ih =>
    obtain ⟨u, hu, h⟩ := after?_cons.1 h
    obtain ⟨he, hes⟩ := List.forall_mem_cons.1 hes
    exact ih h hes ((occur?_standing hu).not_mem_dirty he hk)

end QueueRun

theorem Controller.after?_told (c : Controller) (s : QueueRun Key) (h : s.queue = c.pool.queue)
    (es : List WatchEvent) :
    s.after? ((es.map WatchStep.told).flatMap WatchStep.queueEvents) =
      some { s with queue := (c.signal (es.flatMap ownedSignals)).pool.queue } := by
  have hadds : (es.map WatchStep.told).flatMap WatchStep.queueEvents =
      (es.flatMap ownedSignals).map .add := by
    rw [List.flatMap_map, List.map_flatMap]
    rfl
  rw [hadds, QueueRun.after?_add, h]
  rfl

/-! ## Every listing -/

section

variable {s t : QueueRun Key} {relist : List WatchStep} {objects : List Metadata} {k : Key}

/-- A complete listing, heard while the queue is in use, leaves a child out. Nobody else adds the
key of the owner meanwhile. Then the key comes to be dirty at some point of the listing, its end
included, exactly if another child of the owner is listed. What was told before the listing, and of
which children, plays no part. -/
theorem vanished_child_noticed_iff (h : s.after? (relist.flatMap WatchStep.queueEvents) = some t)
    (hopen : t.queue.isShutDown = false)
    (hrelist : relist.filterMap WatchStep.told? = WatchEvent.relisting objects)
    {child : Metadata} (hgone : ∀ o ∈ objects, o.key ≠ child.key) (hidle : k ∉ s.queue.dirty)
    (hothers : ∀ f, .other f ∈ relist → f.signal? ≠ some k) :
    (∃ early late u, relist = early ++ late ∧
      s.after? (early.flatMap WatchStep.queueEvents) = some u ∧ k ∈ u.queue.dirty) ↔
    ∃ sibling ∈ objects, sibling.key ≠ child.key ∧ ownerKey sibling = some k := by
  constructor
  · rintro ⟨early, late, u, rfl, hu, hk⟩
    by_contra hnone
    refine QueueRun.not_mem_dirty_of_after? hu (fun f hf hsignal => ?_) hidle hk
    obtain ⟨x, hx, hfx⟩ := List.mem_flatMap.1 hf
    have hmem : x ∈ early ++ late := List.mem_append_left late hx
    rcases WatchStep.signal_queueEvents hfx hsignal with ⟨e, o, rfl, ho, howner⟩ | rfl
    · have he : e ∈ WatchEvent.relisting objects := by
        rw [← hrelist]
        exact List.mem_filterMap.2 ⟨_, hmem, rfl⟩
      rcases WatchEvent.mem_relisting.1 he with rfl | ⟨o', hlisted, rfl⟩ | rfl
      · cases ho
      · cases ho
        exact hnone ⟨o, hlisted, hgone o hlisted, howner⟩
      · cases ho
    · exact hothers f hmem hsignal
  · rintro ⟨sibling, hlisted, -, howner⟩
    have htold : .told (.listed sibling) ∈ relist := by
      apply WatchStep.told_mem
      rw [hrelist]
      exact WatchEvent.mem_relisting.2 (Or.inr (Or.inl ⟨sibling, hlisted, rfl⟩))
    obtain ⟨early, late, rfl⟩ := List.append_of_mem htold
    rw [List.flatMap_append, List.flatMap_cons, QueueRun.after?_append] at h
    obtain ⟨r, hr, h⟩ := h
    obtain ⟨u, hu, h⟩ := QueueRun.after?_append.1 h
    refine ⟨early ++ [.told (.listed sibling)], late, u, by simp, ?_, ?_⟩
    · rw [List.flatMap_append, QueueRun.after?_append]
      exact ⟨r, hr, by simpa using hu⟩
    · have hadd : WatchStep.queueEvents (.told (.listed sibling)) = [.add k] := by
        simp [WatchStep.queueEvents, ownedSignals, howner]
      rw [hadd, QueueRun.after?_singleton] at hu
      have huopen := QueueRun.not_isShutDown_of_after? h hopen
      exact (QueueRun.occur?_standing hu).mem_dirty_of_signal rfl huopen

def ownedChild (name : String) : Metadata where
  name := some name
  namespaceName := some "team-a"
  ownerReferences := some
    [{ apiVersion, kind := Managed.kindName ClusterSpec, name := "demo", controller := some true }]

/-- A child is gone, and another one of its owner is listed. -/
theorem vanished_child_noticed_by_sibling :
    ∃ early late u,
      [.told .listing, .other (.tick 5), .told (.listed (ownedChild "demo-canary")),
        .told .listingDone] = early ++ late ∧
      (QueueRun.start {}).after? (early.flatMap WatchStep.queueEvents) = some u ∧
      (⟨"team-a", "demo"⟩ : Key) ∈ u.queue.dirty := by
  have hgone : ∀ o ∈ [ownedChild "demo-canary"], o.key ≠ (ownedChild "demo").key := by decide
  have hrelist : [WatchStep.told .listing, .other (.tick 5),
      .told (.listed (ownedChild "demo-canary")), .told .listingDone].filterMap WatchStep.told? =
        WatchEvent.relisting [ownedChild "demo-canary"] := rfl
  have hiff := vanished_child_noticed_iff (s := QueueRun.start {}) (k := ⟨"team-a", "demo"⟩) rfl rfl
    hrelist hgone (by decide) (by simp [QueueEvent.signal?])
  exact hiff.2 ⟨ownedChild "demo-canary", List.mem_cons_self, by decide, by decide⟩

/-- A child was told of, its owner's key was handed out and released, and the child is deleted while
the watch is interrupted. The next listing leaves it out, and nothing adds the key. -/
theorem vanished_child_missed :
    ¬ ∀ (history relist : List WatchStep) (s t : QueueRun Key) (objects : List Metadata)
      (child : Metadata) (k : Key),
      (QueueRun.start {}).after? (history.flatMap WatchStep.queueEvents) = some s →
      s.after? (relist.flatMap WatchStep.queueEvents) = some t → t.queue.isShutDown = false →
      relist.filterMap WatchStep.told? = WatchEvent.relisting objects →
      WatchEvent.Knows (history.filterMap WatchStep.told?) child → ownerKey child = some k →
      (∀ o ∈ objects, o.key ≠ child.key) →
      ∃ early late u, relist = early ++ late ∧
        s.after? (early.flatMap WatchStep.queueEvents) = some u ∧ k ∈ u.queue.dirty := by
  intro h
  have hknows : WatchEvent.Knows ([.listing, .listed (ownedChild "demo"), .listingDone])
      (ownedChild "demo") := ⟨[.listing], _, [.listingDone], rfl, Or.inl rfl, by simp⟩
  obtain ⟨early, late, u, hsplit, hu, hk⟩ := h
    [.told .listing, .told (.listed (ownedChild "demo")), .told .listingDone,
      .other (.next 0 (.key ⟨"team-a", "demo"⟩)), .other (.done 0 ⟨"team-a", "demo"⟩)]
    [.told .listing, .told .listingDone] _ _ [] (ownedChild "demo") ⟨"team-a", "demo"⟩
    rfl rfl rfl rfl hknows (by decide) (by simp)
  refine QueueRun.not_mem_dirty_of_after? hu (fun f hf => ?_) (by decide) hk
  obtain ⟨x, hx, hfx⟩ := List.mem_flatMap.1 hf
  have hmem := hsplit ▸ List.mem_append_left late hx
  simp only [List.mem_cons, List.not_mem_nil, or_false] at hmem
  rcases hmem with rfl | rfl <;> cases hfx

end

end ClusterOperator

import ClusterOperator.Controller.Basic
import ClusterOperator.Proofs.Watch.Filter

/-!
# Incarnations of an entity

An entity that is deleted and made again is another object under the same key. Its generations are
counted anew, and the filter, which knows generations only, takes it for the old object when the
deletion was not told and the generation is the same.

* `Controller.filter_hearEntities` : the filter of a controller after the events that it heard;
* `told_entity_added` : which told entities are added to the queue, whatever was told before;
* `relisted_incarnation_missed` : an incarnation that is only found by a new listing is missed.
-/

namespace ClusterOperator

namespace Controller

theorem filter_hearEntities (c : Controller) (es : List WatchEvent) :
    (c.hearEntities es).filter = c.filter.after es := by
  induction es generalizing c with
  | nil => rfl
  | cons e es ih => exact ih _

/-- An entity that a watch tells of is added unless the filter saw its generation last. -/
theorem queue_hearEntities_of_told (c : Controller) {e : WatchEvent} {o : Metadata}
    (he : e = .listed o ∨ e = .applied o) :
    (c.hearEntities [e]).pool.queue =
      if c.filter.seen.get? o.key = some o.generation then c.pool.queue
      else c.pool.queue.add o.key := by
  show (c.filter.handle e).1.foldl WorkQueue.add c.pool.queue = _
  rw [c.filter.handle_of_told o he]
  split <;> rfl

end Controller

/-- A controller hears some events, and its pool goes on meanwhile. Then an entity that the watch
tells of, by itself or in a listing, is added to the queue, unless the last event about its key
told the same generation; a deletion tells none. Who the object is does not matter, nor what was
told of other keys. -/
theorem told_entity_added {c : Controller} (hc : c.filter = {}) (es : List WatchEvent)
    (pool : Pool Key) {e : WatchEvent} {o : Metadata} (he : e = .listed o ∨ e = .applied o) :
    ({ c.hearEntities es with pool }.hearEntities [e]).pool.queue =
      if (lastAbout? o.key es).bind WatchEvent.generation? = some o.generation then pool.queue
      else pool.queue.add o.key := by
  have hseen : (c.hearEntities es).filter.seen.get? o.key =
      (lastAbout? o.key es).bind WatchEvent.generation? := by
    rw [c.filter_hearEntities, hc]
    exact GenerationFilter.seen_after es
  rw [Controller.queue_hearEntities_of_told _ he, ← hseen]

def firstGeneration (uid : String) : Metadata where
  name := some "demo"
  namespaceName := some "team-a"
  uid := some uid
  generation := some 1

/-- The new incarnation is added when the deletion of the old one was told. -/
theorem told_entity_added_after_deletion :
    ({ (Controller.ofClusters {}).hearEntities
          [.listing, .listed (firstGeneration "u"), .listingDone, .deleted (firstGeneration "u")]
        with pool := Pool.ofSize {} 1 }.hearEntities [.applied (firstGeneration "v")]).pool.queue =
      (Pool.ofSize {} 1).queue.add ⟨"team-a", "demo"⟩ :=
  told_entity_added (c := Controller.ofClusters {}) rfl _ _ (o := firstGeneration "v") (.inr rfl)

/-- Between two listings an entity is deleted and made again, and the watch tells of neither. The
new incarnation has another identity than the object that was told last, but is not added. -/
theorem relisted_incarnation_missed :
    ¬ ∀ (c : Controller) (es : List WatchEvent) (pool : Pool Key) (e last : WatchEvent)
      (o : Metadata), c.filter = {} → (e = .listed o ∨ e = .applied o) →
      lastAbout? o.key es = some last → last.object?.all (·.uid ≠ o.uid) →
      ({ c.hearEntities es with pool }.hearEntities [e]).pool.queue = pool.queue.add o.key := by
  intro h
  have hadded := h (Controller.ofClusters {})
    [.listing, .listed (firstGeneration "u"), .listingDone, .listing] (Pool.ofSize {} 1)
    (.listed (firstGeneration "v")) (.listed (firstGeneration "u")) (firstGeneration "v") rfl
    (.inl rfl) (by decide) (by decide)
  have hempty : (Pool.ofSize {} 1 : Pool Key).queue.queue = [⟨"team-a", "demo"⟩] :=
    congrArg WorkQueue.queue hadded
  cases hempty

end ClusterOperator

import ClusterOperator.Watch.Event
import Mathlib.Data.List.Induction

/-!
# What the filter remembers

The filter remembers of each key the generation that the last event about it told, and nothing
after a deletion. Of the identity of an object it knows nothing.

* `WatchEvent.object?` : the object that an event is about; `lastAbout?`, the last event about a
  key;
* `GenerationFilter.handle_of_told`, `GenerationFilter.seen_handle_of_ne` : one event;
* `GenerationFilter.after` : the filter after several events, `GenerationFilter.seen_after`.
-/

namespace ClusterOperator

def WatchEvent.object? : WatchEvent → Option Metadata
  | .listed object | .applied object | .deleted object => some object
  | .listing | .listingDone => none

/-- The generation that an event tells. A deletion tells none. -/
def WatchEvent.generation? : WatchEvent → Option (Option Int64)
  | .listed object | .applied object => some object.generation
  | .deleted _ | .listing | .listingDone => none

def lastAbout? (key : Key) (es : List WatchEvent) : Option WatchEvent :=
  es.reverse.find? (·.object?.any (·.key = key))

theorem lastAbout?_concat (key : Key) (es : List WatchEvent) (e : WatchEvent) :
    lastAbout? key (es ++ [e]) =
      if e.object?.any (·.key = key) then some e else lastAbout? key es := by
  unfold lastAbout?
  rw [List.reverse_append, List.reverse_singleton, List.singleton_append, List.find?_cons]
  split
  · next h => rw [if_pos h]
  · next h => rw [if_neg (by rw [h]; exact Bool.false_ne_true)]

namespace GenerationFilter

variable {key : Key}

/-- The watch tells of an object. The filter lets its key through unless it saw its generation
last. -/
theorem handle_of_told (f : GenerationFilter) (m : Metadata) {event : WatchEvent}
    (h : event = .listed m ∨ event = .applied m) :
    f.handle event = (if f.seen.get? m.key = some m.generation then [] else [m.key],
      ⟨f.seen.insert m.key m.generation⟩) := by
  have he : f.handle event = ((f.observe m).1.toList, (f.observe m).2) := by
    rcases h with rfl | rfl <;> rfl
  rw [he, GenerationFilter.observe]
  dsimp only
  split <;> rfl

theorem seen_handle_of_ne (f : GenerationFilter) {event : WatchEvent}
    (h : ∀ m ∈ event.object?, m.key ≠ key) :
    (f.handle event).2.seen.get? key = f.seen.get? key := by
  cases event with
  | listing | listingDone => rfl
  | listed m | applied m =>
    have hm := Ne.symm (h m rfl)
    rw [handle_of_told f m (by simp), Dict.get?_insert, if_neg hm]
  | deleted m =>
    have hm := Ne.symm (h m rfl)
    exact (Dict.get?_erase _ _ _).trans (if_neg hm)

theorem seen_handle_of_eq (f : GenerationFilter) {event : WatchEvent} {m : Metadata}
    (h : event.object? = some m) (hm : m.key = key) :
    (f.handle event).2.seen.get? key = event.generation? := by
  subst hm
  cases event with
  | listing | listingDone => cases h
  | listed n | applied n =>
    cases h
    rw [handle_of_told f m (by simp), Dict.get?_insert, if_pos rfl]
    rfl
  | deleted n =>
    cases h
    exact (Dict.get?_erase _ _ _).trans (if_pos rfl)

def after (f : GenerationFilter) (es : List WatchEvent) : GenerationFilter :=
  es.foldl (fun f e => (f.handle e).2) f

theorem after_concat (f : GenerationFilter) (es : List WatchEvent) (e : WatchEvent) :
    f.after (es ++ [e]) = ((f.after es).handle e).2 := by
  rw [after, List.foldl_append]
  rfl

theorem seen_after (es : List WatchEvent) :
    (after {} es).seen.get? key = (lastAbout? key es).bind WatchEvent.generation? := by
  induction es using List.reverseRecOn with
  | nil => rfl
  | append_singleton es e ih =>
    rw [after_concat, lastAbout?_concat]
    cases ho : e.object? with
    | none =>
      rw [seen_handle_of_ne _ (by simp [ho]), ih]
      rfl
    | some m =>
      by_cases hm : m.key = key
      · rw [seen_handle_of_eq _ ho hm, Option.any_some, if_pos (decide_eq_true hm)]
        rfl
      · rw [seen_handle_of_ne _ (by simp [ho, hm]), ih, Option.any_some,
          if_neg (by simpa using hm)]

end GenerationFilter

end ClusterOperator

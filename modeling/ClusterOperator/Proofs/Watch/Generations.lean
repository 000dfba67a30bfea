import ClusterOperator.Proofs.Watch.Filter

/-!
# Which observations a filter lets through

A filter is called for one object after the other. Whether it lets an object through depends on the
last call for the key of this object alone.

* `GenerationFilter.Call` : a call, with `Call.isAbout`, whose object has a key;
* `GenerationFilter.afterCalls`, `GenerationFilter.lastCall?` : a new filter after calls, the last
  of them for a key;
* `GenerationFilter.seen_afterCalls` : what the filter remembers of a key after calls;
* `observed_iff_last_call_differs` : which objects are let through after any calls.
-/

namespace ClusterOperator

namespace GenerationFilter

inductive Call where
  | observe (object : Metadata)
  | forget (object : Metadata)

namespace Call

def object : Call → Metadata
  | .observe object | .forget object => object

/-- A call is for an object with this key: it is in the namespace, and has the name, or the prefix
that its name is generated from if it has none. -/
def isAbout (key : Key) (c : Call) : Bool :=
  c.object.key = key

def apply (f : GenerationFilter) : Call → GenerationFilter
  | .observe object => (f.observe object).2
  | .forget object => (f.forget object).2

/-- The event of a watch that leads to a call. -/
def event : Call → WatchEvent
  | .observe object => .applied object
  | .forget object => .deleted object

/-- The generation that a call leaves for the key of its object. -/
def generation? (c : Call) : Option (Option Int64) :=
  c.event.generation?

theorem apply_eq_handle (f : GenerationFilter) (c : Call) : c.apply f = (f.handle c.event).2 := by
  cases c <;> rfl

theorem any_object?_event (key : Key) (c : Call) :
    c.event.object?.any (·.key = key) = c.isAbout key := by
  cases c <;> rfl

end Call

def afterCalls (calls : List Call) : GenerationFilter :=
  calls.foldl Call.apply {}

def lastCall? (key : Key) (calls : List Call) : Option Call :=
  calls.reverse.find? (·.isAbout key)

theorem afterCalls_eq_after (calls : List Call) :
    afterCalls calls = after {} (calls.map Call.event) := by
  unfold afterCalls after
  rw [List.foldl_map]
  congr 1
  funext f c
  exact c.apply_eq_handle f

theorem lastAbout?_map_event (key : Key) (calls : List Call) :
    lastAbout? key (calls.map Call.event) = (lastCall? key calls).map Call.event := by
  unfold lastAbout? lastCall?
  rw [← List.map_reverse, List.find?_map]
  congr 2
  funext c
  exact c.any_object?_event key

theorem seen_afterCalls (key : Key) (calls : List Call) :
    (afterCalls calls).seen.get? key = (lastCall? key calls).bind Call.generation? := by
  rw [afterCalls_eq_after, seen_after, lastAbout?_map_event, Option.bind_map]
  rfl

theorem observe_afterCalls (calls : List Call) (m : Metadata) :
    ((afterCalls calls).observe m).1 =
      if (lastCall? m.key calls).bind Call.generation? = some m.generation then none
      else some m.key := by
  unfold observe
  dsimp only
  rw [seen_afterCalls]

theorem lastCall?_bind_generation? (key : Key) (calls : List Call) (g : Option Int64) :
    (lastCall? key calls).bind Call.generation? ≠ some g ↔
      lastCall? key calls = none ∨ (∃ n, lastCall? key calls = some (.forget n)) ∨
        ∃ n, lastCall? key calls = some (.observe n) ∧ n.generation ≠ g := by
  rcases lastCall? key calls with _ | (n | n) <;>
    simp [Call.generation?, Call.event, WatchEvent.generation?]

theorem lastCall?_filter (key : Key) (calls : List Call) :
    lastCall? key (calls.filter (·.isAbout key)) = lastCall? key calls := by
  unfold lastCall?
  rw [← List.filter_reverse, List.find?_filter]
  congr 1
  funext c
  simp

end GenerationFilter

open GenerationFilter

/-- After any calls of a new filter, for any objects, an object that is observed is let through
under its key exactly if there was no call for this key, or the last one forgot it, or the last one
observed another generation, where no generation is another one than any. Otherwise nothing is let
through. Calls for other keys make no difference. -/
theorem observed_iff_last_call_differs (calls : List GenerationFilter.Call) (m : Metadata) :
    (((afterCalls calls).observe m).1 = some m.key ↔
      lastCall? m.key calls = none ∨
      (∃ n, lastCall? m.key calls = some (.forget n)) ∨
      ∃ n, lastCall? m.key calls = some (.observe n) ∧ n.generation ≠ m.generation) ∧
    (((afterCalls calls).observe m).1 = none ∨ ((afterCalls calls).observe m).1 = some m.key) ∧
    ((afterCalls (calls.filter (·.isAbout m.key))).observe m).1 =
      ((afterCalls calls).observe m).1 := by
  refine ⟨?_, ?_, ?_⟩
  · rw [observe_afterCalls, ← lastCall?_bind_generation?]
    split
    · next h => simp [h]
    · next h => simp [h]
  · rw [observe_afterCalls]
    split
    · exact Or.inl rfl
    · exact Or.inr rfl
  · rw [observe_afterCalls, observe_afterCalls, lastCall?_filter]

/-- A generation that falls is let through, also when another key told it meanwhile. -/
example : ((afterCalls [.observe { name := some "a", generation := some 2 },
      .observe { generateName := some "b", generation := some 1 }]).observe
    { name := some "a", generation := some 1 }).1 = some ⟨"", "a"⟩ := by
  decide

end ClusterOperator

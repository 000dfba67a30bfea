/-!
# Finite maps

`Dict κ ν` is a finite map from `κ` to `ν` as a list of pairs. Every operation is described by
what it does to `get?`: `get?_insert`, `get?_erase`.
-/

namespace ClusterOperator

structure Dict (κ ν : Type) where
  entries : List (κ × ν) := []
  deriving DecidableEq, Repr, Inhabited

namespace Dict

variable {κ ν : Type} [DecidableEq κ]

def get? (d : Dict κ ν) (k : κ) : Option ν :=
  (d.entries.find? (·.1 = k)).map (·.2)

def contains (d : Dict κ ν) (k : κ) : Bool :=
  (d.get? k).isSome

def erase (d : Dict κ ν) (k : κ) : Dict κ ν :=
  ⟨d.entries.filter (·.1 ≠ k)⟩

def insert (d : Dict κ ν) (k : κ) (v : ν) : Dict κ ν :=
  ⟨d.entries.filter (·.1 ≠ k) ++ [(k, v)]⟩

/-- The map of a list of pairs, the last of which count. -/
def ofList (l : List (κ × ν)) : Dict κ ν :=
  l.foldl (fun d (k, v) => d.insert k v) {}

def keys (d : Dict κ ν) : List κ :=
  d.entries.map (·.1)

@[simp] theorem get?_empty (k : κ) : ({} : Dict κ ν).get? k = none := rfl

theorem get?_erase (d : Dict κ ν) (k l : κ) :
    (d.erase k).get? l = if l = k then none else d.get? l := by
  simp only [get?, erase, List.find?_filter]
  split
  · next h =>
    subst h
    rw [List.find?_eq_none.2 (by simp)]
    rfl
  · next h =>
    congr 1
    congr 1
    funext p
    by_cases hp : p.1 = l
    · simp [hp, h]
    · simp [hp]

theorem get?_insert (d : Dict κ ν) (k l : κ) (v : ν) :
    (d.insert k v).get? l = if l = k then some v else d.get? l := by
  have e : (d.insert k v).get? l =
      ((d.erase k).get? l).or (if k = l then some v else none) := by
    simp only [get?, insert, erase, List.find?_append, Option.map_or]
    congr 1
    by_cases h : k = l <;> simp [h]
  rw [e, get?_erase]
  by_cases h : l = k
  · simp [h]
  · simp [h, Ne.symm h]

end Dict

end ClusterOperator

/-!
# JSON values

* `Json` : a JSON value as its text spells it: members keep their order and may repeat, and a
  whole number is kept apart from one with a fraction or an exponent;
* `Json.find?`, `Json.erase` : members by name;
* `Json.untyped` : the value without repeated members, the last of which counts;
* `Json.merge` : the merge patch of RFC 7386.
-/

namespace ClusterOperator

/-- A JSON value. `unreadable` stands for a value that is well formed enough to be skipped but
cannot be read: a number out of range, half of a surrogate pair, or brackets nested too deeply. -/
inductive Json where
  | null
  | bool (b : Bool)
  | int (n : Int)
  | real (text : String)
  | str (s : String)
  | arr (items : List Json)
  | obj (members : List (String × Json))
  | unreadable
  deriving Inhabited, Repr

namespace Json

/-! ## Equality -/

mutual

def same : Json → Json → Bool
  | .null, .null => true
  | .bool a, .bool b => a == b
  | .int m, .int n => m == n
  | .real s, .real t => s == t
  | .str s, .str t => s == t
  | .arr xs, .arr ys => sameItems xs ys
  | .obj xs, .obj ys => sameMembers xs ys
  | .unreadable, .unreadable => true
  | _, _ => false

def sameItems : List Json → List Json → Bool
  | [], [] => true
  | x :: xs, y :: ys => same x y && sameItems xs ys
  | _, _ => false

def sameMembers : List (String × Json) → List (String × Json) → Bool
  | [], [] => true
  | (k, x) :: xs, (l, y) :: ys => k == l && same x y && sameMembers xs ys
  | _, _ => false

end

mutual

theorem same_iff (a b : Json) : same a b ↔ a = b := by
  match a, b with
  | .arr xs, .arr ys => simp [same, sameItems_iff xs ys]
  | .obj xs, .obj ys => simp [same, sameMembers_iff xs ys]
  | .null, b => cases b <;> simp [same]
  | .bool x, b => cases b <;> simp [same]
  | .int x, b => cases b <;> simp [same]
  | .real x, b => cases b <;> simp [same]
  | .str x, b => cases b <;> simp [same]
  | .unreadable, b => cases b <;> simp [same]
  | .arr x, .null => simp [same]
  | .arr x, .bool _ => simp [same]
  | .arr x, .int _ => simp [same]
  | .arr x, .real _ => simp [same]
  | .arr x, .str _ => simp [same]
  | .arr x, .obj _ => simp [same]
  | .arr x, .unreadable => simp [same]
  | .obj x, .null => simp [same]
  | .obj x, .bool _ => simp [same]
  | .obj x, .int _ => simp [same]
  | .obj x, .real _ => simp [same]
  | .obj x, .str _ => simp [same]
  | .obj x, .arr _ => simp [same]
  | .obj x, .unreadable => simp [same]

theorem sameItems_iff (xs ys : List Json) : sameItems xs ys ↔ xs = ys := by
  match xs, ys with
  | [], ys => cases ys <;> simp [sameItems]
  | x :: xs, [] => simp [sameItems]
  | x :: xs, y :: ys => simp [sameItems, same_iff x y, sameItems_iff xs ys]

theorem sameMembers_iff (xs ys : List (String × Json)) : sameMembers xs ys ↔ xs = ys := by
  match xs, ys with
  | [], ys => cases ys <;> simp [sameMembers]
  | x :: xs, [] => simp [sameMembers]
  | (k, x) :: xs, (l, y) :: ys =>
    simp [sameMembers, same_iff x y, sameMembers_iff xs ys]

end

instance : DecidableEq Json := fun a b => decidable_of_iff _ (same_iff a b)

/-! ## Members -/

/-- The last member called `name` of a list of members. -/
def lastMember? (name : String) (members : List (String × Json)) : Option Json :=
  (members.reverse.find? (·.1 = name)).map (·.2)

/-- The member called `name` of an object; of several, the last. -/
def find? (name : String) : Json → Option Json
  | .obj members => lastMember? name members
  | _ => none

/-- An object without its members called `name`. -/
def erase (name : String) : Json → Json
  | .obj members => .obj (members.filter (·.1 ≠ name))
  | j => j

/-- An object with the member `name` set to `value`. -/
def insert (j : Json) (name : String) (value : Json) : Json :=
  match j with
  | .obj members => .obj (members.filter (·.1 ≠ name) ++ [(name, value)])
  | j => j

mutual

/-- The value with the last of repeated members only; none if a part of it cannot be read. -/
def untyped : Json → Option Json
  | .arr items => (untypedItems items).map .arr
  | .obj members => (untypedMembers members).map .obj
  | .unreadable => none
  | j => some j

def untypedItems : List Json → Option (List Json)
  | [] => some []
  | x :: rest =>
    match untyped x, untypedItems rest with
    | some y, some ys => some (y :: ys)
    | _, _ => none

/-- The members of an object, each as an untyped value; a later one hides an earlier one. -/
def untypedMembers : List (String × Json) → Option (List (String × Json))
  | [] => some []
  | (k, x) :: rest =>
    match untyped x, untypedMembers rest with
    | some y, some ys => some (if ys.any (·.1 = k) then ys else (k, y) :: ys)
    | _, _ => none

end

/-! ## Merge patch -/

mutual

/-- The value that the merge patch `patch` makes of `target`: the members of a patch that is an
object are merged into the target, `null` removes a member, and any other patch replaces the
target. -/
def merge (target patch : Json) : Json :=
  match patch with
  | .obj members =>
    .obj (mergeMembers (match target with | .obj old => old | _ => []) members)
  | p => p

/-- The members that a patch's members make of the members of an object. -/
def mergeMembers (old patch : List (String × Json)) : List (String × Json) :=
  match patch with
  | [] => old
  | (k, .null) :: rest => mergeMembers (old.filter (·.1 ≠ k)) rest
  | (k, p) :: rest =>
    mergeMembers
      (old.filter (·.1 ≠ k) ++ [(k, merge ((lastMember? k old).getD .null) p)]) rest

end

end Json

end ClusterOperator

import ClusterOperator.Json.Basic

/-!
# Records in JSON

A record is written as an object and read from an object, whose unknown members are ignored, or
from an array that lists the members in their declared order.

* `Json.record` : the object of the members that are present;
* `Json.slots?` : what a record holds under each of its names;
* `Slot.required`, `Slot.optional`, `Slot.optionalAtEnd`, `Slot.orDefault`, `Slot.nullable` :
  the ways to read a member;
* `readString?`, `readBool?`, `readInt32?`, `readInt64?`, `readList?`, `readVariant?` : scalars,
  lists and names of variants.
-/

namespace ClusterOperator

/-- What a record holds under one of its names. -/
inductive Slot where
  /-- A value, maybe null. -/
  | given (value : Json)
  /-- Nothing: the object has no such member. -/
  | omitted
  /-- Nothing: the array ends before the member. -/
  | cutOff

namespace Slot

variable {α : Type} (read : Json → Option α)

/-- A member that has to be given. -/
def required : Slot → Option α
  | .given v => read v
  | _ => none

/-- A member that is absent when null or omitted; an array has to reach it. -/
def optional : Slot → Option (Option α)
  | .given .null => some none
  | .given v => (read v).map some
  | .omitted => some none
  | .cutOff => none

/-- A member that is absent when null or omitted, at the end of an array too. -/
def optionalAtEnd : Slot → Option (Option α)
  | .given .null => some none
  | .given v => (read v).map some
  | _ => some none

/-- A member with a default, which null does not stand for. -/
def orDefault (default : α) : Slot → Option α
  | .given v => read v
  | _ => some default

/-- A member with a default, which null stands for too. -/
def nullable (default : α) : Slot → Option α
  | .given .null => some default
  | .given v => read v
  | _ => some default

end Slot

namespace Json

/-- The object of the members that are present. -/
def record (members : List (String × Option Json)) : Json :=
  .obj (members.filterMap fun (k, v) => v.map fun v => (k, v))

def slotAt (items : List Json) (i : Nat) : Slot :=
  match items[i]? with
  | some v => .given v
  | none => .cutOff

def slotOf (members : List (String × Json)) (name : String) : Slot :=
  match lastMember? name members with
  | some v => .given v
  | none => .omitted

def isRepeated (members : List (String × Json)) (name : String) : Bool :=
  (members.filter (·.1 = name)).length > 1

/-- What a record with these names holds, in their order. An object may not repeat a name that
the record knows, and an array may not be longer than the record. -/
def slots? (names : List String) : Json → Option (List Slot)
  | .obj members =>
    if names.any (isRepeated members) then none else some (names.map (slotOf members))
  | .arr items =>
    if items.length ≤ names.length then
      some ((List.range names.length).map (slotAt items))
    else none
  | _ => none

/-! ## Scalars and lists -/

def readString? : Json → Option String
  | .str s => some s
  | _ => none

def readBool? : Json → Option Bool
  | .bool b => some b
  | _ => none

/-- A whole number from `lo` to `hi`. -/
def readInt? (lo hi : Int) : Json → Option Int
  | .int n => if lo ≤ n ∧ n ≤ hi then some n else none
  | _ => none

def readInt32? (j : Json) : Option Int32 :=
  (readInt? (-2147483648) 2147483647 j).map Int32.ofInt

def readInt64? (j : Json) : Option Int64 :=
  (readInt? (-9223372036854775808) 9223372036854775807 j).map Int64.ofInt

def readAll? {α β : Type} (read : β → Option α) : List β → Option (List α)
  | [] => some []
  | x :: rest =>
    match read x, readAll? read rest with
    | some a, some as => some (a :: as)
    | _, _ => none

def readList? {α : Type} (read : Json → Option α) : Json → Option (List α)
  | .arr items => readAll? read items
  | _ => none

/-- The name of a variant without content: a string, or an object with the name as its only
member and null as content. -/
def readVariant? : Json → Option String
  | .str s => some s
  | .obj [(name, .null)] => some name
  | _ => none

def ofInt32 (n : Int32) : Json := .int n.toInt

def ofInt64 (n : Int64) : Json := .int n.toInt

/-- An array, absent when it would be empty. -/
def nonEmpty {α : Type} (encode : α → Json) (l : List α) : Option Json :=
  if l.isEmpty then none else some (.arr (l.map encode))

@[simp] theorem readInt32?_ofInt32 (n : Int32) : readInt32? (ofInt32 n) = some n := by
  have h1 := n.le_toInt
  have h2 := n.toInt_lt
  simp [readInt32?, ofInt32, readInt?]
  omega

@[simp] theorem readInt64?_ofInt64 (n : Int64) : readInt64? (ofInt64 n) = some n := by
  have h1 := n.le_toInt
  have h2 := n.toInt_lt
  simp [readInt64?, ofInt64, readInt?]
  omega

end Json

end ClusterOperator

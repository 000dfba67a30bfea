import ClusterOperator.Dict
import ClusterOperator.Json.Record

/-!
# Objects with loose members

Objects of the platform API are read more loosely than records: only from a JSON object, a member
may be repeated, null is the same as absent, and a member that is not optional has a default. Each
occurrence of a member has to be readable, and the last one counts.

* `readObject?` : the members of an object;
* `occurrences` : what an object holds under a name;
* `optionalMember`, `memberOr` : one member;
* `readDict?`, `ofDict` : maps from text to text.
-/

namespace ClusterOperator.Json

def readObject? : Json → Option (List (String × Json))
  | .obj members => some members
  | _ => none

/-- What an object holds under a name, in its order. -/
def occurrences (name : String) (members : List (String × Json)) : List Json :=
  (members.filter (·.1 = name)).map (·.2)

def readNullable? {α : Type} (read : Json → Option α) : Json → Option (Option α)
  | .null => some none
  | j => (read j).map some

/-- A member that may be absent or null. -/
def optionalMember {α : Type} (read : Json → Option α) (name : String)
    (members : List (String × Json)) : Option (Option α) :=
  (readAll? (readNullable? read) (occurrences name members)).map fun values =>
    values.getLast?.join

/-- A member that stands for its default when absent or null. -/
def memberOr {α : Type} (default : α) (read : Json → Option α) (name : String)
    (members : List (String × Json)) : Option α :=
  (optionalMember read name members).map (·.getD default)

def readDict? (j : Json) : Option (Dict String String) := do
  let members ← readObject? j
  let entries ← readAll? (fun (k, v) => (readString? v).map fun v => (k, v)) members
  return Dict.ofList entries

def ofDict (d : Dict String String) : Json :=
  .obj (d.entries.map fun (k, v) => (k, .str v))

end ClusterOperator.Json

import ClusterOperator.Json.Record

/-!
# Schemas

* `Schema` : the form of a value: a text, a number, a choice of words, a list, a record;
* `Schema.encode` : the schema as the platform API takes it, members in the order of their names.
-/

namespace ClusterOperator

inductive SchemaType where
  | text
  | boolean
  | integer (bits : Nat)
  | choice (words : List String)

mutual

/-- A form with what is said about it. -/
inductive Schema where
  | scalar (type : SchemaType)
  | list (items : Schema)
  /-- The fields of a record, in the order of their names. -/
  | record (fields : SchemaFields)
  /-- The value may be null. -/
  | nullable (s : Schema)
  /-- The value may be missing, and is empty text then. -/
  | emptyByDefault (s : Schema)
  | described (text : String) (s : Schema)

/-- The fields of a record. A field that is needed has to be given. -/
inductive SchemaFields where
  | nil
  | cons (name : String) (needed : Bool) (s : Schema) (rest : SchemaFields)

end

namespace Schema

open Json

def int32 : Schema := .scalar (.integer 32)

def int64 : Schema := .scalar (.integer 64)

def text : Schema := .scalar .text

def boolean : Schema := .scalar .boolean

def choice (words : List String) : Schema := .scalar (.choice words)

def fieldsOf : List (String × Bool × Schema) → SchemaFields
  | [] => .nil
  | (name, needed, s) :: rest => .cons name needed s (fieldsOf rest)

/-- A record with fields that have to be given or not. -/
def ofFields (fields : List (String × Bool × Schema)) : Schema :=
  .record (fieldsOf fields)

def neededNames : SchemaFields → List String
  | .nil => []
  | .cons name needed _ rest => if needed then name :: neededNames rest else neededNames rest

/-- The member `name` put among others in the order of their names. -/
def place (name : String) (value : Json) : List (String × Json) → List (String × Json)
  | [] => [(name, value)]
  | (k, v) :: rest =>
    if name < k then (name, value) :: (k, v) :: rest else (k, v) :: place name value rest

def scalarMembers : SchemaType → List (String × Json)
  | .text => [("type", .str "string")]
  | .boolean => [("type", .str "boolean")]
  | .integer bits =>
    [("format", .str (if bits = 32 then "int32" else "int64")), ("type", .str "integer")]
  | .choice words => [("enum", .arr (words.map .str)), ("type", .str "string")]

mutual

def members : Schema → List (String × Json)
  | .scalar t => scalarMembers t
  | .list s => [("items", .obj (members s)), ("type", .str "array")]
  | .record fields =>
    let needed := neededNames fields
    ("properties", .obj (properties fields)) ::
      ((if needed.isEmpty then [] else [("required", .arr (needed.map .str))]) ++
        [("type", .str "object")])
  | .nullable s => place "nullable" (.bool true) (members s)
  | .emptyByDefault s => place "default" (.str "") (members s)
  | .described t s => place "description" (.str t) (members s)

/-- The encoded fields of a record. -/
def properties : SchemaFields → List (String × Json)
  | .nil => []
  | .cons name _ s rest => (name, .obj (members s)) :: properties rest

end

def encode (s : Schema) : Json :=
  .obj (members s)

end Schema

end ClusterOperator

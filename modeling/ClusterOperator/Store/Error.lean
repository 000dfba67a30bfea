/-!
# Failures of stores

`StoreError` is how a call to a store of objects fails, `StoreError.kindName` what such a failure
is called, and `StoreError.message` its text.
-/

namespace ClusterOperator

inductive StoreError where
  | notFound (object name : String)
  | conflict (message : String)
  | api (message : String)
  deriving DecidableEq, Repr

namespace StoreError

def kindName : StoreError → String
  | .notFound _ _ => "NotFound"
  | .conflict _ => "Conflict"
  | .api _ => "Api"

def message : StoreError → String
  | .notFound object name => object ++ " " ++ name ++ " not found"
  | .conflict m => "conflict: " ++ m
  | .api m => "api error: " ++ m

def isNotFound : StoreError → Bool
  | .notFound _ _ => true
  | _ => false

end StoreError

end ClusterOperator

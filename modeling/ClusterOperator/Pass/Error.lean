import ClusterOperator.Convergence.Error
import ClusterOperator.Entity.Validation
import ClusterOperator.Inventory.Error
import ClusterOperator.Queue.Outcome

/-!
# Failures of passes

* `PassError` : how a pass over an entity fails, with `PassError.kindName` and
  `PassError.message`;
* `PassError.retry` : how the pass is to be retried.
-/

namespace ClusterOperator

inductive PassError where
  | validation (reason : Invalid)
  | fetch (key : Key) (source : StoreError)
  | children (source : ChildError)
  | query (source : QueryError) (retryAfter : Duration)
  | statusWrite (source : StoreError)
  deriving DecidableEq, Repr

namespace PassError

def kindName : PassError → String
  | .validation _ => "Validation"
  | .fetch _ source => "Fetch." ++ source.kindName
  | .children source => "Apply." ++ source.kindName
  | .query source _ => "Query." ++ source.kindName
  | .statusWrite source => "StatusWrite." ++ source.kindName

def message : PassError → String
  | .validation reason => "validation failed: " ++ reason.message
  | .fetch key source => "failed to fetch " ++ key.text ++ ": " ++ source.message
  | .children source => "failed to converge children: " ++ source.message
  | .query source _ => "query failed: " ++ source.message
  | .statusWrite source => "failed to publish status: " ++ source.message

/-- A refused spec waits for a change of the spec, a failed query for its next refresh, and all
else is retried with back-off. -/
def retry : PassError → Retry
  | .validation _ => .awaitChange
  | .query _ delay => .after delay
  | .fetch _ _ | .children _ | .statusWrite _ => .backoff

end PassError

end ClusterOperator

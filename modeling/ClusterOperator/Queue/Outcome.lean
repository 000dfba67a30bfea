import ClusterOperator.Time.Duration

/-!
# Outcomes of passes

* `Requeue` : what a successful pass asks for;
* `Retry` : how a failed pass is to be retried.
-/

namespace ClusterOperator

/-- What a successful pass asks for. -/
inductive Requeue where
  /-- Nothing until something changes. -/
  | awaitChange
  | immediate
  | after (delay : Duration)
  deriving DecidableEq, Repr

inductive Retry where
  /-- Not before something changes. -/
  | awaitChange
  | after (delay : Duration)
  /-- After the back-off delay of its key. -/
  | backoff
  deriving DecidableEq, Repr

end ClusterOperator

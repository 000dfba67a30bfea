import ClusterOperator.Text.Decimal

/-!
# Failures of inventory lookups

`QueryError` is how a lookup at the inventory service fails, `QueryError.kindName` what such a
failure is called, and `QueryError.message` its text.
-/

namespace ClusterOperator

inductive QueryError where
  /-- The request could not be sent or was not answered. -/
  | transport (cause : String)
  /-- The answer has a status other than success. -/
  | status (code : Nat) (body : String)
  /-- The service reports errors. -/
  | remote (messages : List String)
  /-- The answer does not have the form of a result. -/
  | decode (cause : String)
  /-- The service knows no cluster of this identity. -/
  | notFound (id : String)
  deriving DecidableEq, Repr

def QueryError.kindName : QueryError → String
  | .transport _ => "Transport"
  | .status _ _ => "Status"
  | .remote _ => "Remote"
  | .decode _ => "Decode"
  | .notFound _ => "NotFound"

def QueryError.message : QueryError → String
  | .transport cause => "request failed: " ++ cause
  | .status code body =>
    "unexpected status code " ++ String.ofList (Text.Decimal.digits code) ++ ": " ++ body
  | .remote messages => "graphql errors: " ++ "; ".intercalate messages
  | .decode cause => "failed to decode response: " ++ cause
  | .notFound id => "cluster " ++ id ++ " not found"

end ClusterOperator

import ClusterOperator.Api.Call
import ClusterOperator.Json.Reader
import ClusterOperator.Store.Error
import ClusterOperator.Text.Quoted

/-!
# Failures that the API reports

* `ApiFailure` : a failure as the API describes it, and `ApiFailure.text`;
* `ApiFailure.ofReply?` : the failure of a reply with an error status;
* `ApiFailure.toStoreError` : a missing object and a conflict are told apart by their codes.
-/

namespace ClusterOperator

structure ApiFailure where
  status : String := ""
  message : String := ""
  reason : String := ""
  code : Nat := 0
  deriving DecidableEq, Repr

namespace ApiFailure

open Json

/-- The text of a failure: message and reason, and then the whole description. -/
def text (f : ApiFailure) : String :=
  "ApiError: " ++ f.message ++ ": " ++ f.reason ++ " (ErrorResponse \x7b status: " ++
    Text.Quoted.encode f.status ++ ", message: " ++ Text.Quoted.encode f.message ++
    ", reason: " ++ Text.Quoted.encode f.reason ++ ", code: " ++
    String.ofList (Text.Decimal.digits f.code) ++ " \x7d)"

/-- A number of 16 bits. -/
def readCode? (j : Json) : Option Nat :=
  (readInt? 0 65535 j).map Int.toNat

def decode? (j : Json) : Option ApiFailure :=
  match slots? ["status", "message", "reason", "code"] j with
  | some [status, message, reason, code] => do
    return {
      status := ← status.required readString?
      message := ← message.orDefault readString? ""
      reason := ← reason.orDefault readString? ""
      code := ← code.required readCode? }
  | _ => none

/-- The failure of a reply that does not describe it: the quoted body is the message. -/
def undescribed (r : ApiReply) : ApiFailure where
  status := String.ofList (Text.Decimal.digits r.status)
  message := Text.Quoted.encode r.body
  reason := "Failed to parse error data"
  code := r.status

/-- The failure of a reply with an error status. The code in the body counts. -/
def ofReply? (r : ApiReply) : Option ApiFailure :=
  if 400 ≤ r.status ∧ r.status < 600 then
    some (((parse? r.body.toList).bind decode?).getD (undescribed r))
  else none

/-- The object is not there, by the reason that is given. -/
def isAbsence (f : ApiFailure) : Bool :=
  f.reason = "NotFound"

/-- The failure of a call about an object. -/
def toStoreError (f : ApiFailure) (kindName name : String) : StoreError :=
  if f.code = 404 then .notFound kindName name
  else if f.code = 409 then .conflict f.message
  else .api f.text

def encode (f : ApiFailure) : Json :=
  .obj [
    ("kind", .str "Status"),
    ("apiVersion", .str "v1"),
    ("metadata", .obj []),
    ("status", .str f.status),
    ("message", .str f.message),
    ("reason", .str f.reason),
    ("code", .int f.code)]

end ApiFailure

end ClusterOperator

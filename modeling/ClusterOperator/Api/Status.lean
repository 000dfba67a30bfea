import ClusterOperator.Json.Record

/-!
# Statuses of operations

* `ApiStatus.check?` : a value describes how an operation ended. Nothing in it is used, but each
  part of it has to have its form.
-/

namespace ClusterOperator.ApiStatus

open Json

/-- How an operation ended, by name. -/
def readSummary? (j : Json) : Option Unit :=
  (readVariant? j).bind fun name => if name ∈ ["Success", "Failure"] then some () else none

/-- A text whose content is not used. -/
def checkText? (j : Json) : Option Unit :=
  (readString? j).map fun _ => ()

/-- A whole number of at most `max` that is not used. -/
def checkNumber? (max : Int) (j : Json) : Option Unit :=
  (readInt? 0 max j).map fun _ => ()

/-- The parts of a record, each absent or of its form. -/
def checkParts? (parts : List (String × (Json → Option Unit))) (j : Json) : Option Unit := do
  let slots ← slots? (parts.map (·.1)) j
  let _ ← readAll? (fun ((_, check), slot) => slot.orDefault check ()) (parts.zip slots)

def checkCause? : Json → Option Unit :=
  checkParts? [("reason", checkText?), ("message", checkText?), ("field", checkText?)]

def checkDetails? : Json → Option Unit :=
  checkParts? [
    ("name", checkText?), ("group", checkText?), ("kind", checkText?), ("uid", checkText?),
    ("causes", fun j => (readList? checkCause? j).map fun _ => ()),
    ("retryAfterSeconds", checkNumber? 4294967295)]

def orNull (check : Json → Option Unit) : Json → Option Unit
  | .null => some ()
  | j => check j

/-- A value describes how an operation ended. -/
def check? : Json → Option Unit :=
  checkParts? [
    ("status", orNull readSummary?), ("code", checkNumber? 65535), ("message", checkText?),
    ("reason", checkText?), ("details", orNull checkDetails?)]

end ClusterOperator.ApiStatus
